import IpmiRs.Library.Bytes
import IpmiRs.Rmcp.RecvLoop

/-! The IPMI 1.5 session, `State` of `rmcp/v1_5`: its packets with their
authentication codes, and its receive loop. -/
namespace IpmiRs.Rmcp
open Connection App.Auth Library.Bytes

/-- The message digests of `v1_5/md2.rs` and, where the feature is compiled
in, of the MD5 crate. -/
structure Digests where
  md2 : List UInt8 → List UInt8
  md5 : Option (List UInt8 → List UInt8)

/-- `v1_5::Message`. -/
structure V1Message where
  authType : AuthType
  sessionSequenceNumber : UInt32
  sessionId : UInt32
  payload : List UInt8
  deriving DecidableEq

abbrev Password := Vector UInt8 16

namespace V1Message
variable (digests : Digests)

/-- What both digests are taken of. -/
def digested (password : Password) (message : V1Message) : List UInt8 :=
  password.toList ++ toLe 4 message.sessionId.toNat ++ message.payload ++
    toLe 4 message.sessionSequenceNumber.toNat ++ password.toList

/-- `auth::calculate`. -/
def calculate (password : Option Password) (message : V1Message) :
    Except V1WriteError (Option (List UInt8)) :=
  match message.authType, password with
  | .none, _ => .ok none
  | .md2, some password => .ok (some (digests.md2 (message.digested password)))
  | .md5, some password =>
    match digests.md5 with
    | some md5 => .ok (some (md5 (message.digested password)))
    | none => .error (.unsupportedAuthType .md5)
  | .key, some password => .ok (some password.toList)
  | _, none => .error .missingPassword

/-- `auth::verify`. -/
def verify (password : Option Password) (digest : List UInt8) (message : V1Message) : Bool :=
  match message.authType, password with
  | .none, _ => true
  | .md2, some password => digests.md2 (message.digested password) == digest
  | .md5, some password => digests.md5.any fun md5 => md5 (message.digested password) == digest
  | .key, some password => password.toList == digest
  | _, none => false

/-- `Message::write_data`, after the RMCP header in `buffer`. -/
def writeData (password : Option Password) (message : V1Message) (buffer : List UInt8) :
    Except V1WriteError (List UInt8) :=
  match message.calculate digests password with
  | .error error => .error error
  | .ok authCode =>
    if 0xFF < message.payload.length then .error (.payloadTooLarge message.payload.length)
    else
      -- The last byte is the legacy pad.
      .ok (buffer ++ [message.authType.toByte] ++ toLe 4 message.sessionSequenceNumber.toNat ++
        toLe 4 message.sessionId.toNat ++ authCode.getD [] ++
        [UInt8.ofNat message.payload.length] ++ message.payload ++ [0])

/-- The payload behind its length byte, with or without the legacy pad. -/
def payloadOf (dataLen : UInt8) (data : List UInt8) : Except V1ReadError (List UInt8) :=
  if dataLen = 0 ∧ data.length ≤ 1 then .ok []
  else if data.length = dataLen.toNat then .ok data
  else if data.length = dataLen.toNat + 1 ∧ data.getLast? = some 0 then .ok data.dropLast
  else .error .incorrectPayloadLen

/-- The authentication types a packet may carry a code for. -/
def authTypeOf (value : UInt8) : Except V1ReadError AuthType :=
  match value.toNat with
  | 0x01 => .ok .md2
  | 0x02 => .ok .md5
  | 0x04 => .ok .key
  | _ => .error (.unsupportedAuthType value)

/-- `Message::from_data`. -/
def fromData (password : Option Password) (data : List UInt8) : Except V1ReadError V1Message :=
  if data.length < 10 then .error .notEnoughData
  else
    let sessionSequenceNumber := UInt32.ofNat (ofLe ((data.drop 1).take 4))
    let sessionId := UInt32.ofNat (ofLe ((data.drop 5).take 4))
    if data[0]! = 0x00 then
      (payloadOf data[9]! (data.drop 10)).map fun payload =>
        ⟨.none, sessionSequenceNumber, sessionId, payload⟩
    else if data.length < 26 then .error .notEnoughData
    else
      match authTypeOf data[0]! with
      | .error error => .error error
      | .ok authType =>
        match payloadOf data[25]! (data.drop 26) with
        | .error error => .error error
        | .ok payload =>
          let message : V1Message := ⟨authType, sessionSequenceNumber, sessionId, payload⟩
          if message.verify digests password ((data.drop 9).take 16) then .ok message
          else .error .authcodeError

end V1Message

/-- `v1_5::State`, less what only serial redirection reads of it. -/
structure V1State where
  ipmbState : IpmbState
  sessionId : Option NonZeroU32
  authType : AuthType
  password : Option Password
  sessionSequence : UInt32
  lastInboundSequence : Option UInt32
  activated : Bool

namespace V1State
variable (digests : Digests)

/-- `State::new`. -/
def new : V1State where
  ipmbState := .default
  sessionId := none
  authType := .none
  password := none
  sessionSequence := 0
  lastInboundSequence := none
  activated := false

/-- No session sequence number is left. -/
def exhausted (s : V1State) : Bool := s.sessionId.isSome && s.sessionSequence == 0xFFFFFFFF

/-- `send_payload`. -/
def sendPayload (s : V1State) (payload : List UInt8) (deadline : Instant) (sending : Sending) :
    Except RmcpIpmiSendError (List UInt8) × V1State :=
  match sending.refused deadline with
  | some error => (.error error, s)
  | none =>
    if s.exhausted then (.error .sessionSequenceExhausted, s)
    else
      let s := { s with
        sessionSequence := if s.sessionId.isSome then s.sessionSequence + 1 else s.sessionSequence }
      let message : V1Message :=
        ⟨s.authType, s.sessionSequence, s.sessionId.elim 0 Subtype.val, payload⟩
      ((sending.send .io fun buffer => message.writeData digests s.password buffer).mapError .v1_5, s)

/-- `send`: its checks are made again by `send_payload`. -/
def send (s : V1State) (request : Request) (deadline : Instant) (checked sending : Sending) :
    Except RmcpIpmiSendError (List UInt8) × V1State :=
  match checked.refused deadline with
  | some error => (.error error, s)
  | none =>
    if s.exhausted then (.error .sessionSequenceExhausted, s)
    else
      match s.ipmbState.begin request deadline with
      | (.error error, ipmbState) => (.error error, { s with ipmbState })
      | (.ok payload, ipmbState) =>
        match { s with ipmbState }.sendPayload digests payload deadline sending with
        | (.error error, s) => (.error error, { s with ipmbState := s.ipmbState.retirePending })
        | (.ok datagram, s) => (.ok datagram, s)

/-- What the session checks of a packet before it looks at the payload. -/
def refused (s : V1State) (seen : List UInt32) (message : V1Message) :
    Option RmcpIpmiReceiveError :=
  match s.sessionId with
  | none => none
  | some sessionId =>
    if message.sessionId ≠ sessionId.1 ∨ message.authType ≠ s.authType then
      some .sessionIdMismatch
    else if s.activated = true ∧ (message.sessionSequenceNumber = 0 ∨
        s.lastInboundSequence.any (message.sessionSequenceNumber ≤ ·) = true ∨
        message.sessionSequenceNumber ∈ seen) then some .invalidSessionSequence
    else none

/-- What `recv` does to receive one packet. The packet is looked at before
there is known to be room to note its sequence number. -/
def receiveOne (s : V1State) (_deadline : Instant) (turn : Turn) (unrelated : Nat)
    (seen : List UInt32) : Intake V1State :=
  match turn.arrivals.recv unrelated with
  | (.error error, unrelated) => ⟨.error error, unrelated, seen, none, s⟩
  | (.ok data, unrelated) =>
    let refuse (error : RmcpIpmiReceiveError) (s : V1State) : Intake V1State :=
      ⟨.error error, unrelated, seen, none, s⟩
    match V1Message.fromData digests s.password data with
    | .error error => refuse (.session (.v1_5 error)) s
    | .ok message =>
      let sequence := message.sessionSequenceNumber
      match s.refused seen message with
      | some error => refuse error s
      | none =>
        match s.ipmbState.receive message.payload with
        | (.error error, ipmbState) => refuse error { s with ipmbState }
        | (.ok response, ipmbState) =>
          let s := { s with ipmbState }
          if !s.activated then ⟨.ok response, unrelated, seen, some sequence, s⟩
          else if 64 + MAX_UNRELATED ≤ seen.length then
            ⟨.error .tooManyUnrelatedPackets, unrelated, seen, some sequence, s⟩
          else ⟨.ok response, unrelated, seen ++ [sequence], some sequence, s⟩

/-- What one reception leads to, given what arrived. -/
inductive Reception (s : V1State) (seen : List UInt32) :
    Except RmcpIpmiReceiveError (List UInt8) × Nat → Intake V1State → Prop
  | unread (error : RmcpIpmiReceiveError) (count : Nat) :
      Reception s seen (.error error, count) ⟨.error error, count, seen, none, s⟩
  | refused (data : List UInt8) (count : Nat) (error : RmcpIpmiReceiveError)
      (untimed : error ≠ .timeout) :
      Reception s seen (.ok data, count) ⟨.error error, count, seen, none, s⟩
  | unanswered (data : List UInt8) (count : Nat) (payload : List UInt8)
      (error : RmcpIpmiReceiveError) (ipmbState : IpmbState)
      (received : s.ipmbState.receive payload = (.error error, ipmbState)) :
      Reception s seen (.ok data, count) ⟨.error error, count, seen, none, { s with ipmbState }⟩
  | inactive (data : List UInt8) (count : Nat) (sequence : UInt32) (payload : List UInt8)
      (response : Option Response) (ipmbState : IpmbState) (pending : s.activated = false)
      (received : s.ipmbState.receive payload = (.ok response, ipmbState)) :
      Reception s seen (.ok data, count)
        ⟨.ok response, count, seen, some sequence, { s with ipmbState }⟩
  | full (data : List UInt8) (count : Nat) (message : V1Message) (response : Option Response)
      (ipmbState : IpmbState) (taken : s.refused seen message = none)
      (room : 64 + MAX_UNRELATED ≤ seen.length)
      (received : s.ipmbState.receive message.payload = (.ok response, ipmbState)) :
      Reception s seen (.ok data, count)
        ⟨.error .tooManyUnrelatedPackets, count, seen, some message.sessionSequenceNumber,
          { s with ipmbState }⟩
  | accepted (data : List UInt8) (count : Nat) (message : V1Message) (response : Option Response)
      (ipmbState : IpmbState) (taken : s.refused seen message = none)
      (received : s.ipmbState.receive message.payload = (.ok response, ipmbState)) :
      Reception s seen (.ok data, count)
        ⟨.ok response, count, seen ++ [message.sessionSequenceNumber],
          some message.sessionSequenceNumber, { s with ipmbState }⟩

theorem refused_untimed {s : V1State} {seen : List UInt32} {message : V1Message}
    {error : RmcpIpmiReceiveError} (refused : s.refused seen message = some error) :
    error ≠ .timeout := by
  unfold V1State.refused at refused
  repeat' split at refused
  all_goals cases refused
  all_goals simp

theorem receiveOne_cases (s : V1State) (deadline : Instant) (turn : Turn) (unrelated : Nat)
    (seen : List UInt32) :
    Reception s seen (turn.arrivals.recv unrelated)
      (s.receiveOne digests deadline turn unrelated seen) := by
  unfold receiveOne
  split
  · rename_i error count arrived
    rw [arrived]
    exact .unread error count
  rename_i data count arrived
  rw [arrived]
  simp only
  split
  · exact .refused _ _ _ (by simp)
  rename_i message _
  split
  · rename_i error refused
    exact .refused _ _ error (refused_untimed refused)
  rename_i taken
  split
  · rename_i error ipmbState received
    exact .unanswered _ _ _ error ipmbState received
  rename_i response ipmbState received
  split
  · rename_i pending
    exact .inactive _ _ _ _ response ipmbState (by simpa using pending) received
  split
  · rename_i room
    exact .full _ _ message response ipmbState taken room received
  · exact .accepted _ _ message response ipmbState taken received

def transport : Transport V1State where
  ipmb := ipmbState
  setIpmb s ipmbState := { s with ipmbState }
  lastInbound := lastInboundSequence
  setLastInbound s lastInboundSequence := { s with lastInboundSequence }
  sendPayload := sendPayload digests
  receiveOne := receiveOne digests
  countsIdle := false

def recv (s : V1State) (turns : List Turn) :
    Call V1State (Except RmcpIpmiReceiveError Response) := (transport digests).recv s turns

end V1State
end IpmiRs.Rmcp
