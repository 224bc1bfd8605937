import IpmiRs.Rmcp.Crypto
import IpmiRs.Rmcp.RecvLoop
import IpmiRs.Rmcp.Sol

/-! The RMCP+ session, `State` of `rmcp/v2_0`: sending requests and console
frames, and the one place where packets are received, shared by `recv` and
`poll_sol`. -/
namespace IpmiRs.Rmcp
open Connection

def U32_MAX : UInt32 := 0xFFFFFFFF

private theorem succ_ne_zero {value : UInt32} (left : value ≠ U32_MAX) : value + 1 ≠ 0 := by
  intro wrapped
  apply left
  rw [show value = value + 1 - 1 by grind, wrapped]
  rfl

/-- The session sequence number after this one, if there is one. -/
def followingSequence (value : NonZeroU32) : Option NonZeroU32 :=
  if left : value.1 ≠ U32_MAX then some ⟨value.1 + 1, succ_ne_zero left⟩ else none

/-- `v2_0::State`. Its socket is what the operations are given of the world. -/
structure V2State where
  sessionId : NonZeroU32
  sessionSequenceNumber : NonZeroU32
  consoleSessionId : NonZeroU32
  lastInboundSequence : Option UInt32
  state : CryptoState
  ipmbState : IpmbState
  sol : Option SolFlow

namespace V2State

section send
variable (provider : CryptoProvider)

/-- The datagram of one packet of this session. -/
def sendMessage (s : V2State) (ty : PayloadType) (sequence : UInt32) (payload : List UInt8)
    (sending : Sending) : Except RmcpIpmiSendError (List UInt8) :=
  (sending.send .io fun buffer =>
    s.state.state.writePayload provider sending.iv ⟨ty, s.sessionId.1, sequence, payload⟩ buffer).mapError
      .v2_0

/-- `send_payload`. The sequence number is used up even if the send fails. -/
def sendPayload (s : V2State) (payload : List UInt8) (deadline : Instant) (sending : Sending) :
    Except RmcpIpmiSendError (List UInt8) × V2State :=
  match sending.refused deadline, followingSequence s.sessionSequenceNumber with
  | some error, _ => (.error error, s)
  | none, none => (.error .sessionSequenceExhausted, s)
  | none, some following =>
    (s.sendMessage provider .ipmiMessage s.sessionSequenceNumber.1 payload sending,
      { s with sessionSequenceNumber := following })

/-- `send`: its checks are made again by `send_payload`. -/
def send (s : V2State) (request : Request) (deadline : Instant) (checked sending : Sending) :
    Except RmcpIpmiError (List UInt8) × V2State :=
  match checked.refused deadline, followingSequence s.sessionSequenceNumber with
  | some error, _ => (.error (.send error), s)
  | none, none => (.error (.send .sessionSequenceExhausted), s)
  | none, some _ =>
    match s.ipmbState.begin request deadline with
    | (.error error, ipmbState) => (.error (.send error), { s with ipmbState })
    | (.ok payload, ipmbState) =>
      match { s with ipmbState }.sendPayload provider payload deadline sending with
      | (.error error, s) =>
        (.error error.intoOperationError, { s with ipmbState := s.ipmbState.retirePending })
      | (.ok datagram, s) => (.ok datagram, s)

/-- `send_sol_frame`. -/
def sendSolFrame (s : V2State) (frame : SolFrame) (deadline : Instant) (sending : Sending) :
    Except RmcpIpmiError (List UInt8) × V2State :=
  match sending.refused deadline, followingSequence s.sessionSequenceNumber, frame.encode with
  | some error, _, _ => (.error (.send error), s)
  | none, none, _ => (.error (.send .sessionSequenceExhausted), s)
  | none, some _, .error _ => (.error (.send .solFrame), s)
  | none, some following, .ok payload =>
    ((s.sendMessage provider .sol s.sessionSequenceNumber.1 payload sending).mapError .send,
      { s with sessionSequenceNumber := following })

/-- Sending uses up a session sequence number and touches nothing else. -/
theorem sendPayload_frame (s : V2State) (payload : List UInt8) (deadline : Instant)
    (sending : Sending) :
    ∃ sequence, (s.sendPayload provider payload deadline sending).2 =
      { s with sessionSequenceNumber := sequence } := by
  unfold sendPayload
  split <;> exact ⟨_, rfl⟩

theorem sendSolFrame_frame (s : V2State) (frame : SolFrame) (deadline : Instant)
    (sending : Sending) :
    ∃ sequence, (s.sendSolFrame provider frame deadline sending).2 =
      { s with sessionSequenceNumber := sequence } := by
  unfold sendSolFrame
  split <;> exact ⟨_, rfl⟩

end send

section receive
variable (provider : CryptoProvider)

/-- What `receive_one` does with a SOL payload, once a SOL session is open. -/
def receiveSol (s : V2State) (flow : SolFlow) (payload : List UInt8) (deadline : Instant)
    (acking : Sending) : Except RmcpIpmiReceiveError (Option Response) × V2State :=
  match SolFrame.decode payload with
  | .error error => (.error (.sol error), s)
  | .ok frame =>
    let (accepted, flow) := flow.accept frame
    let s := { s with sol := some flow }
    match accepted with
    | .error error =>
      if frame.sequence ≠ 0 then
        match s.sendSolFrame provider (SolFrame.ackOf frame.sequence 0 true) deadline acking with
        | (.error _, s) => (.error .solAckFailed, s)
        | (.ok _, s) => (.error (.sol error), s)
      else (.error (.sol error), s)
    | .ok ack =>
      let (sent, s) :=
        match ack with
        | some ack => s.sendSolFrame provider ack deadline acking
        | none => (.ok [], s)
      match sent with
      | .error _ => (.error .solAckFailed, s)
      | .ok _ =>
        if frame.flags.inactive then (.error (.sol .remoteInactive), s)
        else if frame.flags.overrun then (.error (.sol .outputOverrun), s)
        else (.ok none, s)

/-- What a console payload leads to: nothing, or an error of the console. -/
inductive SolResult : Except RmcpIpmiReceiveError (Option Response) → Prop
  | taken : SolResult (.ok none)
  | refused (error : SolFrameError) : SolResult (.error (.sol error))
  | unacknowledged : SolResult (.error .solAckFailed)

/-- A frame moves the flow, and its acknowledgement uses up a session sequence
number; nothing else is touched. -/
theorem receiveSol_frame (s : V2State) (flow : SolFlow) {payload : List UInt8} {frame : SolFrame}
    (decoded : SolFrame.decode payload = .ok frame) (deadline : Instant) (acking : Sending) :
    ∃ sequence, (s.receiveSol provider flow payload deadline acking).2 =
      { s with sessionSequenceNumber := sequence, sol := some (flow.accept frame).2 } := by
  have sends (ack : SolFrame) := sendSolFrame_frame provider
    { s with sol := some (flow.accept frame).2 } ack deadline acking
  unfold receiveSol
  simp only [decoded]
  split
  · split
    · obtain ⟨sequence, same⟩ := sends (SolFrame.ackOf frame.sequence 0 true)
      split
      · rename_i failed
        exact ⟨sequence, by rw [← same, failed]⟩
      · rename_i delivered
        exact ⟨sequence, by rw [← same, delivered]⟩
    · exact ⟨s.sessionSequenceNumber, rfl⟩
  · rename_i ack _
    cases ack with
    | none =>
      refine ⟨s.sessionSequenceNumber, ?_⟩
      simp only
      repeat' split
      all_goals rfl
    | some ack =>
      obtain ⟨sequence, same⟩ := sends ack
      refine ⟨sequence, ?_⟩
      rw [← same]
      simp only
      repeat' split
      all_goals rfl

theorem receiveSol_refused (s : V2State) (flow : SolFlow) {payload : List UInt8}
    {error : SolFrameError} (refused : SolFrame.decode payload = .error error) (deadline : Instant)
    (acking : Sending) :
    s.receiveSol provider flow payload deadline acking = (.error (.sol error), s) := by
  rw [receiveSol, refused]

theorem receiveSol_ipmbState (s : V2State) (flow : SolFlow) (payload : List UInt8)
    (deadline : Instant) (acking : Sending) :
    (s.receiveSol provider flow payload deadline acking).2.ipmbState = s.ipmbState := by
  cases decoded : SolFrame.decode payload with
  | error error => rw [receiveSol_refused provider s flow decoded]
  | ok frame =>
    obtain ⟨sequence, same⟩ := receiveSol_frame provider s flow decoded deadline acking
    rw [same]

theorem receiveSol_isSome {s : V2State} {flow : SolFlow} (opened : s.sol = some flow)
    (payload : List UInt8) (deadline : Instant) (acking : Sending) :
    (s.receiveSol provider flow payload deadline acking).2.sol.isSome = s.sol.isSome := by
  cases decoded : SolFrame.decode payload with
  | error error => rw [receiveSol_refused provider s flow decoded]
  | ok frame =>
    obtain ⟨sequence, same⟩ := receiveSol_frame provider s flow decoded deadline acking
    rw [same, opened]
    rfl

theorem receiveSol_result (s : V2State) (flow : SolFlow) (payload : List UInt8)
    (deadline : Instant) (acking : Sending) :
    SolResult (s.receiveSol provider flow payload deadline acking).1 := by
  cases decoded : SolFrame.decode payload with
  | error error =>
    rw [receiveSol_refused provider s flow decoded]
    exact .refused error
  | ok frame =>
    unfold receiveSol
    simp only [decoded]
    repeat' split
    all_goals first | exact .taken | exact .refused _ | exact .unacknowledged

/-- How a call of `poll_sol` ends: `sol_flow` panics without a SOL session. -/
inductive SolPoll where
  | panicked
  | returned (result : Except RmcpIpmiReceiveError Unit)

/-- Whether a session sequence number is not one to accept. -/
def staleSequence (last : Option UInt32) (seen : List UInt32) (sequence : UInt32) : Bool :=
  sequence == 0 || last.any (sequence ≤ ·) || seen.contains sequence

/-- `receive_one`. A console frame counts as seen before it is looked at, an
IPMI message only once `receive` has returned. -/
def receiveOne (s : V2State) (deadline : Instant) (turn : Turn) (unrelated : Nat)
    (seen : List UInt32) : Intake V2State :=
  match turn.arrivals.recv unrelated with
  | (.error error, unrelated) => ⟨.error error, unrelated, seen, none, s⟩
  | (.ok data, unrelated) =>
    let refuse (error : RmcpIpmiReceiveError) (s : V2State) : Intake V2State :=
      ⟨.error error, unrelated, seen, none, s⟩
    match s.state.state.readPayload provider data with
    | .error error => refuse (.session (.v2_0 error)) s
    | .ok message =>
      let sequence := message.sessionSequenceNumber
      if message.sessionId ≠ s.consoleSessionId.1 then refuse .sessionIdMismatch s
      else if staleSequence s.lastInboundSequence seen sequence then
        refuse .invalidSessionSequence s
      else if 64 + MAX_UNRELATED ≤ seen.length then refuse .tooManyUnrelatedPackets s
      else
        match message.ty with
        | .ipmiMessage =>
          if s.ipmbState.pending.isNone then refuse .unexpectedPayloadType s
          else
            match s.ipmbState.receive message.payload with
            | (.error error, ipmbState) => refuse error { s with ipmbState }
            | (.ok response, ipmbState) =>
              ⟨.ok response, unrelated, seen ++ [sequence], some sequence, { s with ipmbState }⟩
        | .sol =>
          match s.sol with
          | none => refuse .unexpectedPayloadType s
          | some flow =>
            let (result, s) := s.receiveSol provider flow message.payload deadline turn.acking
            ⟨result, unrelated, seen ++ [sequence], some sequence, s⟩
        | _ => refuse .unexpectedPayloadType s

/-- What one reception leads to, given what arrived. -/
inductive Reception (s : V2State) (deadline : Instant) (acking : Sending) (seen : List UInt32) :
    Except RmcpIpmiReceiveError (List UInt8) × Nat → Intake V2State → Prop
  | unread (error : RmcpIpmiReceiveError) (count : Nat) :
      Reception s deadline acking seen (.error error, count) ⟨.error error, count, seen, none, s⟩
  | refused (data : List UInt8) (count : Nat) (error : RmcpIpmiReceiveError)
      (untimed : error ≠ .timeout) :
      Reception s deadline acking seen (.ok data, count) ⟨.error error, count, seen, none, s⟩
  | unanswered (data : List UInt8) (count : Nat) (payload : List UInt8)
      (error : RmcpIpmiReceiveError) (ipmbState : IpmbState)
      (received : s.ipmbState.receive payload = (.error error, ipmbState)) :
      Reception s deadline acking seen (.ok data, count)
        ⟨.error error, count, seen, none, { s with ipmbState }⟩
  | accepted (data : List UInt8) (count : Nat) (sequence : UInt32) (payload : List UInt8)
      (response : Option Response) (ipmbState : IpmbState)
      (current : ¬ staleSequence s.lastInboundSequence seen sequence = true)
      (room : ¬ 64 + MAX_UNRELATED ≤ seen.length)
      (received : s.ipmbState.receive payload = (.ok response, ipmbState)) :
      Reception s deadline acking seen (.ok data, count)
        ⟨.ok response, count, seen ++ [sequence], some sequence, { s with ipmbState }⟩
  | console (data : List UInt8) (count : Nat) (sequence : UInt32) (payload : List UInt8)
      (flow : SolFlow) (current : ¬ staleSequence s.lastInboundSequence seen sequence = true)
      (room : ¬ 64 + MAX_UNRELATED ≤ seen.length) (opened : s.sol = some flow) :
      Reception s deadline acking seen (.ok data, count)
        ⟨(s.receiveSol provider flow payload deadline acking).1, count, seen ++ [sequence],
          some sequence, (s.receiveSol provider flow payload deadline acking).2⟩

theorem receiveOne_cases (s : V2State) (deadline : Instant) (turn : Turn) (unrelated : Nat)
    (seen : List UInt32) :
    Reception provider s deadline turn.acking seen (turn.arrivals.recv unrelated)
      (s.receiveOne provider deadline turn unrelated seen) := by
  unfold receiveOne
  split
  · rename_i error count arrived
    rw [arrived]
    exact .unread error count
  rename_i data count arrived
  rw [arrived]
  simp only
  split
  · exact .refused _ _ _ (by simp)
  split
  · exact .refused _ _ _ (by simp)
  split
  · exact .refused _ _ _ (by simp)
  rename_i current
  split
  · exact .refused _ _ _ (by simp)
  rename_i room
  split
  · split
    · exact .refused _ _ _ (by simp)
    · split
      · rename_i error ipmbState received
        exact .unanswered _ _ _ error ipmbState received
      · rename_i response ipmbState received
        exact .accepted _ _ _ _ response ipmbState current room received
  · split
    · exact .refused _ _ _ (by simp)
    · rename_i flow opened
      exact .console _ _ _ _ flow current room opened
  · exact .refused _ _ _ (by simp)

def transport : Transport V2State where
  ipmb := ipmbState
  setIpmb s ipmbState := { s with ipmbState }
  lastInbound := lastInboundSequence
  setLastInbound s lastInboundSequence := { s with lastInboundSequence }
  sendPayload := sendPayload provider
  receiveOne := receiveOne provider
  countsIdle := true

def recv (s : V2State) (turns : List Turn) :
    Call V2State (Except RmcpIpmiReceiveError Response) := (transport provider).recv s turns

/-- `poll_sol`, which commits after every packet. -/
def pollSol (deadline : Instant) (waitAck : Bool) :
    List Turn → Nat → V2State → Call V2State SolPoll
  | [], _, s => ⟨none, [], s⟩
  | turn :: turns, unrelated, s =>
    let intake := s.receiveOne provider deadline turn unrelated []
    let s := (transport provider).commit intake.state intake.seen
    let done (result : Except RmcpIpmiReceiveError Unit) : Call V2State SolPoll :=
      ⟨some (.returned result), intake.accepted.toList, s⟩
    match intake.result with
    | .error error => done (.error error)
    | .ok (some _) => done (.error .unexpectedPayloadType)
    | .ok none =>
      match s.sol with
      | none => ⟨some .panicked, intake.accepted.toList, s⟩
      | some flow =>
        if waitAck && flow.inputAck.isSome || !waitAck && flow.hasOutput then done (.ok ())
        else
          match countUnrelated intake.unrelated with
          | .error error => done (.error error)
          | .ok unrelated =>
            let rest := pollSol deadline waitAck turns unrelated s
            { rest with accepted := intake.accepted.toList ++ rest.accepted }

end receive

/-- `sol_open`. -/
def solOpen (s : V2State) : V2State :=
  { s with sol := some (.new (MAX_SOL_DATA + 4) (MAX_SOL_DATA + 4)) }

/-- `sol_limits`. -/
def solLimits (s : V2State) (input output : UInt16) : V2State :=
  { s with
    sol := s.sol.map fun flow =>
      { flow with
        maxInput := min input.toNat (MAX_SOL_DATA + 4)
        maxOutput := min output.toNat (MAX_SOL_DATA + 4) } }

/-- `sol_close`. -/
def solClose (s : V2State) : V2State := { s with sol := none }

end V2State
end IpmiRs.Rmcp
