import IpmiRs.Connection
import IpmiRs.Library.Checksum
import IpmiRs.Rmcp.Errors

/-! The IPMB layer of a session, `IpmbState` of `rmcp/internal.rs`: wire
framing, correlation of replies, sequence allocation and reservation, and the
recursive receive of bridged replies. -/
namespace IpmiRs.Rmcp
open Connection Library

/-- `Checksum::finalize` of `rmcp/checksum.rs` after feeding every byte. -/
def checksum (data : List UInt8) : UInt8 := ~~~(Checksum.total data) + 1

@[simp] theorem checksum_eq (data : List UInt8) : checksum data = -Checksum.total data :=
  Checksum.not_add_one _

structure ExpectedReply where
  sequence : UInt8
  netfn : UInt8
  cmd : UInt8
  responderAddr : UInt8
  responderLun : LogicalUnit
  requestorAddr : UInt8
  requestorLun : LogicalUnit
  deriving DecidableEq

/-- A hop is a place among the two acknowledgements. -/
theorem hop_lt (hop : Fin 2) : hop.val < 2 := hop.isLt

/-- `PendingRequest`. Hop 0 of the two acknowledgements is the BMC's own Send
Message, hop 1 the transit controller's. -/
structure PendingRequest where
  finalReply : ExpectedReply
  sendAcks : Vector (Option ExpectedReply) 2
  acked : Vector Bool 2
  poll : Option ExpectedReply
  deferred : Option Response
  queueChannel : UInt8
  queueAvailable : Bool
  deadline : Instant
  pollBlocked : Bool
  deriving DecidableEq

/-- A pending request that has been answered by nothing yet. -/
def PendingRequest.fresh (finalReply : ExpectedReply)
    (sendAcks : Vector (Option ExpectedReply) 2) (queueChannel : UInt8) (deadline : Instant) :
    PendingRequest where
  finalReply
  sendAcks
  acked := #v[false, false]
  poll := none
  deferred := none
  queueChannel
  queueAvailable := false
  deadline
  pollBlocked := false

structure IpmbState where
  ipmbSequence : UInt8
  responderAddr : UInt8
  requestorAddr : UInt8
  requestorLun : LogicalUnit
  pending : Option PendingRequest
  retiredSequences : Vector Bool 64
  getMessageSupported : Bool
  reservedSequences : Option Nat
  deriving DecidableEq

/-- `IpmbState::default`. -/
def IpmbState.default : IpmbState where
  responderAddr := 0x20
  requestorAddr := 0x81
  requestorLun := .zero
  ipmbSequence := 0
  pending := none
  retiredSequences := Vector.replicate 64 false
  getMessageSupported := true
  reservedSequences := none

def APP_NETFN : UInt8 := 6
def SEND_MESSAGE : UInt8 := 0x34
def GET_MESSAGE : UInt8 := 0x33
def GET_MESSAGE_FLAGS : UInt8 := 0x31
def TRACK_REQUEST : UInt8 := 0x40

/-- `validate_ipmb_checksums`: the header and the rest each carry their own
checksum byte. -/
def validateIpmbChecksums (data : List UInt8) : Bool :=
  if data.length < 8 then false
  else if checksum [data[0]!, data[1]!] ≠ data[2]! then false
  else checksum ((data.take (data.length - 1)).drop 3) == data[data.length - 1]!

def ipmbRequest (expected : ExpectedReply) (data : List UInt8) : List UInt8 :=
  let first := [expected.responderAddr, ((expected.netfn - 1) <<< 2) ||| expected.responderLun.value]
  let second := [expected.requestorAddr,
    (expected.sequence <<< 2) ||| expected.requestorLun.value, expected.cmd]
  first ++ [checksum first] ++ second ++ data ++ [checksum (second ++ data)]

def validHop (hop : IpmbTarget) : Bool :=
  2 ≤ hop.address && hop.address &&& 1 == 0 &&
    match hop.channel with
    | .primary | .numbered _ => true
    | .system | .current => false

/-- `correlate`: the response a packet carries, if it is a well-formed reply
to the expected request. -/
def correlate (data : List UInt8) (expected : ExpectedReply) :
    Except RmcpIpmiReceiveError Response :=
  if data.length < 8 then .error .notEnoughData
  else if !validateIpmbChecksums data then .error .ipmbChecksumFailed
  else if data[0]! ≠ expected.requestorAddr
      ∨ data[1]! &&& 3 ≠ expected.requestorLun.value
      ∨ data[3]! ≠ expected.responderAddr
      ∨ data[4]! &&& 3 ≠ expected.responderLun.value
      ∨ data[4]! >>> 2 ≠ expected.sequence
      ∨ data[1]! >>> 2 ≠ expected.netfn
      ∨ data[5]! ≠ expected.cmd then .error .ipmbResponseMismatch
  else
    match Response.new ⟨data[1]! >>> 2, data[5]!, (data.take (data.length - 1)).drop 6⟩
        expected.sequence.toNat with
    | some response => .ok response
    | none => .error .emptyMessage

namespace IpmbState

/-- Whether the sequence `index` places after the next one was issued before. -/
def retiredAhead (s : IpmbState) (index : Nat) : Bool :=
  let slot : Fin 64 := ⟨(s.ipmbSequence.toNat + index) &&& 0x3f,
    Nat.and_lt_two_pow (n := 6) _ (by decide)⟩
  s.retiredSequences[slot]

/-- `remaining_sequences`: how many consecutive sequences are still unused. -/
def remainingSequences (s : IpmbState) : Nat :=
  ((List.range 64).takeWhile fun index => !s.retiredAhead index).length

def reserveSequences (s : IpmbState) (minimum : Nat) : Bool × IpmbState :=
  if s.pending.isSome ∨ s.reservedSequences.isSome ∨ s.remainingSequences < minimum then (false, s)
  else (true, { s with reservedSequences := some minimum })

def releaseSequences (s : IpmbState) : IpmbState := { s with reservedSequences := none }

def retirePending (s : IpmbState) : IpmbState := { s with pending := none }

/-- `next_reply`: take the next sequence, never to be used again, and describe
the reply it will be answered by. -/
def nextReply (s : IpmbState) (netfn cmd responderAddr : UInt8) (responderLun : LogicalUnit)
    (requestorAddr : UInt8) : ExpectedReply × IpmbState :=
  let sequence := s.ipmbSequence &&& 0x3f
  ({ sequence, netfn := netfn + 1, cmd, responderAddr, responderLun, requestorAddr,
     requestorLun := s.requestorLun },
   { s with
     ipmbSequence := (sequence + 1) &&& 0x3f
     retiredSequences := s.retiredSequences.set sequence.toNat true (by
       rw [UInt8.toNat_and]; exact Nat.and_lt_two_pow (n := 6) _ (by decide)) })

/-- Allocating a sequence keeps both addresses and the reservation. -/
theorem nextReply_keeps (s : IpmbState) (netfn cmd responderAddr : UInt8) (responderLun : LogicalUnit)
    (requestorAddr : UInt8) :
    (s.nextReply netfn cmd responderAddr responderLun requestorAddr).2.responderAddr = s.responderAddr ∧
    (s.nextReply netfn cmd responderAddr responderLun requestorAddr).2.requestorAddr = s.requestorAddr ∧
    (s.nextReply netfn cmd responderAddr responderLun requestorAddr).2.reservedSequences = s.reservedSequences :=
  ⟨rfl, rfl, rfl⟩

/-- Where a request goes: the local BMC unit, or a bridged target with its
optional transit hop. The source keeps both in one pair of options. -/
inductive Route where
  | localUnit (lun : LogicalUnit)
  | bridged (target : IpmbTarget) (transit : Option IpmbTarget)
  deriving DecidableEq

def route (s : IpmbState) : RequestTargetAddress → Route
  | .bmc lun => .localUnit lun
  | .bmcOrIpmb address channel lun =>
    if address = s.responderAddr ∧ (channel = .current ∨ channel = .primary) then .localUnit lun
    else .bridged ⟨address, channel, lun⟩ none
  | .bridged target transit => .bridged target transit

/-- The checks `begin` makes on a bridged target before anything is sent. -/
def checkBridge (s : IpmbState) (request : Request) (target : IpmbTarget)
    (transit : Option IpmbTarget) : Except RmcpIpmiSendError Unit :=
  let badTransit := transit.any fun hop =>
    !validHop hop || (hop.address == target.address && hop.channel == target.channel) ||
      hop.address == s.responderAddr
  if !validHop target || badTransit then .error .invalidBridgeTarget
  else
    let len := 7 + request.data.length + 8 * (1 + if transit.isSome then 1 else 0)
    if 0xFF < len then .error (.bridgePayloadTooLarge len) else .ok ()

/-- The number of sequences a request consumes. -/
def Route.needed : Route → Nat
  | .localUnit _ => 1
  | .bridged _ transit => 2 + if transit.isSome then 1 else 0

def checkRoute (s : IpmbState) (request : Request) : Route → Except RmcpIpmiSendError Unit
  | .bridged target transit => s.checkBridge request target transit
  | .localUnit _ => .ok ()

/-- The checks of `begin`, in its order; a failed one leaves the state alone. -/
def checkBegin (s : IpmbState) (request : Request) : Except RmcpIpmiSendError Unit :=
  if s.pending.isSome then .error .requestPending
  else if 0x3e < request.netfn.requestValue then .error (.invalidNetfn request.netfnRaw)
  else
    match s.checkRoute request (s.route request.target) with
    | .error error => .error error
    | .ok () =>
      if s.reservedSequences.any (· < (s.route request.target).needed) then
        .error .ipmbSequenceExhausted
      else if (List.range (s.route request.target).needed).any s.retiredAhead then
        .error .ipmbSequenceExhausted
      else .ok ()

/-- An accepted request uses up its part of the reservation. -/
def consumeReserved (s : IpmbState) (needed : Nat) : IpmbState :=
  { s with reservedSequences := s.reservedSequences.map (· - needed) }

@[simp] theorem route_consumeReserved (s : IpmbState) (needed : Nat)
    (target : RequestTargetAddress) : (s.consumeReserved needed).route target = s.route target := by
  cases target <;> rfl

/-- What `begin` does once every check has passed: allocate the sequences from
the outermost layer inwards, and wrap the request from the inside out. -/
def accept (s : IpmbState) (request : Request) (deadline : Instant) : List UInt8 × IpmbState :=
  match s.route request.target with
  | .bridged target transit =>
    let (bmcAck, s) :=
      s.nextReply APP_NETFN SEND_MESSAGE s.responderAddr .zero s.requestorAddr
    let (transitAck, s) : Option ExpectedReply × IpmbState :=
      match transit with
      | some hop =>
        let (ack, s) := s.nextReply APP_NETFN SEND_MESSAGE hop.address hop.lun s.requestorAddr
        (some ack, s)
      | none => (none, s)
    let (finalReply, s) := s.nextReply request.netfn.requestValue request.cmd target.address
      target.lun (if transit.isSome then s.responderAddr else s.requestorAddr)
    let inner := ipmbRequest finalReply request.data
    let inner := match transitAck with
      | some ack => ipmbRequest ack ((TRACK_REQUEST ||| target.channel.value) :: inner)
      | none => inner
    let channel := transit.elim target.channel.value fun hop => hop.channel.value
    (ipmbRequest bmcAck ((TRACK_REQUEST ||| channel) :: inner),
      { s with pending := some (.fresh finalReply #v[some bmcAck, transitAck] channel deadline) })
  | .localUnit lun =>
    let (reply, s) := s.nextReply request.netfn.requestValue request.cmd s.responderAddr lun
      s.requestorAddr
    (ipmbRequest reply request.data,
      { s with pending := some (.fresh reply #v[none, none] 0 deadline) })

def begin (s : IpmbState) (request : Request) (deadline : Instant) :
    Except RmcpIpmiSendError (List UInt8) × IpmbState :=
  match s.checkBegin request with
  | .error error => (.error error, s)
  | .ok () =>
    let (payload, s) :=
      (s.consumeReserved (s.route request.target).needed).accept request deadline
    (.ok payload, s)

def needsPoll (s : IpmbState) : Bool :=
  s.pending.any fun p =>
    s.getMessageSupported && !p.pollBlocked && (getElem p.sendAcks 0 Nat.two_pos).isSome &&
      getElem p.acked 0 Nat.two_pos && p.poll.isNone

def queueAvailable (s : IpmbState) : Bool := s.pending.any (·.queueAvailable)

def stopPolling (s : IpmbState) : IpmbState := { s with getMessageSupported := false }

/-- `poll_message`. Indexing the retirement table by a sequence of 64 or more
would panic; no reachable state has one. -/
def pollMessage (s : IpmbState) : Except RmcpIpmiSendError (List UInt8) × IpmbState :=
  match s.pending with
  | none => (.error .requestPending, s)
  | some p =>
    if !s.needsPoll then (.error .requestPending, s)
    else if s.reservedSequences.any (s.remainingSequences ≤ ·) then
      (.error .ipmbSequenceReserved, { s with pending := some { p with pollBlocked := true } })
    else if s.retiredSequences[s.ipmbSequence.toNat]?.getD true then
      (.error .ipmbSequenceExhausted, s)
    else
      let (reply, s) := s.nextReply APP_NETFN
        (if s.queueAvailable then GET_MESSAGE else GET_MESSAGE_FLAGS)
        s.responderAddr .zero s.requestorAddr
      (.ok (ipmbRequest reply []), { s with pending := some { p with poll := some reply } })

end IpmbState

/-- What examining one packet leads to: `receive_nested` returns, or it calls
itself on the packet nested inside. -/
inductive Layer where
  | done (result : Except RmcpIpmiReceiveError (Option Response))
  | nested (packet : List UInt8)
  deriving DecidableEq

/-- The pending request, whether Get Message is still believed supported, and
what one call made of them. -/
structure Received (α : Type) where
  result : α
  pending : PendingRequest
  getMessageSupported : Bool
  deriving DecidableEq

namespace PendingRequest

/-- Every Send Message hop the request has was acknowledged. -/
def allAcked (p : PendingRequest) : Bool :=
  (getElem p.acked 0 Nat.two_pos || (getElem p.sendAcks 0 Nat.two_pos).isNone) &&
    ((getElem p.sendAcks 1 Nat.one_lt_two).isNone || getElem p.acked 1 Nat.one_lt_two)

/-- The packet inside a Get Message body after its channel byte; some BMCs
leave out the destination address, which the header checksum restores. -/
def queuedPacket (queued : List UInt8) : Option (List UInt8) :=
  if validateIpmbChecksums queued then some queued
  else
    let full := ((0 : UInt8) - (queued[0]! + queued[1]!)) :: queued
    if validateIpmbChecksums full then some full else none

/-- The reply to an outstanding Get Message or Get Message Flags poll. -/
def receivePoll (p : PendingRequest) (poll : ExpectedReply) (response : Response)
    (supported : Bool) : Received Layer :=
  let p := { p with poll := none }
  let code := response.cc
  if code ≠ 0 then
    if code = 0x80 ∧ poll.cmd = GET_MESSAGE then
      ⟨.done (.ok none), { p with queueAvailable := false }, supported⟩
    else if code ∈ [0xc1, 0xc2, 0xd6] then ⟨.done (.ok none), p, false⟩
    -- Retry only read-only queue probes, never the original command.
    else if code ∈ [0xc0, 0xc3, 0xce, 0xd0, 0xd1, 0xd2, 0xd5] then
      ⟨.done (.ok none), { p with queueAvailable := false }, supported⟩
    else ⟨.done (.error (.bridgeQueueCompletion poll.cmd code)), p, supported⟩
  else if poll.cmd = GET_MESSAGE_FLAGS then
    match response.data with
    | [flags] => ⟨.done (.ok none), { p with queueAvailable := flags &&& 1 != 0 }, supported⟩
    | _ => ⟨.done (.error .notEnoughData), p, supported⟩
  else
    let p := { p with queueAvailable := false }
    let body := response.data
    if body.length < 8 then ⟨.done (.error .notEnoughData), p, supported⟩
    else if body[0]! ≠ p.queueChannel then ⟨.done (.error .ipmbResponseMismatch), p, supported⟩
    else
      match queuedPacket (body.drop 1) with
      | some packet => ⟨.nested packet, p, supported⟩
      | none => ⟨.done (.error .ipmbChecksumFailed), p, supported⟩

/-- The acknowledgement of the Send Message of hop `hop`. -/
def receiveAck (p : PendingRequest) (hop : Fin 2) (response : Response) (supported : Bool) :
    Received Layer :=
  if getElem p.acked hop (hop_lt hop) then ⟨.done (.error .ipmbResponseMismatch), p, supported⟩
  else if response.cc ≠ 0 then
    ⟨.done (.error (.bridgeCompletion hop response.cc)), p, supported⟩
  else
    let p := { p with acked := p.acked.set hop true (hop_lt hop) }
    if response.data ≠ [] then ⟨.nested response.data, p, supported⟩
    else if getElem p.acked 0 Nat.two_pos &&
        ((getElem p.sendAcks 1 Nat.one_lt_two).isNone || getElem p.acked 1 Nat.one_lt_two) then
      ⟨.done (.ok p.deferred), { p with deferred := none }, supported⟩
    else ⟨.done (.ok none), p, supported⟩

/-- A packet that answers no poll and acknowledges no hop. -/
def receiveFinal (p : PendingRequest) (data : List UInt8) (supported : Bool) : Received Layer :=
  match correlate data p.finalReply with
  | .error error => ⟨.done (.error error), p, supported⟩
  | .ok response =>
    if p.allAcked then ⟨.done (.ok (some response)), p, supported⟩
    else if p.deferred.isSome then ⟨.done (.error .ipmbResponseMismatch), p, supported⟩
    else ⟨.done (.ok none), { p with deferred := some response }, supported⟩

/-- The reply a packet is to, if it is one the pending request still expects. -/
def matching (data : List UInt8) (expected : Option ExpectedReply) : Option Response :=
  expected.bind fun expected => (correlate data expected).toOption

/-- One round of `receive_nested`, up to its return or its recursive call. -/
def receiveLayer (p : PendingRequest) (data : List UInt8) (supported : Bool) : Received Layer :=
  match p.poll, matching data p.poll with
  | some poll, some response => p.receivePoll poll response supported
  | _, _ =>
    match matching data (getElem p.sendAcks 0 Nat.two_pos) with
    | some response => p.receiveAck 0 response supported
    | none =>
      match matching data (getElem p.sendAcks 1 Nat.one_lt_two) with
      | some response => p.receiveAck 1 response supported
      | none => p.receiveFinal data supported

/-- `receive_nested`, whose `depth` counts up to 2; here `left` counts the
levels that remain, so that `depth > 2` is `left = 0`. -/
def receiveNested : Nat → PendingRequest → List UInt8 → Bool →
    Received (Except RmcpIpmiReceiveError (Option Response))
  | 0, p, _, supported => ⟨.error .ipmbResponseMismatch, p, supported⟩
  | left + 1, p, data, supported =>
    match p.receiveLayer data supported with
    | ⟨.done result, p, supported⟩ => ⟨result, p, supported⟩
    | ⟨.nested packet, p, supported⟩ => receiveNested left p packet supported

end PendingRequest

/-- `IpmbState::receive`. An error leaves whatever `receive_nested` changed. -/
def IpmbState.receive (s : IpmbState) (data : List UInt8) :
    Except RmcpIpmiReceiveError (Option Response) × IpmbState :=
  match s.pending with
  | none => (.error .noPendingRequest, s)
  | some p =>
    let r := p.receiveNested 3 data s.getMessageSupported
    let s := { s with pending := some r.pending, getMessageSupported := r.getMessageSupported }
    match r.result with
    | .ok (some response) => (.ok (some response), { s with pending := none })
    | result => (result, s)

end IpmiRs.Rmcp
