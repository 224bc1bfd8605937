import IpmiRs.Rmcp.IpmbReceive
import IpmiRs.Rmcp.IpmbRuns
import IpmiRs.Rmcp.IpmbSequences

/-! Request framing and reply correlation read the same fields. A request goes
out inside up to two Send Message layers; a responder that turns a layer around
is understood by the matcher of that layer and of no other. -/
namespace IpmiRs.Rmcp
open Connection Library

/-! ### The packets a responder sends -/

/-- The reply packet a responder sends to an expected request. -/
def answer (expected : ExpectedReply) (cc : UInt8) (body : List UInt8) : List UInt8 :=
  let first := [expected.requestorAddr, (expected.netfn <<< 2) ||| expected.requestorLun.value]
  let second := [expected.responderAddr,
    (expected.sequence <<< 2) ||| expected.responderLun.value, expected.cmd, cc] ++ body
  first ++ [checksum first] ++ second ++ [checksum second]

/-- The reply to a request packet, read off the packet alone: the addresses and
units change sides, the function is its response, sequence and command stay. -/
def respond (request : List UInt8) (cc : UInt8) (body : List UInt8) : List UInt8 :=
  let first := [request[3]!, (((request[1]! >>> 2) + 1) <<< 2) ||| (request[4]! &&& 3)]
  let second := [request[0]!, ((request[4]! >>> 2) <<< 2) ||| (request[1]! &&& 3), request[5]!, cc] ++ body
  first ++ [checksum first] ++ second ++ [checksum second]

/-- The six-bit fields of an expected reply fit. -/
structure Sized (expected : ExpectedReply) : Prop where
  sequence : expected.sequence < 64
  netfn : expected.netfn < 64

theorem packed (high : UInt8) (lun : LogicalUnit) (small : high < 64) :
    ((high <<< 2) ||| lun.value) &&& 3 = lun.value ∧ ((high <<< 2) ||| lun.value) >>> 2 = high := by
  have table : ∀ n : Fin 64, ((UInt8.ofNat n <<< 2) ||| lun.value) &&& 3 = lun.value ∧
      ((UInt8.ofNat n <<< 2) ||| lun.value) >>> 2 = UInt8.ofNat n := by
    cases lun <;> decide
  simpa using table ⟨high.toNat, UInt8.lt_iff_toNat_lt.mp small⟩

section answer
variable {expected : ExpectedReply} (held : Sized expected) (cc : UInt8) (body : List UInt8)
include held

theorem answers_answer : Answers (answer expected cc body) expected where
  long := by simp [answer]
  header := (Checksum.total_concat_eq_zero_iff
    [expected.requestorAddr, (expected.netfn <<< 2) ||| expected.requestorLun.value] _).mpr
    (checksum_eq _)
  rest := by
    rw [answer]
    exact (Checksum.total_concat_eq_zero_iff _ _).mpr (checksum_eq _)
  requestorAddr := by simp [answer]
  requestorLun := by simpa [answer] using (packed expected.netfn expected.requestorLun held.netfn).1
  responderAddr := by simp [answer]
  responderLun := by
    simpa [answer] using (packed expected.sequence expected.responderLun held.sequence).1
  sequence := by
    simpa [answer] using (packed expected.sequence expected.responderLun held.sequence).2
  netfn := by simpa [answer] using (packed expected.netfn expected.requestorLun held.netfn).2
  cmd := by simp [answer]

/-- An answer correlates with the request it answers. -/
theorem correlate_answer :
    correlate (answer expected cc body) expected = .ok
      ⟨expected.sequence.toNat, ⟨expected.netfn, expected.cmd, cc :: body⟩, by simp⟩ := by
  refine correlate_ok_iff.mpr ⟨answers_answer held cc body, rfl, ?_⟩
  have code : (answer expected cc body)[6]! = cc := by simp [answer]
  have tail : replyBody (answer expected cc body) = body := by simp [replyBody, answer]
  rw [code, tail]

/-- An answer correlates with no request of another sequence. -/
theorem matching_answer_none {other : Option ExpectedReply}
    (apart : ∀ reply, other = some reply → reply.sequence ≠ expected.sequence) :
    PendingRequest.matching (answer expected cc body) other = none := by
  rw [Option.eq_none_iff_forall_ne_some]
  intro response matched
  obtain ⟨reply, known, answers⟩ := matching_eq_some.mp matched
  have mine := (answers_answer held cc body).sequence
  have theirs := (correlate_ok answers).1.sequence
  exact apart reply known (theirs.symm.trans mine)

/-- Turning a request packet around answers the request. -/
theorem respond_ipmbRequest (asked : expected.netfn ≠ 0) (data : List UInt8) :
    respond (ipmbRequest expected data) cc body = answer expected cc body := by
  have small : expected.netfn - 1 < 64 := by
    have fits := held.netfn
    rw [UInt8.lt_iff_toNat_lt] at fits ⊢
    have positive : expected.netfn.toNat ≠ 0 := fun zero => asked (UInt8.toNat_inj.mp zero)
    rw [UInt8.toNat_sub]
    change (256 - 1 + expected.netfn.toNat) % 256 < 64
    change expected.netfn.toNat < 64 at fits
    omega
  obtain ⟨responderLun, netfn⟩ := packed (expected.netfn - 1) expected.responderLun small
  obtain ⟨requestorLun, sequence⟩ := packed expected.sequence expected.requestorLun held.sequence
  simp only [respond, ipmbRequest, List.cons_append, List.nil_append, List.getElem!_cons_zero,
    List.getElem!_cons_succ, responderLun, netfn, requestorLun, sequence, UInt8.sub_add_cancel,
    answer]

end answer

/-! ### Reading a request packet -/

/-- The bytes of a request after its command. -/
def requestBody (packet : List UInt8) : List UInt8 := (packet.take (packet.length - 1)).drop 6

/-- A packet with its two headers and both of their checksums. -/
structure Sealed (packet : List UInt8) : Prop where
  long : 7 ≤ packet.length
  header : checksum (packet.take 2) = packet[2]!
  rest : checksum ((packet.take (packet.length - 1)).drop 3) = packet[packet.length - 1]!

/-- The packets inside each other and the channels the Send Message layers
name, outermost first, after taking that many layers off. -/
def strip : Nat → List UInt8 → Option (List (List UInt8) × List Channel)
  | 0, packet => some ([packet], [])
  | layers + 1, packet =>
    if packet[1]! >>> 2 = APP_NETFN ∧ packet[5]! = SEND_MESSAGE then
      match requestBody packet with
      | track :: inner =>
        if track &&& 0xf0 = TRACK_REQUEST then do
          let channel ← Channel.new (track &&& 0x0f)
          let (packets, channels) ← strip layers inner
          return (packet :: packets, channel :: channels)
        else none
      | [] => none
    else none

section ipmbRequest
variable (expected : ExpectedReply) (data : List UInt8)

theorem length_ipmbRequest : (ipmbRequest expected data).length = 7 + data.length := by
  simp only [ipmbRequest, List.cons_append, List.nil_append, List.length_cons, List.length_append,
    List.length_nil]
  omega

theorem sealed_ipmbRequest : Sealed (ipmbRequest expected data) where
  long := by rw [length_ipmbRequest]; omega
  header := by simp [ipmbRequest]
  rest := by simp [ipmbRequest]

theorem requestBody_ipmbRequest : requestBody (ipmbRequest expected data) = data := by
  simp [requestBody, ipmbRequest]

/-- A request header names its responder, the responder's unit and the function. -/
theorem header_ipmbRequest (small : expected.netfn - 1 < 64) :
    (ipmbRequest expected data)[0]! = expected.responderAddr ∧
    LogicalUnit.fromLowBits (ipmbRequest expected data)[1]! = expected.responderLun ∧
    (ipmbRequest expected data)[1]! >>> 2 = expected.netfn - 1 ∧
    (ipmbRequest expected data)[5]! = expected.cmd := by
  obtain ⟨lun, netfn⟩ := packed (expected.netfn - 1) expected.responderLun small
  refine ⟨rfl, ?_, netfn, rfl⟩
  change LogicalUnit.fromLowBits ((expected.netfn - 1) <<< 2 ||| expected.responderLun.value) = _
  unfold LogicalUnit.fromLowBits
  rw [lun]
  cases expected.responderLun <;> rfl

end ipmbRequest

/-- A Send Message body names the channel its request leaves through. -/
theorem channel_of_track (channel : Channel) :
    (TRACK_REQUEST ||| channel.value) &&& 0xf0 = TRACK_REQUEST ∧
    Channel.new ((TRACK_REQUEST ||| channel.value) &&& 0x0f) = some channel := by
  cases channel with
  | numbered number =>
    obtain ⟨value, bounds⟩ := number
    have table : ∀ n : Fin 12, 1 ≤ n.val →
        (TRACK_REQUEST ||| UInt8.ofNat n) &&& 0xf0 = TRACK_REQUEST ∧
        (TRACK_REQUEST ||| UInt8.ofNat n) &&& 0x0f = UInt8.ofNat n := by decide
    obtain ⟨low, high⟩ := bounds
    rw [UInt8.le_iff_toNat_le] at low high
    have entry := table ⟨value.toNat, Nat.lt_succ_of_le high⟩ low
    rw [UInt8.ofNat_toNat] at entry
    refine ⟨entry.1, ?_⟩
    have apart : value ≠ 0 ∧ value ≠ 0xE ∧ value ≠ 0xF := by
      refine ⟨?_, ?_, ?_⟩ <;> rintro rfl
      · exact absurd low (by decide)
      · exact absurd high (by decide)
      · exact absurd high (by decide)
    change Channel.new ((TRACK_REQUEST ||| value) &&& 0x0f) = _
    rw [entry.2, Channel.new, if_neg apart.1, if_neg apart.2.1, if_neg apart.2.2,
      dif_pos ⟨UInt8.le_iff_toNat_le.mpr low, UInt8.le_iff_toNat_le.mpr high⟩]
  | _ => decide

/-! ### The layers of a request -/

/-- The replies a request waits for, outermost layer first. -/
def PendingRequest.replies (p : PendingRequest) : List ExpectedReply :=
  p.sendAcks.toList.filterMap id ++ [p.finalReply]

namespace IpmbState.Route

/-- The channels a request crosses, outermost first. -/
def channels : Route → List Channel
  | .localUnit _ => []
  | .bridged target none => [target.channel]
  | .bridged target (some hop) => [hop.channel, target.channel]

/-- Who answers each layer, outermost first. -/
def responders (responderAddr : UInt8) : Route → List (UInt8 × LogicalUnit)
  | .localUnit lun => [(responderAddr, lun)]
  | .bridged target none => [(responderAddr, .zero), (target.address, target.lun)]
  | .bridged target (some hop) =>
    [(responderAddr, .zero), (hop.address, hop.lun), (target.address, target.lun)]

end IpmbState.Route

/-- A packet inside the Send Message layers around it, outermost first. -/
def enclose : List (ExpectedReply × Channel) → List UInt8 → List UInt8
  | [], packet => packet
  | (ack, channel) :: hops, packet =>
    ipmbRequest ack ((TRACK_REQUEST ||| channel.value) :: enclose hops packet)

/-- The packets at each layer of an enclosed one. -/
def enclosed : List (ExpectedReply × Channel) → List UInt8 → List (List UInt8)
  | [], packet => [packet]
  | hop :: hops, packet => enclose (hop :: hops) packet :: enclosed hops packet

theorem strip_enclose (hops : List (ExpectedReply × Channel)) (packet : List UInt8)
    (sends : ∀ hop ∈ hops, hop.1.netfn = APP_NETFN + 1 ∧ hop.1.cmd = SEND_MESSAGE) :
    strip hops.length (enclose hops packet) = some (enclosed hops packet, hops.map Prod.snd) := by
  induction hops with
  | nil => rfl
  | cons hop hops ih =>
    obtain ⟨ack, channel⟩ := hop
    obtain ⟨netfn, cmd⟩ := sends (ack, channel) (List.mem_cons_self ..)
    have inner := ih fun hop member => sends hop (List.mem_cons_of_mem _ member)
    have asked : ack.netfn - 1 = APP_NETFN := by rw [netfn]; rfl
    obtain ⟨-, -, function, command⟩ := header_ipmbRequest ack
      ((TRACK_REQUEST ||| channel.value) :: enclose hops packet) (by rw [asked]; decide)
    obtain ⟨tracked, named⟩ := channel_of_track channel
    rw [List.length_cons, strip, enclose, if_pos ⟨function.trans asked, command.trans cmd⟩,
      requestBody_ipmbRequest]
    simp only [tracked, if_true, named, inner]
    rfl

/-- Every layer is a request packet for its own expected reply. -/
theorem getElem_enclosed (hops : List (ExpectedReply × Channel)) (last : ExpectedReply)
    (data : List UInt8) {i : Nat} {packet : List UInt8}
    (found : (enclosed hops (ipmbRequest last data))[i]? = some packet) :
    ∃ reply body, (hops.map Prod.fst ++ [last])[i]? = some reply ∧ packet = ipmbRequest reply body := by
  induction hops generalizing i with
  | nil =>
    cases i with
    | zero => exact ⟨last, data, rfl, (Option.some.inj found).symm⟩
    | succ i => simp [enclosed] at found
  | cons hop hops ih =>
    cases i with
    | zero => exact ⟨hop.1, _, rfl, (Option.some.inj found).symm⟩
    | succ i => exact ih (by simpa [enclosed] using found)

theorem length_enclosed (hops : List (ExpectedReply × Channel)) (packet : List UInt8) :
    (enclosed hops packet).length = hops.length + 1 := by
  induction hops with
  | nil => rfl
  | cons hop hops ih => rw [enclosed, List.length_cons, ih, List.length_cons]

theorem getLast_enclosed (hops : List (ExpectedReply × Channel)) (packet : List UInt8) :
    (enclosed hops packet).getLast? = some packet := by
  induction hops with
  | nil => rfl
  | cons hop hops ih => rw [enclosed, List.getLast?_cons, ih]; rfl

/-- Each layer adds eight bytes. -/
theorem length_enclose (hops : List (ExpectedReply × Channel)) (packet : List UInt8) :
    (enclose hops packet).length = packet.length + 8 * hops.length := by
  induction hops with
  | nil => rfl
  | cons hop hops ih =>
    rw [enclose, length_ipmbRequest, List.length_cons, List.length_cons, ih]
    omega

/-- What a request is wrapped as: the Send Message layers with the channels
they name, and the reply to the request itself. -/
structure Wrapping (s : IpmbState) (request : Request) (hops : List (ExpectedReply × Channel))
    (finalReply : ExpectedReply) : Prop where
  channels : hops.map Prod.snd = (s.route request.target).channels
  sends : ∀ hop ∈ hops, hop.1.netfn = APP_NETFN + 1 ∧ hop.1.cmd = SEND_MESSAGE
  responders : (hops.map Prod.fst ++ [finalReply]).map (fun r => (r.responderAddr, r.responderLun)) =
    (s.route request.target).responders s.responderAddr
  netfn : finalReply.netfn = request.netfn.requestValue + 1
  cmd : finalReply.cmd = request.cmd
  small : ∀ reply ∈ hops.map Prod.fst ++ [finalReply], reply.sequence < 64
  distinct : (hops.map Prod.fst ++ [finalReply]).Pairwise fun a b => a.sequence ≠ b.sequence

private theorem and_63_lt (byte : UInt8) : byte &&& 0x3f < 64 := by
  rw [UInt8.lt_iff_toNat_lt, toNat_and_63]
  exact Nat.mod_lt _ (by decide)

/-- Sequences that follow each other differ, and so do every second ones. -/
private theorem and_63_succ (byte : UInt8) :
    byte &&& 0x3f ≠ ((byte &&& 0x3f) + 1) &&& 0x3f &&& 0x3f ∧
    byte &&& 0x3f ≠ ((((byte &&& 0x3f) + 1) &&& 0x3f &&& 0x3f) + 1) &&& 0x3f &&& 0x3f := by
  have next (low : UInt8) : ((low &&& 0x3f) + 1 &&& 0x3f &&& 0x3f).toNat = (low.toNat + 1) % 64 := by
    rw [toNat_and_63, toNat_and_63, UInt8.toNat_add, toNat_and_63]
    change (low.toNat % 64 + 1) % 256 % 64 % 64 = _
    omega
  constructor
  · intro same
    have counted := congrArg UInt8.toNat same
    rw [next, toNat_and_63] at counted
    omega
  · intro same
    have counted := congrArg UInt8.toNat same
    have first := next byte
    generalize (byte &&& 0x3f) + 1 &&& 0x3f &&& 0x3f = following at counted first
    rw [toNat_and_63, toNat_and_63, toNat_and_63, UInt8.toNat_add, first] at counted
    change byte.toNat % 64 = ((byte.toNat + 1) % 64 + 1) % 256 % 64 % 64 at counted
    omega

/-- An accepted request goes out wrapped, and waits for the reply to each layer. -/
theorem accept_wrapped (s : IpmbState) (request : Request) (deadline : Instant) :
    ∃ hops finalReply p, Wrapping s request hops finalReply ∧
      (s.accept request deadline).1 = enclose hops (ipmbRequest finalReply request.data) ∧
      (s.accept request deadline).2.pending = some p ∧
      p.replies = hops.map Prod.fst ++ [finalReply] := by
  obtain ⟨second, third⟩ := and_63_succ s.ipmbSequence
  obtain ⟨fourth, -⟩ := and_63_succ ((s.ipmbSequence &&& 0x3f) + 1 &&& 0x3f)
  unfold IpmbState.accept
  cases routed : s.route request.target with
  | localUnit lun =>
    refine ⟨[], _, _, ?_, rfl, rfl, rfl⟩
    constructor
    · rw [routed]; rfl
    · exact fun hop member => absurd member (by simp)
    · rw [routed]; rfl
    · rfl
    · rfl
    · simp [IpmbState.nextReply, and_63_lt]
    · simp
  | bridged target transit =>
    cases transit with
    | none =>
      refine ⟨[(_, target.channel)], _, _, ?_, rfl, rfl, rfl⟩
      constructor
      · rw [routed]; rfl
      · simp [IpmbState.nextReply]
      · rw [routed]; rfl
      · rfl
      · rfl
      · simp [IpmbState.nextReply, and_63_lt]
      · simpa [IpmbState.nextReply] using second
    | some hop =>
      refine ⟨[(_, hop.channel), (_, target.channel)], _, _, ?_, rfl, rfl, rfl⟩
      constructor
      · rw [routed]; rfl
      · simp [IpmbState.nextReply]
      · rw [routed]; rfl
      · rfl
      · rfl
      · simp [IpmbState.nextReply, and_63_lt]
      · simpa [IpmbState.nextReply] using ⟨⟨second, third⟩, fourth⟩

/-- A bridged request was checked to fit, every layer included. -/
theorem checkRoute_fits {s : IpmbState} {request : Request} {route : IpmbState.Route}
    (checked : s.checkRoute request route = .ok ()) (bridged : route.channels ≠ []) :
    7 + request.data.length + 8 * route.channels.length ≤ 255 := by
  cases route with
  | localUnit lun => exact absurd rfl bridged
  | bridged target transit =>
    rw [IpmbState.checkRoute, IpmbState.checkBridge] at checked
    simp only at checked
    split at checked
    · cases checked
    have fits : ¬ 0xFF < 7 + request.data.length + 8 * (1 + if transit.isSome then 1 else 0) := by
      intro long
      rw [if_pos long] at checked
      cases checked
    cases transit with
    | none =>
      simp only [Option.isSome_none, Bool.false_eq_true, if_false] at fits
      rw [IpmbState.Route.channels, List.length_singleton]
      omega
    | some hop =>
      simp only [Option.isSome_some, if_true] at fits
      rw [IpmbState.Route.channels, List.length_cons, List.length_singleton]
      omega

/-- The function of a request is read back from its request value, unless it is
a reserved one that was given by its response value. -/
theorem ofByte_requestValue {value : UInt8}
    (asked : ∀ reserved, NetFn.ofByte value = .reserved reserved → reserved % 2 = 0) :
    NetFn.ofByte (NetFn.ofByte value).requestValue = NetFn.ofByte value := by
  cases named : NetFn.ofByte value with
  | reserved reserved =>
    have same : reserved = value := by
      unfold NetFn.ofByte at named
      split_ifs at named
      exact (NetFn.reserved.inj named).symm
    have even := asked reserved named
    rw [NetFn.requestValue, if_neg (by rw [even]; decide), same, named, same]
  | _ => rfl

/-! ### Framing and correlation -/

/-- Taking the Send Message layers off what was sent gives the request back,
and the channel and the responder of every layer. -/
structure Framed (s : IpmbState) (request : Request) (payload : List UInt8)
    (packets : List (List UInt8)) : Prop where
  stripped : strip (s.route request.target).channels.length payload =
    some (packets, (s.route request.target).channels)
  valid : ∀ packet ∈ packets, Sealed packet
  small : (s.route request.target).channels ≠ [] → payload.length ≤ 255
  responders : packets.map (fun packet => (packet[0]!, LogicalUnit.fromLowBits packet[1]!)) =
    (s.route request.target).responders s.responderAddr
  innermost : ∃ packet, packets.getLast? = some packet ∧
    packet[1]! >>> 2 = request.netfn.requestValue ∧
    ((∀ value, request.netfn = .reserved value → value % 2 = 0) →
      NetFn.ofByte (packet[1]! >>> 2) = request.netfn) ∧
    packet[5]! = request.cmd ∧ requestBody packet = request.data

/-- Whatever a responder replies to a layer is taken for the reply to that
layer, and for none of the others. -/
structure Correlates (packets : List (List UInt8)) (replies : List ExpectedReply) : Prop where
  paired : packets.length = replies.length
  own : ∀ (i : Nat) packet reply, packets[i]? = some packet → replies[i]? = some reply → ∀ cc body,
    correlate (respond packet cc body) reply =
      .ok ⟨reply.sequence.toNat, ⟨reply.netfn, reply.cmd, cc :: body⟩, by simp⟩
  others : ∀ (i j : Nat) packet reply, i ≠ j → packets[i]? = some packet → replies[j]? = some reply →
    ∀ cc body response, correlate (respond packet cc body) reply ≠ .ok response

section Wrapping
variable {s : IpmbState} {request : Request} {hops : List (ExpectedReply × Channel)}
  {finalReply : ExpectedReply}

/-- Every layer of a wrapped request asks for a response that a function byte holds. -/
theorem Wrapping.sized (held : Wrapping s request hops finalReply)
    (netfn : request.netfn.requestValue ≤ 0x3e) :
    ∀ reply ∈ hops.map Prod.fst ++ [finalReply],
      Sized reply ∧ reply.netfn ≠ 0 ∧ reply.netfn - 1 < 64 := by
  intro reply member
  have fits : reply.netfn < 64 ∧ reply.netfn ≠ 0 ∧ reply.netfn - 1 < 64 := by
    rcases List.mem_append.mp member with around | last
    · obtain ⟨hop, sent, rfl⟩ := List.mem_map.mp around
      rw [(held.sends hop sent).1]
      decide
    · obtain rfl := List.mem_singleton.mp last
      rw [held.netfn, UInt8.add_sub_cancel]
      rw [UInt8.le_iff_toNat_le] at netfn
      change request.netfn.requestValue.toNat ≤ 62 at netfn
      have counted : (request.netfn.requestValue + 1).toNat = request.netfn.requestValue.toNat + 1 := by
        rw [UInt8.toNat_add]
        change (request.netfn.requestValue.toNat + 1) % 256 = _
        omega
      refine ⟨?_, ?_, ?_⟩
      · rw [UInt8.lt_iff_toNat_lt, counted]
        change request.netfn.requestValue.toNat + 1 < 64
        omega
      · intro zero
        rw [zero] at counted
        exact absurd counted.symm (Nat.succ_ne_zero _)
      · rw [UInt8.lt_iff_toNat_lt]
        change request.netfn.requestValue.toNat < 64
        omega
  exact ⟨⟨held.small reply member, fits.1⟩, fits.2⟩

theorem Wrapping.framed (held : Wrapping s request hops finalReply)
    (netfn : request.netfn.requestValue ≤ 0x3e)
    (checked : s.checkRoute request (s.route request.target) = .ok ()) :
    Framed s request (enclose hops (ipmbRequest finalReply request.data))
      (enclosed hops (ipmbRequest finalReply request.data)) := by
  have depth : (s.route request.target).channels.length = hops.length := by
    rw [← held.channels, List.length_map]
  constructor
  · rw [depth, ← held.channels]
    exact strip_enclose hops _ held.sends
  · intro packet member
    obtain ⟨i, found⟩ := List.mem_iff_getElem?.mp member
    obtain ⟨reply, body, -, rfl⟩ := getElem_enclosed hops finalReply request.data found
    exact sealed_ipmbRequest reply body
  · intro bridged
    have fits := checkRoute_fits checked bridged
    rw [length_enclose, length_ipmbRequest]
    omega
  · rw [← held.responders]
    apply List.ext_getElem?
    intro i
    rw [List.getElem?_map, List.getElem?_map]
    cases found : (enclosed hops (ipmbRequest finalReply request.data))[i]? with
    | none =>
      have beyond := List.getElem?_eq_none_iff.mp found
      rw [length_enclosed] at beyond
      rw [List.getElem?_eq_none (by simpa using beyond)]
      rfl
    | some packet =>
      obtain ⟨reply, body, expected, rfl⟩ := getElem_enclosed hops finalReply request.data found
      obtain ⟨address, lun, -⟩ := header_ipmbRequest reply body
        (held.sized netfn reply (List.mem_of_getElem? expected)).2.2
      rw [expected, Option.map_some, Option.map_some, address, lun]
  · obtain ⟨-, -, asked⟩ := held.sized netfn finalReply (by simp)
    obtain ⟨-, -, function, command⟩ := header_ipmbRequest finalReply request.data asked
    have value : finalReply.netfn - 1 = request.netfn.requestValue := by
      rw [held.netfn, UInt8.add_sub_cancel]
    rw [value] at function
    refine ⟨_, getLast_enclosed hops _, function, ?_, command.trans held.cmd,
      requestBody_ipmbRequest finalReply request.data⟩
    intro plain
    rw [function]
    exact ofByte_requestValue plain

theorem Wrapping.correlates (held : Wrapping s request hops finalReply)
    (netfn : request.netfn.requestValue ≤ 0x3e) :
    Correlates (enclosed hops (ipmbRequest finalReply request.data))
      (hops.map Prod.fst ++ [finalReply]) := by
  constructor
  · rw [length_enclosed]
    simp
  · intro i packet reply found expected cc body
    obtain ⟨same, data, known, rfl⟩ := getElem_enclosed hops finalReply request.data found
    obtain rfl := Option.some.inj (known.symm.trans expected)
    obtain ⟨sized, asked, -⟩ := held.sized netfn same (List.mem_of_getElem? known)
    rw [respond_ipmbRequest sized cc body asked]
    exact correlate_answer sized cc body
  · intro i j packet reply apart found expected cc body response accepted
    obtain ⟨other, data, known, rfl⟩ := getElem_enclosed hops finalReply request.data found
    obtain ⟨sized, asked, -⟩ := held.sized netfn other (List.mem_of_getElem? known)
    rw [respond_ipmbRequest sized cc body asked] at accepted
    -- A reply carries the sequence of its own layer, and no two layers share one.
    have different : reply.sequence ≠ other.sequence := by
      obtain ⟨inside, rfl⟩ := List.getElem?_eq_some_iff.mp expected
      obtain ⟨within, rfl⟩ := List.getElem?_eq_some_iff.mp known
      rcases Nat.lt_or_gt_of_ne apart with before | after
      · exact (List.pairwise_iff_getElem.mp held.distinct i j within inside before).symm
      · exact List.pairwise_iff_getElem.mp held.distinct j i inside within after
    have otherwise : ∀ known, some reply = some known → known.sequence ≠ other.sequence :=
      fun _ same => Option.some.inj same ▸ different
    have silent := matching_answer_none sized cc body otherwise
    rw [matching_eq_some.mpr ⟨reply, rfl, accepted⟩] at silent
    cases silent

end Wrapping

/-- Whatever a session asks, `begin` refuses without a change or sends a packet
whose layers can be taken apart again, and the reply to each layer is
recognized at that layer only. -/
theorem begin_framing_and_correlation (s : IpmbState) (request : Request) (deadline : Instant) :
    (∃ error, s.begin request deadline = (.error error, s)) ∨
    ∃ payload t p packets, s.begin request deadline = (.ok payload, t) ∧ t.pending = some p ∧
      Framed s request payload packets ∧ Correlates packets p.replies := by
  rcases s.begin_cases request deadline with ⟨error, -, refused⟩ | ⟨checked, accepted⟩
  · exact .inl ⟨error, refused⟩
  · obtain ⟨-, netfn, bridge, -, -⟩ := IpmbState.checkBegin_ok checked
    obtain ⟨hops, finalReply, p, wrapping, payload, pending, replies⟩ :=
      accept_wrapped (s.consumeReserved (s.route request.target).needed) request deadline
    have wrapping : Wrapping s request hops finalReply :=
      { wrapping with
        channels := by rw [wrapping.channels, IpmbState.route_consumeReserved]
        responders := by rw [wrapping.responders, IpmbState.route_consumeReserved]; rfl }
    have sent : s.begin request deadline =
        (.ok (enclose hops (ipmbRequest finalReply request.data)),
          ((s.consumeReserved (s.route request.target).needed).accept request deadline).2) := by
      rw [accepted, ← payload]
      rfl
    refine .inr ⟨_, _, p, _, sent, pending, wrapping.framed netfn bridge, ?_⟩
    rw [replies]
    exact wrapping.correlates netfn

end IpmiRs.Rmcp
