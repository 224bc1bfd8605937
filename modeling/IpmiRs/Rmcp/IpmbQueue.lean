import IpmiRs.Rmcp.IpmbReceive

/-! The packet in a Get Message body. Some BMCs leave out its destination
address, and nothing in the body says so: only a checksum tells the two forms
apart, and the same checksum restores the missing byte. -/
namespace IpmiRs.Rmcp
open Connection Library

/-- A successful reply to a poll, with the given body. -/
def Fetched (data : List UInt8) (poll : ExpectedReply) (body : List UInt8) : Prop :=
  ∃ response, correlate data poll = .ok response ∧ response.cc = 0 ∧ response.data = body

/-- A packet that stays valid when its destination address is cut off goes from
address 0 to address 0. -/
theorem addresses_of_validate_tail {packet : List UInt8}
    (valid : validateIpmbChecksums packet = true)
    (ambiguous : validateIpmbChecksums packet.tail = true) : packet[0]! = 0 ∧ packet[3]! = 0 := by
  obtain ⟨long, header, rest⟩ := (validateIpmbChecksums_iff packet).mp valid
  obtain ⟨-, shiftedHeader, shiftedRest⟩ := (validateIpmbChecksums_iff packet.tail).mp ambiguous
  obtain ⟨a, b, c, d, tail, rfl⟩ : ∃ a b c d tail, packet = a :: b :: c :: d :: tail := by
    match packet with
    | a :: b :: c :: d :: tail => exact ⟨a, b, c, d, tail, rfl⟩
    | [] | [_] | [_, _] | [_, _, _] => simp at long
  simp only [List.tail_cons, List.take_succ_cons, List.take_zero, List.drop_succ_cons,
    List.drop_zero, Checksum.total_cons, Checksum.total_nil] at header rest shiftedHeader shiftedRest
  simp only [List.getElem!_cons_zero, List.getElem!_cons_succ]
  -- The second checksum covers the responder's address in one form only.
  have responder : d = 0 := by rwa [shiftedRest, UInt8.add_zero] at rest
  constructor
  · rw [responder] at shiftedHeader
    grind
  · exact responder

namespace PendingRequest

/-- A complete packet is taken as it is. -/
theorem queuedPacket_complete {packet : List UInt8} (valid : validateIpmbChecksums packet = true) :
    queuedPacket packet = some packet := by
  rw [queuedPacket, if_pos valid]

/-- A packet with an address to go to, or to come from, is restored when its
first byte is missing. -/
theorem queuedPacket_tail {packet : List UInt8} (valid : validateIpmbChecksums packet = true)
    (addressed : packet[0]! ≠ 0 ∨ packet[3]! ≠ 0) : queuedPacket packet.tail = some packet := by
  have short : ¬ validateIpmbChecksums packet.tail = true := by
    intro ambiguous
    obtain ⟨destination, source⟩ := addresses_of_validate_tail valid ambiguous
    cases addressed with
    | inl named => exact named destination
    | inr named => exact named source
  obtain ⟨long, header, -⟩ := (validateIpmbChecksums_iff packet).mp valid
  obtain ⟨a, b, c, tail, rfl⟩ : ∃ a b c tail, packet = a :: b :: c :: tail := by
    match packet with
    | a :: b :: c :: tail => exact ⟨a, b, c, tail, rfl⟩
    | [] | [_] | [_, _] => simp at long
  have restored : (0 : UInt8) - (b + c) = a := by
    simp only [List.take_succ_cons, List.take_zero, Checksum.total_cons, Checksum.total_nil] at header
    grind
  rw [queuedPacket, if_neg short]
  simp only [List.tail_cons, List.getElem!_cons_zero, List.getElem!_cons_succ, restored]
  rw [if_pos valid]

variable {p : PendingRequest} {poll : ExpectedReply} {data : List UInt8} {channel : UInt8}

/-- What a Get Message reply leads to depends on its body only through the
channel and the packet found in it. -/
theorem receivePoll_fetched {response : Response} {packet body : List UInt8}
    (fetching : poll.cmd = GET_MESSAGE) (complete : response.cc = 0)
    (carries : response.data = channel :: body) (long : 7 ≤ body.length)
    (found : queuedPacket body = some packet) (supported : Bool) :
    p.receivePoll poll response supported =
      ⟨if channel = p.queueChannel then .nested packet else .done (.error .ipmbResponseMismatch),
        { p with poll := none, queueAvailable := false }, supported⟩ := by
  have flags : ¬ poll.cmd = GET_MESSAGE_FLAGS := by rw [fetching]; decide
  have full : ¬ (channel :: body).length < 8 := by rw [List.length_cons]; omega
  unfold receivePoll
  simp only
  rw [if_neg (by simp [complete]), if_neg flags, carries, if_neg full, List.getElem!_cons_zero,
    List.drop_succ_cons, List.drop_zero, found]
  by_cases addressed : channel = p.queueChannel
  · rw [if_neg (by simp [addressed]), if_pos addressed]
  · rw [if_pos addressed, if_neg addressed]

/-- A Get Message reply is received as the packet found in its body. -/
theorem receiveNested_fetched {packet body : List UInt8} (asked : p.poll = some poll)
    (fetching : poll.cmd = GET_MESSAGE) (fetched : Fetched data poll (channel :: body))
    (long : 7 ≤ body.length) (found : queuedPacket body = some packet) (left : Nat)
    (supported : Bool) :
    p.receiveNested (left + 1) data supported =
      if channel = p.queueChannel then
        { p with poll := none, queueAvailable := false }.receiveNested left packet supported
      else ⟨.error .ipmbResponseMismatch, { p with poll := none, queueAvailable := false },
        supported⟩ := by
  obtain ⟨response, answers, complete, carries⟩ := fetched
  rw [receiveNested, receiveLayer_poll asked answers,
    receivePoll_fetched fetching complete carries long found]
  by_cases addressed : channel = p.queueChannel
  · rw [if_pos addressed, if_pos addressed]
  · rw [if_neg addressed, if_neg addressed]

end PendingRequest

/-- A queued packet is received alike with its destination address and without
it, and a complete packet is never mistaken for one that lacks it. -/
theorem get_message_body_forms (s : IpmbState) (p : PendingRequest) (poll : ExpectedReply)
    (waiting : s.pending = some p) (asked : p.poll = some poll)
    (fetching : poll.cmd = GET_MESSAGE) (channel : UInt8) (packet : List UInt8)
    (valid : validateIpmbChecksums packet = true) :
    (packet[0]! ≠ 0 → ∀ whole short, Fetched whole poll (channel :: packet) →
      Fetched short poll (channel :: packet.tail) → s.receive whole = s.receive short) ∧
    (∀ whole, Fetched whole poll (channel :: packet) → channel = p.queueChannel →
      p.receiveNested 3 whole s.getMessageSupported =
        { p with poll := none, queueAvailable := false }.receiveNested 2 packet
          s.getMessageSupported) := by
  have long := ((validateIpmbChecksums_iff packet).mp valid).1
  have complete := PendingRequest.queuedPacket_complete valid
  constructor
  · intro addressed whole short fetched truncated
    have restored := PendingRequest.queuedPacket_tail valid (.inl addressed)
    have cut : 7 ≤ packet.tail.length := by rw [List.length_tail]; omega
    have same := (PendingRequest.receiveNested_fetched asked fetching fetched (by omega) complete 2
      s.getMessageSupported).trans (PendingRequest.receiveNested_fetched asked fetching truncated cut
        restored 2 s.getMessageSupported).symm
    simp only [IpmbState.receive, waiting, same]
  · intro whole fetched addressed
    rw [PendingRequest.receiveNested_fetched asked fetching fetched (by omega) complete 2,
      if_pos addressed]

private def queuePoll : ExpectedReply := ⟨1, 7, GET_MESSAGE, 0x20, .zero, 0x81, .zero⟩

private def pollingQueue : PendingRequest :=
  { PendingRequest.fresh ⟨2, 7, 0x01, 0x2c, .zero, 0x81, .zero⟩ (.replicate 2 none) 0 100 with
    poll := some queuePoll }

theorem get_message_body_forms_without_destination :
    { IpmbState.default with pending := some pollingQueue }.receive
      [0x81, 0x1c, 0x63, 0x20, 0x04, 0x33, 0x00, 0x00,
        0x81, 0x1c, 0x63, 0x2c, 0x08, 0x01, 0x00, 0xcb, 0xa9] =
    { IpmbState.default with pending := some pollingQueue }.receive
      [0x81, 0x1c, 0x63, 0x20, 0x04, 0x33, 0x00, 0x00,
        0x1c, 0x63, 0x2c, 0x08, 0x01, 0x00, 0xcb, 0x2a] :=
  (get_message_body_forms { IpmbState.default with pending := some pollingQueue } pollingQueue
    queuePoll rfl rfl rfl 0 [0x81, 0x1c, 0x63, 0x2c, 0x08, 0x01, 0x00, 0xcb] (by decide)).1
    (by decide) _ _
    ⟨⟨1, ⟨7, 0x33, [0, 0, 0x81, 0x1c, 0x63, 0x2c, 0x08, 0x01, 0x00, 0xcb]⟩, by simp⟩, by decide, rfl, rfl⟩
    ⟨⟨1, ⟨7, 0x33, [0, 0, 0x1c, 0x63, 0x2c, 0x08, 0x01, 0x00, 0xcb]⟩, by simp⟩, by decide, rfl, rfl⟩

end IpmiRs.Rmcp
