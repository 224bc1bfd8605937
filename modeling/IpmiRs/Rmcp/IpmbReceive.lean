import IpmiRs.Rmcp.Ipmb

/-! What receiving a packet can do, said once for each part of the recursive
receive: which reply the packet was taken for, and how that part of the state
moves. -/
namespace IpmiRs.Rmcp
open Connection Library

/-- The bytes of a reply after its completion code. -/
def replyBody (data : List UInt8) : List UInt8 := (data.take (data.length - 1)).drop 7

/-- A packet that answers an expected request: long enough, both checksums
right, and every field of its headers as expected. -/
structure Answers (data : List UInt8) (expected : ExpectedReply) : Prop where
  long : 8 ≤ data.length
  header : Checksum.total (data.take 3) = 0
  rest : Checksum.total (data.drop 3) = 0
  requestorAddr : data[0]! = expected.requestorAddr
  requestorLun : data[1]! &&& 3 = expected.requestorLun.value
  responderAddr : data[3]! = expected.responderAddr
  responderLun : data[4]! &&& 3 = expected.responderLun.value
  sequence : data[4]! >>> 2 = expected.sequence
  netfn : data[1]! >>> 2 = expected.netfn
  cmd : data[5]! = expected.cmd

private theorem checksum_eq_iff (data : List UInt8) (byte : UInt8) :
    checksum data = byte ↔ Checksum.total (data ++ [byte]) = 0 := by
  rw [checksum_eq, Checksum.total_concat_eq_zero_iff]
  exact eq_comm

/-- Both checksums hold when each covered part adds up to zero. -/
theorem validateIpmbChecksums_iff (data : List UInt8) :
    validateIpmbChecksums data = true ↔
      8 ≤ data.length ∧ Checksum.total (data.take 3) = 0 ∧ Checksum.total (data.drop 3) = 0 := by
  unfold validateIpmbChecksums
  split
  · rename_i short
    simp only [Bool.false_eq_true, false_iff]
    omega
  · rename_i long
    obtain ⟨a, b, c, rest, rfl⟩ : ∃ a b c rest, data = a :: b :: c :: rest := by
      match data with
      | a :: b :: c :: rest => exact ⟨a, b, c, rest, rfl⟩
      | [] | [_] | [_, _] => simp at long
    obtain ⟨init, last, rfl⟩ : ∃ init last, rest = init ++ [last] := by
      rcases List.eq_nil_or_concat rest with rfl | ⟨init, last, rfl⟩
      · simp at long
      · exact ⟨init, last, List.concat_eq_append⟩
    have tail : ((a :: b :: c :: (init ++ [last])).take
        ((a :: b :: c :: (init ++ [last])).length - 1)).drop 3 = init := by simp
    have final : (a :: b :: c :: (init ++ [last]))[(a :: b :: c :: (init ++ [last])).length - 1]! =
        last := by simp
    rw [tail, final]
    simp only [List.take_succ_cons, List.take_zero, List.drop_succ_cons, List.drop_zero]
    split
    · rename_i header
      simp only [ne_eq, List.getElem!_cons_zero, List.getElem!_cons_succ, checksum_eq_iff] at header
      rw [List.cons_append, List.cons_append, List.nil_append] at header
      simp only [Bool.false_eq_true, header, false_and, and_false]
    · rename_i header
      simp only [ne_eq, List.getElem!_cons_zero, List.getElem!_cons_succ, checksum_eq_iff,
        not_not] at header
      simp only [beq_iff_eq, checksum_eq_iff]
      simp_all

/-- Exactly the answers correlate, and a packet's response carries its
completion code and body. -/
theorem correlate_ok_iff {data : List UInt8} {expected : ExpectedReply} {response : Response} :
    correlate data expected = .ok response ↔ Answers data expected ∧
      response.seq = expected.sequence.toNat ∧
      response.message = ⟨expected.netfn, expected.cmd, data[6]! :: replyBody data⟩ := by
  unfold correlate
  split
  · rename_i short
    simp only [reduceCtorEq, false_iff, not_and]
    exact fun answers => absurd answers.long (by omega)
  rename_i long
  split
  · rename_i corrupt
    simp only [reduceCtorEq, false_iff, not_and]
    intro answers
    have valid := (validateIpmbChecksums_iff data).mpr ⟨answers.long, answers.header, answers.rest⟩
    simp [valid] at corrupt
  rename_i valid
  split
  · rename_i mismatch
    simp only [reduceCtorEq, false_iff, not_and]
    intro answers
    exact absurd mismatch (by simp only [answers.requestorAddr, answers.requestorLun,
      answers.responderAddr, answers.responderLun, answers.sequence, answers.netfn, answers.cmd,
      ne_eq, not_true_eq_false, or_self, not_false_eq_true])
  rename_i same
  simp only [ne_eq, not_or, not_not] at same
  obtain ⟨requestorAddr, requestorLun, responderAddr, responderLun, sequence, netfn, cmd⟩ := same
  have body : (data.take (data.length - 1)).drop 6 = data[6]! :: replyBody data := by
    rw [replyBody, List.drop_eq_getElem_cons (by simp; omega), List.getElem_take,
      List.getElem!_eq_getElem?_getD, List.getElem?_eq_getElem (by omega)]
    rfl
  have checked := (validateIpmbChecksums_iff data).mp (by simpa using valid)
  have answers : Answers data expected :=
    ⟨checked.1, checked.2.1, checked.2.2, requestorAddr, requestorLun, responderAddr, responderLun,
      sequence, netfn, cmd⟩
  rw [body, netfn, cmd]
  simp only [Response.new, ne_eq, reduceCtorEq, not_false_eq_true, ↓reduceDIte, Except.ok.injEq,
    answers, true_and]
  obtain ⟨seq, message, nonempty⟩ := response
  simp only [Response.mk.injEq]
  tauto

theorem Response.cc_of_message {response : Response} {netfn cmd cc : UInt8} {body : List UInt8}
    (shape : response.message = ⟨netfn, cmd, cc :: body⟩) :
    response.cc = cc ∧ response.data = body := by
  simp [Response.cc, Response.data, shape]

/-- What a correlated packet answers, and what its response carries. -/
theorem correlate_ok {data : List UInt8} {expected : ExpectedReply} {response : Response}
    (answers : correlate data expected = .ok response) :
    Answers data expected ∧ response.cc = data[6]! ∧ response.data = replyBody data := by
  obtain ⟨held, -, shape⟩ := correlate_ok_iff.mp answers
  exact ⟨held, Response.cc_of_message shape⟩

theorem matching_eq_some {data : List UInt8} {expected : Option ExpectedReply}
    {response : Response} :
    PendingRequest.matching data expected = some response ↔
      ∃ reply, expected = some reply ∧ correlate data reply = .ok response := by
  cases expected with
  | none => simp [PendingRequest.matching]
  | some reply =>
    cases found : correlate data reply <;>
      simp [PendingRequest.matching, found, Except.toOption]

namespace PendingRequest
variable (p : PendingRequest)

theorem allAcked_iff : p.allAcked = true ↔
    ∀ (hop : Fin 2) reply, getElem p.sendAcks hop (hop_lt hop) = some reply →
      getElem p.acked hop (hop_lt hop) = true := by
  simp only [allAcked, Bool.and_eq_true, Bool.or_eq_true, Option.isNone_iff_eq_none,
    Option.eq_none_iff_forall_ne_some, Fin.forall_fin_two, Fin.getElem_fin]
  simp only [Fin.val_zero, Fin.val_one]
  grind

/-- The acknowledgements are asked for from the outside in. -/
def Layered : Prop := getElem p.sendAcks 0 Nat.two_pos = none → getElem p.sendAcks 1 Nat.one_lt_two = none

/-- Which of the replies still expected a packet is taken for. -/
inductive LayerCase (data : List UInt8) (supported : Bool) : Received Layer → Prop
  | poll (reply : ExpectedReply) (response : Response) (asked : p.poll = some reply)
      (answers : correlate data reply = .ok response) :
      LayerCase data supported (p.receivePoll reply response supported)
  | ack (hop : Fin 2) (reply : ExpectedReply) (response : Response)
      (unpolled : matching data p.poll = none)
      (expected : getElem p.sendAcks hop (hop_lt hop) = some reply) (answers : correlate data reply = .ok response)
      (first : hop = 1 → matching data (getElem p.sendAcks 0 Nat.two_pos) = none) :
      LayerCase data supported (p.receiveAck hop response supported)
  | final (unpolled : matching data p.poll = none)
      (unacked : ∀ hop : Fin 2, matching data (getElem p.sendAcks hop (hop_lt hop)) = none) :
      LayerCase data supported (p.receiveFinal data supported)

section receiveLayer
variable {p} {data : List UInt8}

theorem receiveLayer_poll {reply : ExpectedReply} {response : Response} (asked : p.poll = some reply)
    (answers : correlate data reply = .ok response) (supported : Bool) :
    p.receiveLayer data supported = p.receivePoll reply response supported := by
  unfold receiveLayer
  rw [matching_eq_some.mpr ⟨reply, asked, answers⟩, asked]

theorem receiveLayer_unpolled (unpolled : matching data p.poll = none) (supported : Bool) :
    p.receiveLayer data supported =
      match matching data (getElem p.sendAcks 0 Nat.two_pos) with
      | some response => p.receiveAck 0 response supported
      | none =>
        match matching data (getElem p.sendAcks 1 Nat.one_lt_two) with
        | some response => p.receiveAck 1 response supported
        | none => p.receiveFinal data supported := by
  unfold receiveLayer
  split
  · rename_i polled
    rw [unpolled] at polled
    cases polled
  · rfl

theorem receiveLayer_ack (hop : Fin 2) {reply : ExpectedReply} {response : Response}
    (unpolled : matching data p.poll = none)
    (first : hop = 1 → matching data (getElem p.sendAcks 0 Nat.two_pos) = none)
    (expected : getElem p.sendAcks hop (hop_lt hop) = some reply)
    (answers : correlate data reply = .ok response) (supported : Bool) :
    p.receiveLayer data supported = p.receiveAck hop response supported := by
  have matched := matching_eq_some.mpr ⟨reply, expected, answers⟩
  rw [receiveLayer_unpolled unpolled]
  revert hop
  simp only [Fin.forall_fin_two]
  refine ⟨?_, ?_⟩
  · intro _ _ matched
    have matched : matching data p.sendAcks[0] = some response := matched
    rw [matched]
  · intro first _ matched
    have matched : matching data p.sendAcks[1] = some response := matched
    rw [first trivial, matched]

theorem receiveLayer_final (unpolled : matching data p.poll = none)
    (unacked : ∀ hop : Fin 2, matching data (getElem p.sendAcks hop (hop_lt hop)) = none) (supported : Bool) :
    p.receiveLayer data supported = p.receiveFinal data supported := by
  have outer : matching data p.sendAcks[0] = none := unacked 0
  have inner : matching data p.sendAcks[1] = none := unacked 1
  rw [receiveLayer_unpolled unpolled, outer, inner]

end receiveLayer

/-- Every packet is taken for one of the replies still expected. -/
theorem receiveLayer_cases (data : List UInt8) (supported : Bool) :
    p.LayerCase data supported (p.receiveLayer data supported) := by
  cases polled : matching data p.poll with
  | some response =>
    obtain ⟨reply, asked, answers⟩ := matching_eq_some.mp polled
    rw [receiveLayer_poll asked answers]
    exact .poll reply response asked answers
  | none =>
    cases outer : matching data p.sendAcks[0] with
    | some response =>
      obtain ⟨reply, expected, answers⟩ := matching_eq_some.mp outer
      have first : (0 : Fin 2) = 1 → matching data p.sendAcks[0] = none := by simp
      rw [receiveLayer_ack 0 polled first expected answers]
      exact .ack 0 reply response polled expected answers first
    | none =>
      cases inner : matching data p.sendAcks[1] with
      | some response =>
        obtain ⟨reply, expected, answers⟩ := matching_eq_some.mp inner
        rw [receiveLayer_ack 1 polled (fun _ => outer) expected answers]
        exact .ack 1 reply response polled expected answers (fun _ => outer)
      | none =>
        have unacked : ∀ hop : Fin 2, matching data p.sendAcks[hop] = none :=
          Fin.forall_fin_two.mpr ⟨outer, inner⟩
        rw [receiveLayer_final polled unacked]
        exact .final polled unacked

/-- A poll's reply ends the poll, touches nothing but the queue flags besides,
and never is the final reply; a Get Message body is opened only when it
carries a packet with the right checksums. -/
theorem receivePoll_cases (reply : ExpectedReply) (response : Response) (supported : Bool) :
    ∃ available believed layer,
      p.receivePoll reply response supported =
        ⟨layer, { p with poll := none, queueAvailable := available }, believed⟩ ∧
      ((∃ result, layer = .done result ∧ ∀ response, result ≠ .ok (some response)) ∨
        ∃ packet, layer = .nested packet ∧ believed = supported ∧ available = false ∧
          response.cc = 0 ∧ reply.cmd ≠ GET_MESSAGE_FLAGS ∧ 8 ≤ response.data.length ∧
          response.data[0]! = p.queueChannel ∧ queuedPacket (response.data.drop 1) = some packet) := by
  unfold receivePoll
  simp only
  split
  · split
    · exact ⟨_, _, _, rfl, .inl ⟨_, rfl, by simp⟩⟩
    split
    · exact ⟨_, _, _, rfl, .inl ⟨_, rfl, by simp⟩⟩
    split
    · exact ⟨_, _, _, rfl, .inl ⟨_, rfl, by simp⟩⟩
    · exact ⟨_, _, _, rfl, .inl ⟨_, rfl, by simp⟩⟩
  rename_i complete
  split
  · split
    · exact ⟨_, _, _, rfl, .inl ⟨_, rfl, by simp⟩⟩
    · exact ⟨_, _, _, rfl, .inl ⟨_, rfl, by simp⟩⟩
  rename_i fetched
  split
  · exact ⟨_, _, _, rfl, .inl ⟨_, rfl, by simp⟩⟩
  rename_i long
  split
  · exact ⟨_, _, _, rfl, .inl ⟨_, rfl, by simp⟩⟩
  rename_i channel
  split
  · rename_i packet queued
    exact ⟨_, _, _, rfl, .inr ⟨packet, rfl, rfl, rfl, by simpa using complete, fetched, by omega,
      by simpa using channel, queued⟩⟩
  · exact ⟨_, _, _, rfl, .inl ⟨_, rfl, by simp⟩⟩

/-- All an acknowledgement can lead to. -/
inductive AckCase (hop : Fin 2) (response : Response) (supported : Bool) : Received Layer → Prop
  | refused (error : RmcpIpmiReceiveError) (why : getElem p.acked hop (hop_lt hop) = true ∨ response.cc ≠ 0) :
      AckCase hop response supported ⟨.done (.error error), p, supported⟩
  | opened (fresh : getElem p.acked hop (hop_lt hop) = false) (complete : response.cc = 0)
      (body : response.data ≠ []) :
      AckCase hop response supported
        ⟨.nested response.data, { p with acked := p.acked.set hop true (hop_lt hop) }, supported⟩
  | released (fresh : getElem p.acked hop (hop_lt hop) = false) (complete : response.cc = 0)
      (empty : response.data = [])
      (last : getElem (p.acked.set hop true (hop_lt hop)) 0 Nat.two_pos &&
        ((getElem p.sendAcks 1 Nat.one_lt_two).isNone ||
          getElem (p.acked.set hop true (hop_lt hop)) 1 Nat.one_lt_two)) :
      AckCase hop response supported
        ⟨.done (.ok p.deferred),
          { p with acked := p.acked.set hop true (hop_lt hop), deferred := none }, supported⟩
  | counted (fresh : getElem p.acked hop (hop_lt hop) = false) (complete : response.cc = 0)
      (empty : response.data = [])
      (outstanding : ¬ (getElem (p.acked.set hop true (hop_lt hop)) 0 Nat.two_pos &&
        ((getElem p.sendAcks 1 Nat.one_lt_two).isNone ||
          getElem (p.acked.set hop true (hop_lt hop)) 1 Nat.one_lt_two)) = true) :
      AckCase hop response supported
        ⟨.done (.ok none), { p with acked := p.acked.set hop true (hop_lt hop) }, supported⟩

theorem receiveAck_cases (hop : Fin 2) (response : Response) (supported : Bool) :
    p.AckCase hop response supported (p.receiveAck hop response supported) := by
  unfold receiveAck
  split
  · rename_i repeated
    exact .refused _ (.inl repeated)
  rename_i fresh
  rw [Bool.not_eq_true] at fresh
  split
  · rename_i failed
    exact .refused _ (.inr failed)
  rename_i complete
  rw [not_not] at complete
  simp only
  split
  · rename_i body
    exact .opened fresh complete body
  rename_i empty
  rw [not_not] at empty
  split
  · rename_i last
    exact .released fresh complete empty last
  · rename_i outstanding
    exact .counted fresh complete empty outstanding

/-- All a packet can lead to that answers no poll and acknowledges no hop. -/
inductive FinalCase (data : List UInt8) (supported : Bool) : Received Layer → Prop
  | refused (error : RmcpIpmiReceiveError)
      (why : (∃ error, correlate data p.finalReply = .error error) ∨
        p.allAcked = false ∧ p.deferred.isSome) :
      FinalCase data supported ⟨.done (.error error), p, supported⟩
  | returned (response : Response) (answers : correlate data p.finalReply = .ok response)
      (ready : p.allAcked = true) :
      FinalCase data supported ⟨.done (.ok (some response)), p, supported⟩
  | stored (response : Response) (answers : correlate data p.finalReply = .ok response)
      (early : p.allAcked = false) (free : p.deferred = none) :
      FinalCase data supported ⟨.done (.ok none), { p with deferred := some response }, supported⟩

theorem receiveFinal_cases (data : List UInt8) (supported : Bool) :
    p.FinalCase data supported (p.receiveFinal data supported) := by
  unfold receiveFinal
  split
  · rename_i error mismatch
    exact .refused error (.inl ⟨error, mismatch⟩)
  rename_i response answers
  split
  · rename_i ready
    exact .returned response answers ready
  rename_i early
  rw [Bool.not_eq_true] at early
  split
  · rename_i occupied
    exact .refused _ (.inr ⟨early, occupied⟩)
  · rename_i free
    exact .stored response answers early (by simpa using free)

end PendingRequest
end IpmiRs.Rmcp
