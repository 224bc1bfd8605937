import Mathlib.Algebra.Order.Ring.Nat
import Mathlib.Data.List.ReduceOption
import IpmiRs.Rmcp.IpmbRuns

/-! Sequence numbers over whole runs. The retirement table and the modular
counter always describe an initial segment `0 .. n` of the 64 sequences, issued
in order; reservation then is arithmetic on `n`. -/
namespace IpmiRs.Rmcp
open Connection Library.Runs

/-- Exactly the sequences below `n` were issued, and the next one is `n`. -/
structure Allocated (n : Nat) (s : IpmbState) : Prop where
  bound : n ≤ 64
  next : s.ipmbSequence.toNat = n % 64
  retired : ∀ i (inside : i < 64), s.retiredSequences[i] = decide (i < n)

/-- The requester sequences of a pending request, outermost layer first. -/
def PendingRequest.sequences (p : PendingRequest) : List UInt8 :=
  (p.sendAcks.toList.reduceOption ++ [p.finalReply]).map (·.sequence)

/-- The requester sequences an operation put on the wire: those of an accepted
request's layers, or that of a poll. -/
def issued (m : IpmbMove) : List UInt8 :=
  match m.out, m.after.pending with
  | .began (.ok _), some p => p.sequences
  | .polled (.ok _), some p => p.poll.toList.map (·.sequence)
  | _, _ => []

/-- How many sequences an accepted request consumed. -/
def consumed (m : IpmbMove) : Nat :=
  match m.out with
  | .began (.ok _) => (issued m).length
  | _ => 0

theorem allocated_default : Allocated 0 .default where
  bound := by decide
  next := by decide
  retired := by decide

theorem toNat_and_63 (byte : UInt8) : (byte &&& 0x3f).toNat = byte.toNat % 64 := by
  rw [UInt8.toNat_and]
  exact Nat.and_two_pow_sub_one_eq_mod byte.toNat 6

namespace Allocated
variable {n : Nat} {s : IpmbState}

/-- A sequence ahead of the next one was issued before exactly when counting on
to it wraps past the last. -/
theorem retiredAhead_eq (held : Allocated n s) {i : Nat} (inside : i < 64) :
    s.retiredAhead i = decide (64 ≤ n + i) := by
  have bound := held.bound
  have wrapped : (s.ipmbSequence.toNat + i) &&& 0x3f = (n + i) % 64 := by
    rw [Nat.and_two_pow_sub_one_eq_mod _ 6, held.next]
    omega
  have retired := held.retired ((n + i) % 64) (by omega)
  simp only [IpmbState.retiredAhead, wrapped, Fin.getElem_fin, retired, decide_eq_decide]
  omega

private theorem takeWhile_range {p : Nat → Bool} {k m : Nat} (within : k ≤ m)
    (shape : ∀ i < m, p i = decide (i < k)) : ((List.range m).takeWhile p).length = k := by
  obtain ⟨rest, rfl⟩ := Nat.exists_eq_add_of_le within
  have kept : ∀ i ∈ List.range k, p i = true := by
    intro i member
    have below := List.mem_range.mp member
    simp [shape i (by omega), below]
  rw [List.range_add, List.takeWhile_append_of_pos kept]
  cases rest with
  | zero => simp
  | succ rest =>
    have stopped : p k = false := by simp [shape k (by omega)]
    simp [List.range_succ_eq_map, stopped]

theorem remainingSequences_eq (held : Allocated n s) : s.remainingSequences = 64 - n := by
  have bound := held.bound
  apply takeWhile_range (by omega)
  intro i inside
  rw [held.retiredAhead_eq inside, ← decide_not, decide_eq_decide]
  omega

theorem nextReply (held : Allocated n s) (room : n < 64) (netfn cmd responderAddr : UInt8)
    (responderLun : LogicalUnit) (requestorAddr : UInt8) :
    (s.nextReply netfn cmd responderAddr responderLun requestorAddr).1.sequence.toNat = n ∧
    Allocated (n + 1) (s.nextReply netfn cmd responderAddr responderLun requestorAddr).2 := by
  have taken : (s.ipmbSequence &&& 0x3f).toNat = n := by
    rw [toNat_and_63, held.next]
    omega
  refine ⟨taken, by omega, ?_, ?_⟩
  · simp only [IpmbState.nextReply, toNat_and_63, UInt8.toNat_add, taken]
    simp
  · intro i inside
    simp only [IpmbState.nextReply, taken, Vector.getElem_set]
    split
    · simp_all
    · rw [held.retired i inside, decide_eq_decide]
      omega

/-- Reservations do not concern the allocation. -/
theorem of_same {t : IpmbState} (held : Allocated n s) (next : t.ipmbSequence = s.ipmbSequence)
    (retired : t.retiredSequences = s.retiredSequences) : Allocated n t where
  bound := held.bound
  next := next ▸ held.next
  retired := retired ▸ held.retired

/-- An accepted request takes exactly the sequences it was checked for, in
order, and leaves the reservation alone. -/
theorem accept (held : Allocated n s) (request : Request) (deadline : Instant)
    (room : n + (s.route request.target).needed ≤ 64) :
    Allocated (n + (s.route request.target).needed) (s.accept request deadline).2 ∧
    (s.accept request deadline).2.reservedSequences = s.reservedSequences ∧
    ∃ p, (s.accept request deadline).2.pending = some p ∧
      p.sequences.map (·.toNat) = List.range' n (s.route request.target).needed := by
  cases routed : s.route request.target with
  | localUnit lun =>
    simp only [routed, IpmbState.Route.needed] at room
    obtain ⟨sequence, next⟩ := held.nextReply (by omega) request.netfn.requestValue request.cmd
      s.responderAddr lun s.requestorAddr
    simp only [IpmbState.accept, routed, IpmbState.Route.needed]
    exact ⟨next.of_same rfl rfl, rfl, _, rfl, by simp [PendingRequest.sequences,
      PendingRequest.fresh, List.reduceOption, sequence]⟩
  | bridged target transit =>
    cases transit with
    | none =>
      simp only [routed, IpmbState.Route.needed, Option.isSome_none, Bool.false_eq_true,
        ↓reduceIte, Nat.add_zero] at room
      obtain ⟨ackSequence, acked⟩ := held.nextReply (by omega) APP_NETFN SEND_MESSAGE
        s.responderAddr .zero s.requestorAddr
      obtain ⟨sequence, next⟩ := acked.nextReply (by omega) request.netfn.requestValue request.cmd
        target.address target.lun s.requestorAddr
      simp only [IpmbState.accept, routed, IpmbState.Route.needed]
      exact ⟨next.of_same rfl rfl, rfl, _, rfl, by simp [PendingRequest.sequences,
        PendingRequest.fresh, List.reduceOption, List.range', IpmbState.nextReply_keeps, ackSequence, sequence]⟩
    | some hop =>
      simp only [routed, IpmbState.Route.needed, Option.isSome_some, ↓reduceIte] at room
      obtain ⟨ackSequence, acked⟩ := held.nextReply (by omega) APP_NETFN SEND_MESSAGE
        s.responderAddr .zero s.requestorAddr
      obtain ⟨hopSequence, hopped⟩ := acked.nextReply (by omega) APP_NETFN SEND_MESSAGE
        hop.address hop.lun s.requestorAddr
      obtain ⟨sequence, next⟩ := hopped.nextReply (by omega) request.netfn.requestValue request.cmd
        target.address target.lun s.responderAddr
      simp only [IpmbState.accept, routed, IpmbState.Route.needed]
      exact ⟨next.of_same rfl rfl, rfl, _, rfl, by simp [PendingRequest.sequences,
        PendingRequest.fresh, List.reduceOption, List.range', IpmbState.nextReply_keeps, ackSequence,
        hopSequence, sequence]⟩

/-- No sequence ahead being used means that the request still fits. -/
theorem room_of_unused (held : Allocated n s) {needed : Nat} (small : needed ≤ 3)
    (unused : ∀ i < needed, s.retiredAhead i = false) : n + needed ≤ 64 := by
  have bound := held.bound
  by_contra overflow
  have used := unused (64 - n) (by omega)
  rw [held.retiredAhead_eq (by omega)] at used
  simp only [decide_eq_false_iff_not] at used
  omega

/-- A next sequence that was never used means that there is one. -/
theorem room_of_free (held : Allocated n s)
    (unused : s.retiredSequences[s.ipmbSequence.toNat]?.getD true = false) : n < 64 := by
  have bound := held.bound
  have inside : n % 64 < 64 := Nat.mod_lt _ (by decide)
  have retired := held.retired _ inside
  rw [held.next, Vector.getElem?_eq_getElem inside, Option.getD_some, retired] at unused
  simp only [decide_eq_false_iff_not] at unused
  omega

/-- While there is room, the next sequence has not been used. -/
theorem free_of_room (held : Allocated n s) (room : n < 64) :
    s.retiredSequences[s.ipmbSequence.toNat]?.getD true = false := by
  have inside : n % 64 < 64 := Nat.mod_lt _ (by decide)
  have retired := held.retired _ inside
  rw [held.next, Vector.getElem?_eq_getElem inside, Option.getD_some, retired, Nat.mod_eq_of_lt room]
  exact decide_eq_false (Nat.lt_irrefl n)

/-- A granted reservation changes nothing else, and is covered. -/
theorem reserve_granted {minimum : Nat} (held : Allocated n s)
    (granted : (s.reserveSequences minimum).1 = true) :
    minimum ≤ 64 - n ∧
    (s.reserveSequences minimum).2 = { s with reservedSequences := some minimum } := by
  unfold IpmbState.reserveSequences at granted ⊢
  split at granted
  · cases granted
  · rename_i free
    rw [if_neg free]
    simp only [not_or, not_lt, held.remainingSequences_eq] at free
    exact ⟨free.2.2, rfl⟩

/-- A request that fits into a covered reservation is not refused for want of
sequences. -/
theorem begin_not_exhausted {minimum : Nat} (held : Allocated n s) (request : Request)
    (deadline : Instant) (reserved : s.reservedSequences = some minimum)
    (covered : minimum ≤ 64 - n) (fits : (s.route request.target).needed ≤ minimum) :
    (s.begin request deadline).1 ≠ .error .ipmbSequenceExhausted := by
  intro exhausted
  rcases s.begin_cases request deadline with ⟨error, checked, refused⟩ | ⟨-, accepted⟩
  · rw [refused] at exhausted
    obtain rfl := Except.error.inj exhausted
    rcases IpmbState.checkBegin_exhausted checked with ⟨least, granted, short⟩ | ⟨i, inside, used⟩
    · rw [reserved] at granted
      obtain rfl := Option.some.inj granted
      omega
    · have bound := held.bound
      rw [held.retiredAhead_eq (by omega)] at used
      simp only [decide_eq_true_eq] at used
      omega
  · rw [accepted] at exhausted
    cases exhausted

end Allocated

theorem needed_le_three (route : IpmbState.Route) : route.needed ≤ 3 := by
  cases route with
  | localUnit lun => simp [IpmbState.Route.needed]
  | bridged target transit => cases transit <;> simp [IpmbState.Route.needed]

/-- All an operation can do to the sequences and the reservation, when the
first `n` sequences were issued before it: what it consumed as a request, and
how many it took in all. -/
inductive SequenceEffect (n : Nat) (op : IpmbOp) (before after : Option Nat) : Nat → Nat → Prop
  | idle (same : after = before) : SequenceEffect n op before after 0 0
  | request (count : Nat) (affordable : ∀ minimum, before = some minimum → count ≤ minimum)
      (spent : after = before.map (· - count)) : SequenceEffect n op before after count count
  | poll (spare : ∀ minimum, before = some minimum → minimum < 64 - n) (same : after = before) :
      SequenceEffect n op before after 0 1
  | reserve (minimum : Nat) (free : before = none) (covered : minimum ≤ 64 - n)
      (granted : after = some minimum) : SequenceEffect n op before after 0 0
  | release (asked : op = .releaseSequences) (freed : after = none) :
      SequenceEffect n op before after 0 0

/-- Every operation issues the next sequences in order, possibly none. -/
theorem step_sequences {n : Nat} {s : IpmbState} (held : Allocated n s) (op : IpmbOp) :
    ∃ count, Allocated (n + count) (s.step op).2 ∧
      (issued (move IpmbState.step s op)).map (·.toNat) = List.range' n count ∧
      SequenceEffect n op s.reservedSequences (s.step op).2.reservedSequences
        (consumed (move IpmbState.step s op)) count := by
  cases op with
  | begin request deadline =>
    rcases s.begin_cases request deadline with ⟨error, -, refused⟩ | ⟨checked, accepted⟩
    · refine ⟨0, ?_, ?_, ?_⟩
      · simpa [IpmbState.step, refused] using held
      · simp [issued, IpmbState.step, refused]
      · simpa [consumed, IpmbState.step, refused] using SequenceEffect.idle rfl
    · obtain ⟨-, -, -, affordable, unused⟩ := IpmbState.checkBegin_ok checked
      have room := held.room_of_unused (needed_le_three _) unused
      have start : Allocated n (s.consumeReserved (s.route request.target).needed) :=
        held.of_same rfl rfl
      obtain ⟨allocated, reserved, p, pending, sequences⟩ :=
        start.accept request deadline (by simpa using room)
      rw [IpmbState.route_consumeReserved] at allocated sequences
      have count : p.sequences.length = (s.route request.target).needed := by
        simpa using congrArg List.length sequences
      refine ⟨(s.route request.target).needed, ?_, ?_, ?_⟩
      · simpa [IpmbState.step, accepted] using allocated
      · simpa [issued, IpmbState.step, accepted, pending] using sequences
      · simp only [consumed, issued, IpmbState.step, accepted, move_out, move_after, Prod.map_fst,
          Prod.map_snd, id_eq, pending, count, reserved]
        exact .request _ affordable rfl
  | pollMessage =>
    rcases s.pollMessage_cases with ⟨error, refused⟩ | ⟨p, -, -, -, blocked⟩ |
      ⟨p, -, -, spare, unused, polled⟩
    · refine ⟨0, ?_, ?_, ?_⟩
      · simpa [IpmbState.step, refused] using held
      · simp [issued, IpmbState.step, refused]
      · simpa [consumed, IpmbState.step, refused] using SequenceEffect.idle rfl
    · refine ⟨0, ?_, ?_, ?_⟩
      · exact held.of_same (by simp [IpmbState.step, blocked]) (by simp [IpmbState.step, blocked])
      · simp [issued, IpmbState.step, blocked]
      · simpa [consumed, IpmbState.step, blocked] using SequenceEffect.idle rfl
    · have room := held.room_of_free unused
      obtain ⟨sequence, allocated⟩ := held.nextReply room APP_NETFN
        (if s.queueAvailable then GET_MESSAGE else GET_MESSAGE_FLAGS)
        s.responderAddr .zero s.requestorAddr
      refine ⟨1, ?_, ?_, ?_⟩
      · exact allocated.of_same (by simp [IpmbState.step, polled]) (by simp [IpmbState.step, polled])
      · simp [issued, IpmbState.step, polled, sequence]
      · rw [held.remainingSequences_eq] at spare
        simpa [consumed, IpmbState.step, polled, IpmbState.nextReply_keeps] using SequenceEffect.poll spare rfl
  | receive data =>
    obtain ⟨pending, supported, shape⟩ := s.receive_frame data
    refine ⟨0, ?_, ?_, ?_⟩
    · exact held.of_same (by simp [IpmbState.step, shape]) (by simp [IpmbState.step, shape])
    · simp [issued, IpmbState.step]
    · simpa [consumed, IpmbState.step, shape] using SequenceEffect.idle rfl
  | retirePending => exact ⟨0, held.of_same rfl rfl, by simp [issued, IpmbState.step], .idle rfl⟩
  | stopPolling => exact ⟨0, held.of_same rfl rfl, by simp [issued, IpmbState.step], .idle rfl⟩
  | reserveSequences minimum =>
    refine ⟨0, ?_, by simp [issued, IpmbState.step], ?_⟩
    · simp only [IpmbState.step, IpmbState.reserveSequences, Prod.map_snd, id_eq, Nat.add_zero]
      split
      · exact held
      · exact held.of_same rfl rfl
    · simp only [IpmbState.step, IpmbState.reserveSequences, Prod.map_snd, id_eq]
      split
      · exact .idle rfl
      · rename_i free
        simp only [not_or, Option.isSome_iff_exists, not_exists, not_lt,
          held.remainingSequences_eq] at free
        exact .reserve minimum (Option.eq_none_iff_forall_ne_some.mpr free.2.1) free.2.2 rfl
  | releaseSequences =>
    exact ⟨0, held.of_same rfl rfl, by simp [issued, IpmbState.step], .release rfl rfl⟩

/-- A whole run has issued exactly the first `n` sequences, in order. -/
theorem run_sequences (ops : List IpmbOp) :
    ∃ n, Allocated n (after IpmbState.step .default ops) ∧
      ((moves IpmbState.step .default ops).flatMap issued).map (·.toNat) = List.range n := by
  refine history IpmbState.step (P := fun past t => ∃ n, Allocated n t ∧
    (past.flatMap issued).map (·.toNat) = List.range n) ⟨0, allocated_default, rfl⟩ ?_ ops
  rintro past s op ⟨n, held, sequences⟩
  obtain ⟨count, next, taken, -⟩ := step_sequences held op
  refine ⟨n + count, next, ?_⟩
  rw [List.flatMap_append, List.map_append, sequences]
  simp only [List.flatMap_cons, List.flatMap_nil, List.append_nil, taken]
  rw [List.range_eq_range', List.range_eq_range', ← List.range'_append_1]
  simp

/-- The sequences consumed by the requests of a history. -/
def used (past : List IpmbMove) : Nat := (past.map consumed).sum

/-- As long as a reservation is not released, requests only ever use up what
was reserved, and everything else leaves that much untouched. -/
theorem reserved_run {n minimum : Nat} {s : IpmbState} (held : Allocated n s)
    (granted : s.reservedSequences = some minimum) (covered : minimum ≤ 64 - n)
    (ops : List IpmbOp) (kept : .releaseSequences ∉ ops) :
    ∃ m, Allocated m (after IpmbState.step s ops) ∧
      used (moves IpmbState.step s ops) ≤ minimum ∧
      (after IpmbState.step s ops).reservedSequences =
        some (minimum - used (moves IpmbState.step s ops)) ∧
      minimum - used (moves IpmbState.step s ops) ≤ 64 - m := by
  refine guarded_history IpmbState.step
    (P := fun past t => ∃ m, Allocated m t ∧ used past ≤ minimum ∧
      t.reservedSequences = some (minimum - used past) ∧ minimum - used past ≤ 64 - m)
    (fun m => m.op ≠ .releaseSequences)
    ⟨n, held, by simp [used], by simpa [used] using granted, by simpa [used] using covered⟩ ?_ ops ?_
  · rintro past t op kept ⟨m, allocated, within, reserved, spare⟩
    obtain ⟨count, next, -, effect⟩ := step_sequences allocated op
    have total : used (past ++ [move IpmbState.step t op]) =
        used past + consumed (move IpmbState.step t op) := by simp [used]
    refine ⟨m + count, next, ?_⟩
    rw [total]
    generalize consumed (move IpmbState.step t op) = spent at effect
    rw [reserved] at effect
    cases effect with
    | idle same => exact ⟨within, same, spare⟩
    | request count affordable spent =>
      have affordable := affordable _ rfl
      refine ⟨by omega, ?_, by omega⟩
      rw [spent, Option.map_some, Nat.sub_sub]
    | poll below same =>
      have below := below _ rfl
      exact ⟨within, same, by omega⟩
    | reserve minimum free => cases free
    | release asked => exact absurd asked kept
  · intro m member
    obtain ⟨earlier, op, later, rfl, rfl⟩ := split_at_move IpmbState.step s member
    exact fun asked => kept (by simp [← asked])

/-- No requester sequence is issued twice in a session, so at most 64 are; and
from a granted reservation until its release, what remains of it stays
available to requests whatever is polled, received or retired meanwhile. -/
theorem ipmb_sequences_unique_and_reservations_honoured (ops : List IpmbOp) :
    let sequences := (moves IpmbState.step .default ops).flatMap issued
    (sequences.Nodup ∧ (∀ sequence ∈ sequences, sequence < 64) ∧ sequences.length ≤ 64) ∧
    ∀ earlier minimum later, ops = earlier ++ .reserveSequences minimum :: later →
      ((after IpmbState.step .default earlier).reserveSequences minimum).1 = true →
      .releaseSequences ∉ later →
      let granted := ((after IpmbState.step .default earlier).reserveSequences minimum).2
      let spent := used (moves IpmbState.step granted later)
      let s := after IpmbState.step .default ops
      spent ≤ minimum ∧ minimum - spent ≤ s.remainingSequences ∧
      ∀ request deadline, (s.route request.target).needed ≤ minimum - spent →
        (s.begin request deadline).1 ≠ .error .ipmbSequenceExhausted := by
  refine ⟨?_, ?_⟩
  · obtain ⟨n, held, sequences⟩ := run_sequences ops
    have bound := held.bound
    refine ⟨?_, ?_, ?_⟩
    · exact List.Nodup.of_map _ (sequences ▸ List.nodup_range)
    · intro sequence member
      have value := List.mem_map_of_mem (f := fun q : UInt8 => q.toNat) member
      rw [sequences, List.mem_range] at value
      exact UInt8.lt_iff_toNat_lt.mpr (Nat.lt_of_lt_of_le value bound)
    · have length := congrArg List.length sequences
      simp only [List.length_map, List.length_range] at length
      omega
  · rintro earlier minimum later rfl granted kept
    obtain ⟨n, held, -⟩ := run_sequences earlier
    rw [after_append, after_cons]
    generalize after IpmbState.step .default earlier = start at held granted ⊢
    obtain ⟨covered, reserved⟩ := held.reserve_granted granted
    have allocated : Allocated n (start.reserveSequences minimum).2 := by
      rw [reserved]
      exact held.of_same rfl rfl
    obtain ⟨m, now, within, left, spare⟩ :=
      reserved_run allocated (by rw [reserved]) covered later kept
    refine ⟨within, by rw [IpmbState.step, Prod.map_snd, id_eq, now.remainingSequences_eq]; exact spare, ?_⟩
    rintro request deadline fits
    exact now.begin_not_exhausted request deadline left spare fits

/-- A request through a transit controller. -/
def throughTransit : Request :=
  ⟨.bridged ⟨0x2c, .primary, .zero⟩ (some ⟨0x82, .primary, .zero⟩), ⟨0x06, 0x01, []⟩⟩

/-- Of sixty sequences that are reserved after a first request, a second one takes its own, polls and receives in
vain, and is given up; what remains covers a third one. -/
theorem ipmb_sequences_reserved_sixty :
    ((after IpmbState.step .default [.begin throughTransit 0, .retirePending, .reserveSequences 60,
        .begin throughTransit 0, .pollMessage, .receive [0x20, 0x1c, 0xc4], .retirePending, .stopPolling]).begin
      throughTransit 0).1 ≠ .error .ipmbSequenceExhausted :=
  ((ipmb_sequences_unique_and_reservations_honoured _).2 [.begin throughTransit 0, .retirePending] 60
    [.begin throughTransit 0, .pollMessage, .receive [0x20, 0x1c, 0xc4], .retirePending, .stopPolling] rfl
    (by decide +kernel) (by decide +kernel)).2.2 _ _ (by decide +kernel)

end IpmiRs.Rmcp
