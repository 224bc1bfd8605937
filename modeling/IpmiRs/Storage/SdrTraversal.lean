import IpmiRs.Storage.SdrIter

/-! A traversal always ends and stays ended. It repeats a record ID only where
a next pointer leads back to the ID that the first record's header reported,
which `seen` does not hold because that record was asked for under a pseudo-ID. -/
namespace IpmiRs.Storage
open Connection App Library.Bytes

namespace SdrIter
variable {ε : Type}

/-- What reading keeps of the iterator. -/
structure Frame (s t : SdrIter ε) : Prop where
  seen : t.seen = s.seen
  nextId : t.nextId = s.nextId
  limit : 1 ≤ s.readLimit → 1 ≤ t.readLimit

theorem Frame.refl (s : SdrIter ε) : Frame s s := ⟨rfl, rfl, id⟩

theorem Frame.trans {s t u : SdrIter ε} (first : Frame s t) (second : Frame t u) : Frame s u :=
  ⟨second.seen.trans first.seen, second.nextId.trans first.nextId, second.limit ∘ first.limit⟩

theorem send_frame {α β : Type} (s : SdrIter ε) (command : IpmiCommand α β) :
    Frame s (s.send command).2 := ⟨rfl, rfl, id⟩

theorem send_readLimit {α β : Type} (s : SdrIter ε) (command : IpmiCommand α β) :
    (s.send command).2.readLimit = s.readLimit := rfl

theorem reserve_frame (s : SdrIter ε) : Frame s s.reserve.2 := by
  unfold reserve
  have sent := s.send_frame (reserveSdr s.chosen)
  split
  · rename_i failed
    rw [failed] at sent
    exact sent
  · rename_i granted
    rw [granted] at sent
    exact ⟨sent.seen, sent.nextId, sent.limit⟩

/-- The read loop ends by its own condition: what it returns is as long as
what was asked for. -/
theorem readBytesFrom_spec (recordId : RecordId) (start length left : Nat) (s : SdrIter ε)
    (data : List UInt8) (nextId : Option RecordId) (limit : 1 ≤ s.readLimit)
    (short : data.length ≤ length) (enough : length - data.length + s.readLimit ≤ left) :
    let r := readBytesFrom recordId start length left s data nextId
    Frame s r.2 ∧ ∀ bytes next, r.1 = .ok (bytes, next) → bytes.length = length := by
  induction left generalizing s data nextId with
  | zero => omega
  | succ left ih =>
    unfold readBytesFrom
    by_cases complete : length ≤ data.length
    · rw [if_pos complete]
      refine ⟨.refl s, fun bytes next same => ?_⟩
      cases same
      omega
    rw [if_neg complete]
    simp only
    split
    · exact ⟨.refl s, by simp⟩
    generalize shape : readSdr s.chosen s.reservation recordId (UInt8.ofNat (start + data.length))
      (UInt8.ofNat (min (length - data.length) s.readLimit)) = command
    have sent := s.send_frame command
    have kept := s.send_readLimit command
    split
    · rename_i netfn cmd code detail after failed
      rw [failed] at sent kept
      split
      · rename_i smaller
        obtain ⟨read, whole⟩ := ih { after with
          readLimit := max (min (length - data.length) s.readLimit / 2) 1 } data nextId
          (Nat.le_max_right _ _) short (by simp only; omega)
        refine ⟨sent.trans ⟨read.seen, read.nextId, fun _ => read.limit (Nat.le_max_right _ _)⟩, whole⟩
      · exact ⟨sent, by simp⟩
    · rename_i failed
      rw [failed] at sent
      exact ⟨sent, by simp⟩
    · rename_i chunk after answered
      rw [answered] at sent kept
      have kept : after.readLimit = s.readLimit := kept
      split
      · exact ⟨sent, by simp⟩
      · rename_i exact'
        rw [not_not] at exact'
        split
        · exact ⟨sent, by simp⟩
        · obtain ⟨read, whole⟩ := ih after (data ++ chunk.data) (nextId.or (some chunk.nextEntry))
            (kept ▸ limit) (by simp only [List.length_append]; omega)
            (by simp only [List.length_append]; omega)
          exact ⟨sent.trans read, whole⟩

theorem readBytes_spec (s : SdrIter ε) (recordId : RecordId) (start length : Nat)
    (expectedNext : Option RecordId) (limit : 1 ≤ s.readLimit) :
    let r := s.readBytes recordId start length expectedNext
    Frame s r.2 ∧ ∀ bytes next, r.1 = .ok (bytes, next) → bytes.length = length := by
  obtain ⟨read, whole⟩ := readBytesFrom_spec recordId start length (length + s.readLimit) s []
    expectedNext limit (Nat.zero_le _) (by simp)
  unfold readBytes
  simp only
  split
  · rename_i failed
    rw [failed] at read
    exact ⟨read, by simp⟩
  · rename_i data nextId after done
    rw [done] at read whole
    refine ⟨read, fun bytes next same => ?_⟩
    cases same
    exact whole _ _ rfl

theorem readBody_frame (s : SdrIter ε) (id headerId nextId : RecordId) (length : Nat)
    (limit : 1 ≤ s.readLimit) : Frame s (s.readBody id headerId nextId length).2 := by
  unfold readBody
  split
  · obtain ⟨read, -⟩ := s.readBytes_spec (if id.isFirst then headerId else id) 5 length (some nextId) limit
    split
    · rename_i failed
      rw [failed] at read
      exact read
    · rename_i done
      rw [done] at read
      exact read
  · exact .refl s

/-- What a record that was read is known by, and where it points. -/
structure Follows (seen : List UInt16) (id : RecordId) (record : Record) (nextId : RecordId) : Prop where
  named : id ≠ .FIRST → record.header.id = id
  real : id = .FIRST → record.header.id ≠ .FIRST
  forward : nextId ≠ .FIRST
  unread : nextId.value ∉ seen

theorem toLe_id (id : RecordId) : ∃ low high, toLe 2 id.value.toNat = [low, high] ∧
    RecordId.ofBytes low high = id := by
  refine ⟨_, _, rfl, ?_⟩
  obtain ⟨value⟩ := id
  have round : ofLe [UInt8.ofNat value.toNat, UInt8.ofNat (value.toNat / 256)] = value.toNat :=
    @ofLe_toLe_of_lt 2 _ value.toNat_lt
  simp only [RecordId.ofBytes, round, UInt16.ofNat_toNat]

theorem readRecordOnce_spec (s : SdrIter ε) (id : RecordId) (limit : 1 ≤ s.readLimit) :
    let r := s.readRecordOnce id
    Frame s r.2 ∧ ∀ record nextId, r.1 = .ok (record, nextId) → Follows s.seen id record nextId := by
  obtain ⟨read, whole⟩ := s.readBytes_spec id 0 5 none limit
  unfold readRecordOnce
  simp only
  split
  · rename_i failed
    rw [failed] at read
    exact ⟨read, by simp⟩
  rename_i header nextId after done
  rw [done] at read whole
  have five : header.length = 5 := whole _ _ rfl
  match header, five with
  | [low, high, version, ty, length], _ =>
  split
  · exact ⟨read, by simp⟩
  rename_i genuine
  split
  · exact ⟨read, by simp⟩
  rename_i ahead
  simp only [Bool.or_eq_true, RecordId.isFirst_iff, beq_iff_eq, List.contains_iff_mem, not_or] at ahead
  have body := after.readBody_frame id (.ofBytes low high) nextId length.toNat (read.limit limit)
  split
  · rename_i error last failed
    have failed : after.readBody id (.ofBytes low high) nextId length.toNat = (.error error, last) :=
      failed
    rw [failed] at body
    exact ⟨read.trans body, by simp⟩
  rename_i rest last got
  have got : after.readBody id (.ofBytes low high) nextId length.toNat = (.ok rest, last) := got
  rw [got] at body
  have kept : Frame s last := read.trans body
  split
  · exact ⟨kept, by simp⟩
  rename_i record parsed
  refine ⟨kept, fun found next same => ?_⟩
  cases same
  refine ⟨fun later => ?_, fun first => ?_, ahead.1.1, read.seen ▸ ahead.2⟩
  · obtain ⟨idLow, idHigh, written, named⟩ := toLe_id id
    rw [if_neg (mt id.isFirst_iff.mp later), written] at parsed
    exact (Record.parse_id parsed).trans named
  · subst first
    have first : RecordId.FIRST.isFirst = true := rfl
    rw [if_pos first] at parsed
    simp only [first, Bool.true_and, Bool.or_eq_true, RecordId.isFirst_iff, RecordId.isLast_iff,
      not_or] at genuine
    exact (Record.parse_id parsed).symm ▸ genuine.1

theorem readRecordAttempts_spec (id : RecordId) (left : Nat) (s : SdrIter ε) (limit : 1 ≤ s.readLimit) :
    let r := readRecordAttempts id left s
    Frame s r.2 ∧ ∀ record nextId, r.1 = .ok (record, nextId) → Follows s.seen id record nextId := by
  induction left generalizing s with
  | zero =>
    have once := s.readRecordOnce_spec id limit
    unfold readRecordAttempts
    simp only
    split
    · exact ⟨once.1, by simp⟩
    · exact once
  | succ left ih =>
    have once := s.readRecordOnce_spec id limit
    unfold readRecordAttempts
    simp only
    split
    · have reserved := (s.readRecordOnce id).2.reserve_frame
      split
      · rename_i failed
        rw [failed] at reserved
        exact ⟨once.1.trans reserved, by simp⟩
      · rename_i after granted
        rw [granted] at reserved
        have kept := once.1.trans reserved
        obtain ⟨again, follows⟩ := ih after (kept.limit limit)
        exact ⟨kept.trans again, fun record nextId same => kept.seen ▸ follows record nextId same⟩
    · exact once

theorem chooseSource_frame (s : SdrIter ε) : Frame s s.chooseSource.2 := by
  unfold chooseSource
  split
  · exact .refl s
  have sent := s.send_frame getDeviceId
  split
  · rename_i failed
    rwa [failed] at sent
  · rename_i answered
    rw [answered] at sent
    split
    · exact ⟨sent.seen, sent.nextId, sent.limit⟩
    · split
      · exact ⟨sent.seen, sent.nextId, sent.limit⟩
      · exact sent

theorem sourceInfo_frame (s : SdrIter ε) : Frame s s.sourceInfo.2 := by
  unfold sourceInfo
  split
  · have sent := s.send_frame getSdrRepositoryInfo
    split
    · rename_i failed
      rwa [failed] at sent
    · rename_i answered
      rwa [answered] at sent
  · have sent := s.send_frame getDeviceSdrInfo
    split
    · rename_i failed
      rwa [failed] at sent
    · rename_i answered
      rwa [answered] at sent

/-- Before the first record, at most the pending ID is given up: an empty
source has none. -/
theorem initializeIter_frame (s : SdrIter ε) :
    s.initializeIter.2.seen = s.seen ∧
    (1 ≤ s.readLimit → 1 ≤ s.initializeIter.2.readLimit) ∧
    (s.initializeIter.2.nextId = s.nextId ∨ s.initializeIter.2.nextId = none) := by
  have chosen := s.chooseSource_frame
  unfold initializeIter
  split
  · rename_i failed
    rw [failed] at chosen
    exact ⟨chosen.seen, chosen.limit, .inl chosen.nextId⟩
  rename_i after settled
  rw [settled] at chosen
  have informed := after.sourceInfo_frame
  split
  · rename_i failed
    rw [failed] at informed
    have kept := chosen.trans informed
    exact ⟨kept.seen, kept.limit, .inl kept.nextId⟩
  rename_i count supported last known
  rw [known] at informed
  have kept := chosen.trans informed
  simp only
  split
  · exact ⟨kept.seen, kept.limit, .inr rfl⟩
  split
  · have reserved := { last with reservationSupported := supported }.reserve_frame
    split
    · rename_i failed
      rw [failed] at reserved
      exact ⟨reserved.seen.trans kept.seen, reserved.limit ∘ kept.limit,
        .inl (reserved.nextId.trans kept.nextId)⟩
    · rename_i granted
      rw [granted] at reserved
      exact ⟨reserved.seen.trans kept.seen, reserved.limit ∘ kept.limit,
        .inl (reserved.nextId.trans kept.nextId)⟩
  · exact ⟨kept.seen, kept.limit, .inl kept.nextId⟩

/-- All a call can lead to: the end, an error that ends the traversal, or the
record with the pending ID, which no earlier call asked for. -/
inductive NextCase (s : SdrIter ε) : Option (Except (SdrError ε) Record) × SdrIter ε → Prop
  | finished (after : SdrIter ε) (ended : after.nextId = none) : NextCase s (none, after)
  | failed (error : SdrError ε) (after : SdrIter ε) (ended : after.nextId = none) :
      NextCase s (some (.error error), after)
  | yielded (id : RecordId) (record : Record) (nextId : RecordId) (after : SdrIter ε)
      (pending : s.nextId = some id) (new : id.value ∉ s.seen)
      (follows : Follows (id.value :: s.seen) id record nextId)
      (moved : after.nextId = some nextId) (noted : after.seen = id.value :: s.seen)
      (limit : 1 ≤ after.readLimit) : NextCase s (some (.ok record), after)

theorem next_cases (s : SdrIter ε) (limit : 1 ≤ s.readLimit) : NextCase s s.next := by
  unfold next
  split
  · rename_i ended
    exact .finished s (by simpa using ended)
  obtain ⟨seen, kept, pending⟩ : let r := if s.initialized then (.ok (), s) else s.initializeIter
      r.2.seen = s.seen ∧ (1 ≤ s.readLimit → 1 ≤ r.2.readLimit) ∧
      (r.2.nextId = s.nextId ∨ r.2.nextId = none) := by
    simp only
    split
    · exact ⟨rfl, id, .inl rfl⟩
    · exact s.initializeIter_frame
  split
  · exact .failed _ _ rfl
  rename_i ready started
  rw [started] at seen kept pending
  simp only at seen kept pending
  split
  · rename_i ended
    exact .finished ready ended
  rename_i id found
  have pending : s.nextId = some id := by
    rcases pending with same | none
    · exact same ▸ found
    · rw [none] at found
      cases found
  simp only
  split
  · exact .finished _ rfl
  split
  · exact .failed _ _ rfl
  rename_i new
  obtain ⟨read, follows⟩ := readRecordAttempts_spec id 3
    { ready with nextId := none, seen := id.value :: ready.seen } (kept limit)
  split
  · rename_i error after failed
    have failed : readRecordAttempts id 3 { ready with nextId := none, seen := id.value :: ready.seen } =
      (.error error, after) := failed
    rw [failed] at read
    exact .failed error after read.nextId
  · rename_i record nextId after got
    have got : readRecordAttempts id 3 { ready with nextId := none, seen := id.value :: ready.seen } =
      (.ok (record, nextId), after) := got
    rw [got] at read follows
    have follows := follows record nextId rfl
    simp only [seen] at follows read new
    exact .yielded id record nextId _ pending (by simpa using new) follows rfl
      read.seen (read.limit (kept limit))

/-! ### Whole traversals -/

theorem next_of_ended {s : SdrIter ε} (ended : s.nextId = none) : s.next = (none, s) := by
  simp [next, ended]

/-- Once nothing is pending, the iterator stays as it is. -/
theorem after_stays {s : SdrIter ε} {n m : Nat} (ended : (s.after n).nextId = none) (later : n ≤ m) :
    s.after m = s.after n := by
  induction m, later using Nat.le_induction with
  | base => rfl
  | succ m later ih => rw [after, ih, next_of_ended ended]

/-- Once nothing is pending, nothing is yielded any more. -/
theorem after_ended {s : SdrIter ε} {n m : Nat} (ended : (s.after n).nextId = none) (later : n ≤ m) :
    (s.after m).nextId = none ∧ s.item m = none := by
  rw [item, after_stays ended later, next_of_ended ended]
  exact ⟨ended, rfl⟩

/-- The iterator after `n` calls that each yielded a record. -/
structure Live (start : SdrIter ε) (n : Nat) : Prop where
  limit : 1 ≤ (start.after n).readLimit
  count : (start.after n).seen.length = n
  distinct : (start.after n).seen.Nodup
  origin : n = 0 → (start.after n).nextId = some .FIRST
  onward : 0 < n → ∀ id, (start.after n).nextId = some id → id ≠ .FIRST
  yielded : ∀ k < n, ∃ record, start.item k = some (.ok record)

theorem live_new (link : Link ε) (source : Option SdrSource) : Live (new link source) 0 where
  limit := show 1 ≤ 32 by decide
  count := rfl
  distinct := List.nodup_nil
  origin _ := rfl
  onward held := absurd held (Nat.lt_irrefl 0)
  yielded k earlier := absurd earlier (Nat.not_lt_zero k)

/-- What a call on a live iterator yields, and what it leaves. -/
theorem Live.next {start : SdrIter ε} {n : Nat} (live : Live start n) :
    ((start.after (n + 1)).nextId = none ∧ ∀ record, start.item n ≠ some (.ok record)) ∨
    ∃ id record nextId, start.item n = some (.ok record) ∧
      (start.after n).nextId = some id ∧ id.value ∉ (start.after n).seen ∧
      Follows (id.value :: (start.after n).seen) id record nextId ∧
      (start.after (n + 1)).seen = id.value :: (start.after n).seen ∧ Live start (n + 1) := by
  have shape := (start.after n).next_cases live.limit
  generalize step : (start.after n).next = result at shape
  have now : start.after (n + 1) = result.2 := by rw [after, step]
  have out : start.item n = result.1 := by rw [item, step]
  rw [out]
  cases shape with
  | finished after ended => exact .inl ⟨now ▸ ended, by simp⟩
  | failed error after ended => exact .inl ⟨now ▸ ended, by simp⟩
  | yielded id record nextId last pending new follows moved noted limit =>
    refine .inr ⟨id, record, nextId, rfl, pending, new, follows, now ▸ noted, ?_⟩
    constructor
    · rwa [now]
    · rw [now, noted, List.length_cons, live.count]
    · rw [now, noted]
      exact List.nodup_cons.mpr ⟨new, live.distinct⟩
    · intro zero
      cases zero
    · intro _ id pending
      rw [now, moved] at pending
      cases pending
      exact follows.forward
    · intro k earlier
      rcases Nat.lt_succ_iff_lt_or_eq.mp earlier with earlier | rfl
      · exact live.yielded k earlier
      · exact ⟨record, out⟩

/-- Every traversal is live until it ends. -/
theorem ended_or_live (link : Link ε) (source : Option SdrSource) (n : Nat) :
    ((new link source).after n).nextId = none ∨ Live (new link source) n := by
  induction n with
  | zero => exact .inr (live_new link source)
  | succ n ih =>
    rcases ih with ended | live
    · exact .inl (after_ended ended (Nat.le_succ n)).1
    · rcases live.next with ⟨ended, -⟩ | ⟨id, record, nextId, -, -, -, -, -, onward⟩
      · exact .inl ended
      · exact .inr onward

/-- There are only so many record IDs to ask for. -/
theorem Live.bounded {start : SdrIter ε} {n : Nat} (live : Live start n) : n ≤ 65536 := by
  have distinct : ((start.after n).seen.map UInt16.toNat).Nodup :=
    live.distinct.map fun a b => UInt16.toNat_inj.mp
  have inside : (start.after n).seen.map UInt16.toNat ⊆ List.range 65536 := by
    intro value held
    obtain ⟨id, -, rfl⟩ := List.mem_map.mp held
    exact List.mem_range.mpr id.toNat_lt
  have short := (distinct.subperm inside).length_le
  rwa [List.length_map, live.count, List.length_range] at short

theorem records_succ (s : SdrIter ε) (n : Nat) :
    s.records (n + 1) = s.records n ++ ((s.item n).bind Except.toOption).toList := by
  simp only [records, List.range_succ, List.filterMap_append, List.append_cancel_left_eq]
  cases found : (s.item n).bind Except.toOption <;> simp [found]

theorem records_succ_of_item {s : SdrIter ε} {n : Nat} {record : Record}
    (yielded : s.item n = some (.ok record)) : s.records (n + 1) = s.records n ++ [record] := by
  simp [records_succ, yielded, Except.toOption]

theorem records_succ_of_none {s : SdrIter ε} {n : Nat}
    (nothing : ∀ record, s.item n ≠ some (.ok record)) : s.records (n + 1) = s.records n := by
  have absent : (s.item n).bind Except.toOption = none := by
    rcases found : s.item n with _ | error | record
    · rfl
    · rfl
    · exact absurd found (nothing record)
  simp [records_succ, absent]

/-- No call that reads a record finds the ID pending that the first record's
header reported. -/
def Onward (start : SdrIter ε) : Prop :=
  ∀ n first record, 0 < n → start.item 0 = some (.ok first) → start.item n = some (.ok record) →
    (start.after n).nextId ≠ some first.header.id

/-- Then no ID comes twice: a later record is known by the ID that was asked
for, which is never asked for again. -/
theorem records_nodup {link : Link ε} {source : Option SdrSource} (onward : Onward (new link source))
    (n : Nat) :
    (((new link source).records n).map (·.header.id)).Nodup ∧
    (Live (new link source) n → ∀ first, (new link source).item 0 = some (.ok first) →
      ∀ id ∈ ((new link source).records n).map (·.header.id),
        id = first.header.id ∨ id.value ∈ ((new link source).after n).seen) := by
  induction n with
  | zero => simp [records]
  | succ n ih =>
    obtain ⟨once, known⟩ := ih
    rcases ended_or_live link source n with ended | live
    · have nothing : (new link source).item n = none := (after_ended ended (Nat.le_refl n)).2
      rw [records_succ_of_none (by simp [nothing])]
      refine ⟨once, fun live => ?_⟩
      obtain ⟨record, yielded⟩ := live.yielded n (Nat.lt_succ_self n)
      rw [nothing] at yielded
      cases yielded
    rcases live.next with ⟨-, nothing⟩ | ⟨id, record, nextId, yielded, pending, new', follows, noted, -⟩
    · rw [records_succ_of_none nothing]
      refine ⟨once, fun live => ?_⟩
      obtain ⟨record, yielded⟩ := live.yielded n (Nat.lt_succ_self n)
      exact absurd yielded (nothing record)
    rw [records_succ_of_item yielded, List.map_append, List.map_singleton, noted]
    by_cases initial : n = 0
    · subst initial
      simp [records, yielded]
    · have started : 0 < n := Nat.pos_of_ne_zero initial
      have later : id ≠ .FIRST := live.onward started id pending
      obtain ⟨first, opened⟩ := live.yielded 0 started
      have named : record.header.id = id := follows.named later
      have absent : id ∉ ((new link source).records n).map (·.header.id) := by
        intro held
        rcases known live first opened id held with same | asked
        · exact onward n first record started opened yielded (same ▸ pending)
        · exact new' asked
      rw [named]
      refine ⟨List.nodup_append.mpr ⟨once, List.nodup_singleton id, ?_⟩, ?_⟩
      · intro a held b single same
        rw [List.mem_singleton.mp single] at same
        exact absent (same ▸ held)
      · intro _ start found a held
        rcases List.mem_append.mp held with held | single
        · exact (known live start found a held).imp_right (List.mem_cons_of_mem _)
        · rw [List.mem_singleton.mp single]
          exact .inr List.mem_cons_self

/-- A call that finds the first record's own ID pending, and reads it, yields
a record with that ID again. -/
theorem record_repeated (link : Link ε) (source : Option SdrSource) {n : Nat} {first record : Record}
    (later : 0 < n) (returned : ((new link source).after n).nextId = some first.header.id)
    (yielded : (new link source).item n = some (.ok record)) :
    record.header.id = first.header.id := by
  rcases ended_or_live link source n with ended | live
  · rw [ended] at returned
    cases returned
  rcases live.next with ⟨-, nothing⟩ | ⟨id, found, nextId, same, pending, -, follows, -, -⟩
  · exact absurd yielded (nothing record)
  · rw [same] at yielded
    cases yielded
    rw [returned] at pending
    cases pending
    exact follows.named (live.onward later _ returned)

/-- A traversal ends, whatever the other end answers, and stays ended after an
error or the end. -/
theorem traversal_ends (link : Link ε) (source : Option SdrSource) :
    (∃ bound, ∀ n, bound ≤ n → (new link source).item n = none) ∧
    ∀ n m, (∀ record, (new link source).item n ≠ some (.ok record)) → n < m →
      (new link source).item m = none := by
  refine ⟨⟨65537, fun n late => ?_⟩, fun n m stopped later => ?_⟩
  · rcases ended_or_live link source 65537 with ended | live
    · exact (after_ended ended late).2
    · exact absurd live.bounded (by decide)
  · have ended : ((new link source).after (n + 1)).nextId = none := by
      rcases ended_or_live link source n with ended | live
      · exact (after_ended ended (Nat.le_succ n)).1
      · rcases live.next with ⟨ended, -⟩ | ⟨-, record, -, yielded, -⟩
        · exact ended
        · exact absurd yielded (stopped record)
    exact (after_ended ended later).2

/-- What a traversal should do: end, stay ended after an error or the end, and
yield no record ID twice. -/
structure Sound (start : SdrIter ε) : Prop where
  ends : ∃ bound, ∀ n, bound ≤ n → start.item n = none
  fused : ∀ n m, (start.item n = none ∨ ∃ error, start.item n = some (.error error)) → n < m →
    start.item m = none
  once : ∀ n, ((start.records n).map (·.header.id)).Nodup

/-- A traversal is sound exactly when no record is read under the ID that the
first one reported. -/
theorem sound_iff_onward (link : Link ε) (source : Option SdrSource) :
    Sound (new link source) ↔ Onward (new link source) := by
  obtain ⟨ends, fused⟩ := traversal_ends link source
  constructor
  · intro sound n first record later opened yielded returned
    have same := record_repeated link source later returned yielded
    have once := sound.once (n + 1)
    rw [records_succ_of_item yielded, List.map_append, List.nodup_append] at once
    have held : first ∈ (new link source).records n :=
      List.mem_filterMap.mpr ⟨0, List.mem_range.mpr later, by simp [opened, Except.toOption]⟩
    exact once.2.2 _ (List.mem_map_of_mem held) _ (List.mem_singleton.mpr rfl) same.symm
  · intro onward
    refine ⟨ends, fun n m stopped later => fused n m (fun record yielded => ?_) later,
      fun n => (records_nodup onward n).1⟩
    rcases stopped with none | ⟨error, failed⟩
    · rw [none] at yielded
      cases yielded
    · rw [failed] at yielded
      cases yielded

/-- A repository of two records, whose first record has ID 5 and points to 5. -/
theorem first_record_read_again :
    let answer (cmd : UInt8) (data : List UInt8) : Except Unit Response :=
      .ok ⟨0, ⟨0x0B, cmd, 0 :: data⟩, List.cons_ne_nil _ _⟩
    let bmc : List Request → Except Unit Response := fun sent =>
      match sent.length with
      | 1 => answer 0x20 [0x51, 2, 0, 0, 0, 0, 0, 0, 0, 0, 0, 0, 0, 0]
      | 2 => answer 0x23 [5, 0, 5, 0, 0x51, 0x80, 0]
      | 3 => answer 0x23 [0xFF, 0xFF, 5, 0, 0x51, 0x80, 0]
      | _ => .error ()
    let start := new ⟨bmc, []⟩ (some .repository)
    (start.records 2).map (·.header.id) = [⟨5⟩, ⟨5⟩] ∧ ¬ Sound start := by
  intro answer bmc start
  have twice : (start.records 2).map (·.header.id) = [⟨5⟩, ⟨5⟩] := by decide +kernel
  refine ⟨twice, fun sound => ?_⟩
  have once := sound.once 2
  rw [twice] at once
  revert once
  decide

end SdrIter
end IpmiRs.Storage
