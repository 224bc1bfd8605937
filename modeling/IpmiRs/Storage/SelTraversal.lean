import IpmiRs.Storage.SelIter

/-! What a traversal of the event log does on any answers: it asks a bounded
number of times, yields no record ID twice, stays ended, and takes nothing but
the log's own word for its end. -/
namespace IpmiRs.Storage.Sel
open Connection App

/-- The log was reported to hold no entries. -/
def ReportsEmpty {ε : Type} (exchange : Exchange ε) : Prop :=
  exchange.request = getSelInfo.request ∧
    ∃ info, getSelInfo.readReply exchange.reply = .ok info ∧ info.entries = 0

/-- A record was read, and reported to be the last. -/
def ReportsLast {ε : Type} (exchange : Exchange ε) : Prop :=
  ∃ reservation id entry, exchange.request = (getSelEntry reservation id).request ∧
    (getSelEntry reservation id).readReply exchange.reply = .ok entry ∧ entry.nextEntry = .LAST

namespace SelIter
variable {ε : Type} {s s' s'' : SelIter ε}

/-- What was exchanged on the way to a state is among what was exchanged since. -/
theorem Spends.since_left (first : Spends s s') (second : Spends s' s'') {exchange : Exchange ε}
    (held : exchange ∈ s'.link.since s.link) : exchange ∈ s''.link.since s.link := by
  rw [Link.since_trans first.extends second.extends]
  exact List.mem_append_left _ held

theorem Spends.since_right (first : Spends s s') (second : Spends s' s'') {exchange : Exchange ε}
    (held : exchange ∈ s''.link.since s'.link) : exchange ∈ s''.link.since s.link := by
  rw [Link.since_trans first.extends second.extends]
  exact List.mem_append_right _ held

/-- A result of sending is what the command makes of a reply to it. -/
theorem send_heard {α β : Type} {command : IpmiCommand α β} {result : Except (IpmiError ε β) α}
    (sent : s.send command = (.ok result, s')) :
    ∃ exchange ∈ s'.link.since s.link, exchange.request = command.request ∧
      command.readReply exchange.reply = result := by
  obtain ⟨link, budget, same, -, answered⟩ := s.send_shape command
  rw [sent] at same answered
  obtain ⟨rfl, rfl⟩ := answered result rfl
  simp only at same
  subst same
  refine ⟨⟨command.request, s.link.reply (s.link.sent ++ [command.request])⟩, ?_, rfl, ?_⟩
  · rw [Link.since_sendRecv (.refl _), Link.since_self]
    exact List.mem_singleton.mpr rfl
  · exact (Link.sendRecv_result _ _).symm

theorem info_heard {info : SelInfo} (told : s.info = (.ok info, s')) :
    ∃ exchange ∈ s'.link.since s.link, exchange.request = getSelInfo.request ∧
      getSelInfo.readReply exchange.reply = .ok info := by
  unfold SelIter.info at told
  split at told
  · cases told
  · cases told
  · rename_i sent
    cases told
    exact send_heard sent

/-- A record that was read is what some attempt made of a reply. -/
theorem readAttempts_heard {id : RecordId} {attempts : Nat} {entry : EntryInfo}
    (read : readAttempts id attempts s = (.ok entry, s')) :
    ∃ exchange ∈ s'.link.since s.link, ∃ reservation,
      exchange.request = (getSelEntry reservation id).request ∧
      (getSelEntry reservation id).readReply exchange.reply = .ok entry := by
  induction attempts generalizing s with
  | zero =>
    unfold readAttempts at read
    split at read
    · cases read
    simp only at read
    split at read
    · cases read
    rename_i result middle sent
    have answered : (result.mapError .entry, middle) = ((.ok entry, s') : Except (SelIterError ε) _ × _) := by
      split at read <;> exact read
    obtain ⟨exchange, held, asked, told⟩ := send_heard sent
    cases result with
    | error error => cases answered
    | ok found =>
      cases answered
      exact ⟨exchange, held, _, asked, told⟩
  | succ attempts ih =>
    unfold readAttempts at read
    split at read
    · cases read
    rename_i left
    obtain ⟨paid, -⟩ := s.frame_attempt id (Nat.pos_of_ne_zero left)
    simp only at read paid
    split at read
    · cases read
    rename_i result middle sent
    rw [sent] at paid
    split at read
    · have reserved := middle.frame_reserve
      split at read
      · cases read
      rename_i renewing renewed
      rw [renewed] at reserved
      obtain ⟨exchange, held, reservation, asked, told⟩ := ih read
      have spends := paid.toSpends.trans reserved.toSpends
      have onward := (frame_readAttempts id attempts renewing).1
      rw [read] at onward
      exact ⟨exchange, spends.since_right onward.toSpends held, reservation, asked, told⟩
    · obtain ⟨exchange, held, asked, told⟩ := send_heard sent
      cases result with
      | error error => cases read
      | ok found =>
        cases read
        exact ⟨exchange, held, _, asked, told⟩

/-- What happens to a traversal until a call returns, or a turn of its loop goes
on: an end has been reported, and a record is new. -/
inductive Turned (s : SelIter ε) : Turn ε × SelIter ε → Prop
  | failed (error : SelIterError ε) (s' : SelIter ε) (spends : Spends s s')
      (seen : s'.seen = s.seen) (finished : s'.finished = true) :
      Turned s (.returned (some (.error error)), s')
  | ended (s' : SelIter ε) (spends : Spends s s') (seen : s'.seen = s.seen)
      (finished : s'.finished = true)
      (reported : s.nextId = some .LAST ∨
        ∃ exchange ∈ s'.link.since s.link, ReportsEmpty exchange ∨ ReportsLast exchange) :
      Turned s (.returned none, s')
  | again (s' : SelIter ε) (spends : Spends s s') (seen : s'.seen = s.seen)
      (finished : s'.finished = s.finished)
      (reported : s'.nextId = some .LAST → s.nextId = some .LAST ∨
        ∃ exchange ∈ s'.link.since s.link, ReportsLast exchange) :
      Turned s (.again, s')
  | yielded (entry : EntryInfo) (s' : SelIter ε) (spends : Spends s s')
      (room : s.seen.length < s.maxEntries) (new : entry.entry.recordId ∉ s.seen)
      (seen : s'.seen = entry.entry.recordId :: s.seen) (finished : s'.finished = s.finished)
      (reported : s'.nextId = some .LAST → ∃ exchange ∈ s'.link.since s.link, ReportsLast exchange) :
      Turned s (.returned (some (.ok entry)), s')

/-- A call that goes on has behind it what happened until then. -/
theorem Turned.trans {result : Turn ε × SelIter ε} (first : Turned s (.again, s'))
    (second : Turned s' result) : Turned s result := by
  cases first with
  | again _ spends seen finished reported =>
    cases second with
    | failed error s'' spends' seen' finished' =>
      exact .failed error s'' (spends.trans spends') (seen'.trans seen) finished'
    | ended s'' spends' seen' finished' reported' =>
      refine .ended s'' (spends.trans spends') (seen'.trans seen) finished' ?_
      rcases reported' with last | ⟨exchange, held, why⟩
      · rcases reported last with last | ⟨exchange, held, why⟩
        · exact .inl last
        · exact .inr ⟨exchange, spends.since_left spends' held, .inr why⟩
      · exact .inr ⟨exchange, spends.since_right spends' held, why⟩
    | again s'' spends' seen' finished' reported' =>
      refine .again s'' (spends.trans spends') (seen'.trans seen) (finished'.trans finished) ?_
      intro last
      rcases reported' last with last | ⟨exchange, held, why⟩
      · rcases reported last with last | ⟨exchange, held, why⟩
        · exact .inl last
        · exact .inr ⟨exchange, spends.since_left spends' held, why⟩
      · exact .inr ⟨exchange, spends.since_right spends' held, why⟩
    | yielded entry s'' spends' room new seen' finished' reported' =>
      refine .yielded entry s'' (spends.trans spends') ?_ (seen ▸ new) ?_ (finished'.trans finished) ?_
      · rw [← seen, ← spends.maxEntries]
        exact room
      · rw [seen', seen]
      · intro last
        obtain ⟨exchange, held, why⟩ := reported' last
        exact ⟨exchange, spends.since_right spends' held, why⟩

theorem Frame.turned (frame : Frame s s') : Turned s (.again, s') :=
  .again s' frame.toSpends frame.seen frame.finished fun last => .inl (frame.nextId ▸ last)

theorem turned_fail (s : SelIter ε) (error : SelIterError ε) : Turned s (s.fail error) :=
  .failed error _ ⟨⟨[], by simp, by simp⟩, rfl⟩ rfl rfl

/-- An end that the log's information reports. -/
theorem turned_empty {info : SelInfo} (told : s.info = (.ok info, s')) (empty : info.entries = 0) :
    Turned s (.returned none, { s' with finished := true }) := by
  have frame := s.frame_info
  rw [told] at frame
  obtain ⟨exchange, held, asked, answered⟩ := info_heard told
  exact .ended _ ⟨frame.requests, frame.maxEntries⟩ frame.seen rfl
    (.inr ⟨exchange, held, .inl ⟨asked, info, answered, empty⟩⟩)

theorem turned_first (frame : Frame s s') (scanned : List RecordId) :
    Turned s (.again, { s' with nextId := some .FIRST, scanned }) :=
  .again _ ⟨frame.requests, frame.maxEntries⟩ frame.seen frame.finished (by simp [RecordId.FIRST, RecordId.LAST])

theorem turned_start (s : SelIter ε) : Turned s s.start := by
  unfold start
  split
  · exact (Frame.refl s).turned
  have asked := s.frame_info
  generalize told : s.info = outcome at asked
  obtain ⟨error | info, asking⟩ := outcome
  · exact asked.turned.trans (turned_fail _ _)
  simp only at asked ⊢
  split
  · rename_i empty
    exact turned_empty told empty
  have reserved := asking.frame_takeReservation info false
  generalize asking.takeReservation info false = renewed at *
  obtain ⟨error | ⟨⟩, renewing⟩ := renewed
  · exact (asked.trans reserved).turned.trans (turned_fail _ _)
  · exact turned_first (asked.trans reserved) renewing.scanned

theorem turned_restart (s : SelIter ε) (id : RecordId) (error : SelIterError ε) :
    Turned s (s.restart id error) := by
  unfold restart
  have asked := s.frame_info
  generalize told : s.info = outcome at asked
  obtain ⟨error | info, asking⟩ := outcome
  · exact asked.turned.trans (turned_fail _ _)
  simp only at asked ⊢
  split
  · rename_i empty
    exact turned_empty told empty
  split
  · exact asked.turned.trans (turned_fail _ _)
  have reserved := frame_takeReservation { asking with restarts := asking.restarts + 1 } info true
  have counted : Frame asking { asking with restarts := asking.restarts + 1 } :=
    ⟨⟨⟨[], by simp, by simp⟩, rfl⟩, rfl, rfl, rfl⟩
  have whole := (asked.trans counted).trans reserved
  generalize takeReservation _ info true = renewed at *
  obtain ⟨error | ⟨⟩, renewing⟩ := renewed
  · exact whole.turned.trans (turned_fail _ _)
  · exact turned_first whole []

/-- A record that was read is refused, passed over, or yielded. -/
theorem turned_accept {id : RecordId} {entry : EntryInfo}
    (room : s.seen.length < s.maxEntries) (read : s.read id = (.ok entry, s')) :
    Turned s (s'.accept id entry) := by
  have frame : Frame s s' := by
    have frame := (frame_readAttempts id 2 s).1
    rwa [← SelIter.read, read] at frame
  obtain ⟨exchange, held, reservation, asked, told⟩ := readAttempts_heard read
  have last (pending : some entry.nextEntry = some .LAST) : ReportsLast exchange :=
    ⟨reservation, id, entry, asked, told, Option.some.inj pending⟩
  have refused (error : SelIterError ε) : Turned s (s'.fail error) :=
    frame.turned.trans (turned_fail _ _)
  unfold accept
  simp only
  split
  · exact refused _
  split
  · exact refused _
  split
  · exact refused _
  split
  · exact refused _
  split
  · exact refused _
  split
  · exact .again _ ⟨frame.requests, frame.maxEntries⟩ frame.seen frame.finished
      fun pending => .inr ⟨exchange, held, last pending⟩
  · rename_i new
    refine .yielded entry _ ⟨frame.requests, frame.maxEntries⟩ room ?_ ?_ frame.finished
      fun pending => ⟨exchange, held, last pending⟩
    · simpa [frame.seen] using new
    · simp [frame.seen]

theorem turned_turn (s : SelIter ε) : Turned s s.turn := by
  unfold turn
  simp only
  split
  · rename_i last
    refine .ended _ ⟨⟨[], by simp, by simp⟩, rfl⟩ rfl rfl (.inl ?_)
    cases pending : s.nextId with
    | none => simp [pending, RecordId.FIRST, RecordId.LAST] at last
    | some id => simpa [pending] using last
  split
  · exact turned_fail _ _
  rename_i room
  split
  · exact turned_fail _ _
  generalize outcome : s.read _ = result
  obtain ⟨error | entry, s'⟩ := result
  · have frame : Frame s s' := by
      have frame := (frame_readAttempts (s.nextId.getD .FIRST) 2 s).1
      rwa [← SelIter.read, outcome] at frame
    simp only
    split
    · exact frame.turned.trans (turned_restart _ _ _)
    · exact frame.turned.trans (turned_fail _ _)
  · exact turned_accept (by omega) outcome

theorem turned_loop (s : SelIter ε) : Turned s (.returned s.loop.1, s.loop.2) := by
  induction s using loop.induct with
  | case1 s item s' turned =>
    have only := s.turned_turn
    rwa [loop_eq, turned, ← turned]
  | case2 s s' turned ih =>
    have first := s.turned_turn
    rw [turned] at first
    rw [loop_eq, turned]
    exact first.trans ih

/-- What a call of an unfinished traversal does. -/
theorem turned_next (unfinished : s.finished = false) :
    Turned s (.returned s.next.1, s.next.2) := by
  have opened := s.turned_start
  rw [next, unfinished]
  simp only [Bool.false_eq_true, ↓reduceIte]
  generalize s.start = begun at *
  obtain ⟨item | _, s'⟩ := begun
  · exact opened
  · exact opened.trans s'.turned_loop

theorem next_of_finished (finished : s.finished = true) : s.next = (none, s) := by
  rw [next, if_pos finished]

/-- A finished traversal stays as it is. -/
theorem after_finished {n m : Nat} (finished : (s.after n).finished = true) (later : n ≤ m) :
    s.after m = s.after n ∧ s.item m = none := by
  have same : s.after m = s.after n := by
    induction m, later using Nat.le_induction with
    | base => rfl
    | succ m _ ih => rw [after, ih, next_of_finished finished]
  refine ⟨same, ?_⟩
  rw [item, same, next_of_finished finished]

theorem entries_succ (s : SelIter ε) (n : Nat) :
    s.entries (n + 1) = s.entries n ++ ((s.item n).bind Except.toOption).toList := by
  simp only [entries, List.range_succ, List.filterMap_append, List.append_cancel_left_eq]
  cases found : (s.item n).bind Except.toOption <;> simp [found]

/-- What holds after a number of calls: the IDs seen are those of the entries
yielded, there is room for them, and what was asked is paid for. -/
structure Walked (s : SelIter ε) (n : Nat) : Prop where
  spends : Spends s (s.after n)
  seen : (s.after n).seen = ((s.entries n).map (·.entry.recordId)).reverse
  distinct : (s.after n).seen.Nodup
  room : (s.after n).seen.length ≤ s.maxEntries
  reported : (s.after n).finished = false → (s.after n).nextId = some .LAST →
    ∃ exchange ∈ (s.after n).link.since s.link, ReportsLast exchange

/-- The end of the log was reported by the end of a number of calls. -/
def EndReported (s : SelIter ε) (n : Nat) : Prop :=
  ∃ exchange ∈ (s.after n).link.since s.link, ReportsEmpty exchange ∨ ReportsLast exchange

/-- A call that yields nothing and leaves the traversal finished. -/
theorem Walked.finish {n : Nat} (walked : Walked s n)
    (spends : Spends (s.after n) (s.after (n + 1)))
    (seen : (s.after (n + 1)).seen = (s.after n).seen) (finished : (s.after (n + 1)).finished = true)
    (nothing : ∀ entry, s.item n ≠ some (.ok entry)) : Walked s (n + 1) := by
  have entries : s.entries (n + 1) = s.entries n := by
    rw [entries_succ]
    rcases found : s.item n with _ | error | entry
    · simp
    · simp [Except.toOption]
    · exact absurd found (nothing entry)
  constructor
  · exact walked.spends.trans spends
  · rw [seen, entries]
    exact walked.seen
  · rw [seen]
    exact walked.distinct
  · rw [seen]
    exact walked.room
  · intro unfinished
    rw [finished] at unfinished
    cases unfinished

/-- One more call keeps what holds. It yields an entry, or the traversal is
finished, by an error or at an end that was reported. -/
theorem Walked.next {n : Nat} (walked : Walked s n) (unfinished : (s.after n).finished = false) :
    Walked s (n + 1) ∧
      ((∃ entry, s.item n = some (.ok entry) ∧ (s.after (n + 1)).finished = false ∧
          (s.after (n + 1)).seen.length = (s.after n).seen.length + 1) ∨
        (s.after (n + 1)).finished = true ∧
          ((∃ error, s.item n = some (.error error)) ∨
            s.item n = none ∧ EndReported s (n + 1))) := by
  have shape := (s.after n).turned_next unfinished
  change Turned (s.after n) (.returned (s.item n), s.after (n + 1)) at shape
  have entries := s.entries_succ n
  generalize reached : s.after (n + 1) = s' at shape
  generalize yielded : s.item n = item at shape
  cases shape with
  | failed error _ spends seen finished =>
    subst reached
    exact ⟨walked.finish spends seen finished (by simp [yielded]),
      .inr ⟨finished, .inl ⟨error, rfl⟩⟩⟩
  | ended _ spends seen finished reported =>
    subst reached
    refine ⟨walked.finish spends seen finished (by simp [yielded]),
      .inr ⟨finished, .inr ⟨rfl, ?_⟩⟩⟩
    rcases reported with last | ⟨exchange, held, why⟩
    · obtain ⟨exchange, held, why⟩ := walked.reported unfinished last
      exact ⟨exchange, walked.spends.since_left spends held, .inr why⟩
    · exact ⟨exchange, walked.spends.since_right spends held, why⟩
  | yielded entry _ spends room new seen finished reported =>
    subst reached
    rw [yielded] at entries
    have length : (s.after (n + 1)).seen.length = (s.after n).seen.length + 1 := by
      rw [seen, List.length_cons]
    refine ⟨?_, .inl ⟨entry, rfl, finished.trans unfinished, length⟩⟩
    constructor
    · exact walked.spends.trans spends
    · rw [seen, entries, walked.seen]
      simp [Except.toOption]
    · rw [seen]
      exact List.nodup_cons.mpr ⟨new, walked.distinct⟩
    · rw [length, ← walked.spends.maxEntries]
      exact room
    · intro _ last
      obtain ⟨exchange, held, why⟩ := reported last
      exact ⟨exchange, walked.spends.since_right spends held, why⟩

section traversal
variable (link : Link ε) (maxEntries : Nat) (budget : Option Watch)

/-- A traversal that has not begun, with or without a budget. -/
def fresh : SelIter ε := { new link maxEntries with budget }

theorem walked (n : Nat) : Walked (fresh link maxEntries budget) n := by
  induction n with
  | zero =>
    refine ⟨.refl _, rfl, List.nodup_nil, Nat.zero_le _, fun _ last => ?_⟩
    cases last
  | succ n walked =>
    cases finished : ((fresh link maxEntries budget).after n).finished with
    | true =>
      obtain ⟨same, -⟩ := after_finished finished (Nat.le_succ n)
      obtain ⟨-, stopped⟩ := after_finished finished (Nat.le_refl n)
      refine walked.finish ?_ ?_ ?_ (by simp [stopped])
      · rw [same]
        exact .refl _
      · rw [same]
      · rw [same]
        exact finished
    | false => exact (walked.next finished).1

/-- Every call of an unfinished traversal has yielded an entry. -/
theorem seen_length {n : Nat} (unfinished : ((fresh link maxEntries budget).after n).finished = false) :
    ((fresh link maxEntries budget).after n).seen.length = n := by
  induction n with
  | zero => rfl
  | succ n ih =>
    cases before : ((fresh link maxEntries budget).after n).finished with
    | true =>
      rw [(after_finished before (Nat.le_succ n)).1, before] at unfinished
      cases unfinished
    | false =>
      rcases ((walked link maxEntries budget n).next before).2 with ⟨-, -, -, grown⟩ | ⟨finished, -⟩
      · rw [grown, ih before]
      · rw [finished] at unfinished
        cases unfinished

/-- What a call that yields no entry leaves behind. -/
theorem stopped_finished {n : Nat}
    (nothing : ∀ entry, (fresh link maxEntries budget).item n ≠ some (.ok entry)) :
    ((fresh link maxEntries budget).after (n + 1)).finished = true := by
  cases before : ((fresh link maxEntries budget).after n).finished with
  | true => rw [(after_finished before (Nat.le_succ n)).1, before]
  | false =>
    rcases ((walked link maxEntries budget n).next before).2 with ⟨entry, yielded, -⟩ | ⟨finished, -⟩
    · exact absurd yielded (nothing entry)
    · exact finished

/-- A traversal that finished did so by an error, or at an end that was reported. -/
theorem explained {n : Nat}
    (finished : ((fresh link maxEntries budget).after n).finished = true) :
    (∃ m < n, ∃ error, (fresh link maxEntries budget).item m = some (.error error)) ∨
      EndReported (fresh link maxEntries budget) n := by
  induction n with
  | zero => cases finished
  | succ n ih =>
    cases before : ((fresh link maxEntries budget).after n).finished with
    | true =>
      rcases ih before with ⟨m, earlier, failed⟩ | reported
      · exact .inl ⟨m, Nat.lt_succ_of_lt earlier, failed⟩
      · rw [EndReported, (after_finished before (Nat.le_succ n)).1]
        exact .inr reported
    | false =>
      rcases ((walked link maxEntries budget n).next before).2 with
        ⟨-, -, unfinished, -⟩ | ⟨-, failed | ⟨-, reported⟩⟩
      · rw [finished] at unfinished
        cases unfinished
      · exact .inl ⟨n, Nat.lt_succ_self n, failed⟩
      · exact .inr reported

/-- Whatever the log answers, with or without a budget: no record ID is yielded
twice, and at most as many entries as were allowed; the records asked for are
bounded; every call returns, and all beyond the allowed number return nothing;
nothing follows an error or an end; and an end without an error was reported. -/
theorem traversal_bounded_and_duplicate_free :
    (let first := fresh link maxEntries budget
    (∀ n, ((first.entries n).map (·.entry.recordId)).Nodup ∧
      (first.entries n).length ≤ maxEntries ∧
      ((first.after n).link.sent.drop link.sent.length).countP isGetSelEntry ≤
        min (4 * maxEntries + 4) 65536) ∧
    (∀ n, maxEntries < n → first.item n = none) ∧
    (∀ n m, (first.item n = none ∨ ∃ error, first.item n = some (.error error)) → n < m →
      first.item m = none) ∧
    ∀ n, first.item n = none →
      (∃ m < n, ∃ error, first.item m = some (.error error)) ∨ EndReported first (n + 1)) := by
  intro first
  have fused (n m : Nat) (nothing : ∀ entry, first.item n ≠ some (.ok entry)) (later : n < m) :
      first.item m = none :=
    (after_finished (stopped_finished link maxEntries budget nothing) later).2
  refine ⟨fun n => ?_, fun n beyond => ?_, fun n m stopped => fused n m ?_, ?_⟩
  · have walked := walked link maxEntries budget n
    have seen := walked.seen
    refine ⟨?_, ?_, ?_⟩
    · rw [← List.nodup_reverse, ← seen]
      exact walked.distinct
    · have room := walked.room
      rw [seen, List.length_reverse, List.length_map] at room
      exact room
    · obtain ⟨more, sent, paid⟩ := walked.spends.requests
      have asked : (first.after n).link.sent.drop link.sent.length = more := by
        rw [sent]
        exact List.drop_left
      have limit : (fresh link maxEntries budget).remainingReads = min (maxEntries * 4 + 4) 65536 := rfl
      rw [asked]
      omega
  · have finished : (first.after n).finished = true := by
      rw [← Bool.not_eq_false]
      intro unfinished
      have room := (walked link maxEntries budget n).room
      rw [seen_length link maxEntries budget unfinished] at room
      exact absurd beyond (Nat.not_lt.mpr room)
    exact (after_finished finished (Nat.le_refl n)).2
  · intro entry yielded
    rcases stopped with none | ⟨error, failed⟩
    · rw [none] at yielded
      cases yielded
    · rw [failed] at yielded
      cases yielded
  · intro n nothing
    rcases explained link maxEntries budget
      (stopped_finished link maxEntries budget (n := n) (by simp [first, nothing])) with
      ⟨m, earlier, error, failed⟩ | reported
    · refine .inl ⟨m, Nat.lt_of_le_of_ne (Nat.le_of_lt_succ earlier) ?_, error, failed⟩
      rintro rfl
      rw [nothing] at failed
      cases failed
    · exact .inr reported

end traversal
end SelIter
end IpmiRs.Storage.Sel
