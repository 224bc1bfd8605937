import IpmiRs.Library.KeyedDiff
import IpmiRs.Library.Runs
import IpmiRs.Storage.SelBudget
import IpmiRs.Storage.SelCompleteness

/-! `SelPoller` of `events.rs`: each poll scans the whole log and reports how it
differs from the last scan that succeeded. -/
namespace IpmiRs.Storage.Sel
open Connection App Library

inductive EventPollError (ε : Type) where
  | invalidLimit
  | cancelled
  | deadlineExpired
  | traverse (error : SelIterError ε)
  | info (error : IpmiError ε NotEnoughData)
  | unstableScan (expected observed : Nat)
  deriving DecidableEq

/-- The error a scan makes of an error of its traversal. -/
def EventPollError.ofIter {ε : Type} : SelIterError ε → EventPollError ε
  | .cancelled => .cancelled
  | .deadlineExpired => .deadlineExpired
  | error => .traverse error

structure SelPollBatch where
  entries : List EntryInfo
  missingIds : List RecordId
  wrapped : Bool
  overflow : Bool
  continuityLost : Bool
  deriving DecidableEq

/-- The poller, with the connection it holds. -/
structure SelPoller (ε : Type) where
  link : Link ε
  maxEntries : Nat
  previous : List EntryInfo
  info : SelInfo

namespace SelPoller
variable {ε : Type}

/-- `check`, of the deadline and token that the iterator was given. -/
def check (iter : SelIter ε) : Except (EventPollError ε) Unit × SelIter ε :=
  match iter.checkBudget with
  | (.error error, iter) => (.error (.ofIter error), iter)
  | (.ok (), iter) => (.ok (), iter)

/-- What one turn of the loop of `scan` comes to. -/
inductive ScanTurn (ε : Type) where
  | failed (error : EventPollError ε)
  | pushed (entry : EntryInfo)
  | exhausted

/-- One turn of the loop of `scan`. -/
def scanTurn (iter : SelIter ε) : ScanTurn ε × SelIter ε :=
  match check iter with
  | (.error error, iter) => (.failed error, iter)
  | (.ok (), iter) =>
    match iter.next with
    | (none, iter) => (.exhausted, iter)
    | (some (.error error), iter) => (.failed (.ofIter error), iter)
    | (some (.ok entry), iter) =>
      match check iter with
      | (.error error, iter) => (.failed error, iter)
      | (.ok (), iter) => (.pushed entry, iter)

/-- What a look at the budget leaves alone. -/
theorem check_shape (iter : SelIter ε) : ∃ budget, (check iter).2 = { iter with budget } := by
  obtain ⟨budget, same⟩ := iter.checkBudget_shape
  refine ⟨budget, ?_⟩
  unfold check
  generalize iter.checkBudget = looked at *
  obtain ⟨error | ⟨⟩, after⟩ := looked <;> exact same

/-- A record that is pushed is new to its scan, and there was room for it. -/
theorem scanTurn_pushed {iter after : SelIter ε} {entry : EntryInfo}
    (turned : scanTurn iter = (.pushed entry, after)) :
    iter.seen.length < iter.maxEntries ∧ entry.entry.recordId ∉ iter.seen ∧
      after.seen = entry.entry.recordId :: iter.seen ∧ after.maxEntries = iter.maxEntries := by
  unfold scanTurn at turned
  obtain ⟨budget, first⟩ := check_shape iter
  generalize check iter = looked at turned first
  obtain ⟨error | ⟨⟩, before⟩ := looked
  · cases turned
  simp only at turned first
  subst first
  cases finished : iter.finished with
  | true =>
    rw [SelIter.next_of_finished (s := { iter with budget }) finished] at turned
    cases turned
  | false =>
    have shape := SelIter.turned_next (s := { iter with budget }) finished
    generalize SelIter.next _ = result at turned shape
    obtain ⟨item, yielding⟩ := result
    cases shape with
    | failed | ended => cases turned
    | yielded entry _ spends room new seen =>
      obtain ⟨budget', second⟩ := check_shape yielding
      simp only at turned
      generalize check yielding = looked at turned second
      obtain ⟨error | ⟨⟩, last⟩ := looked
      · cases turned
      · cases turned
        simp only at second
        subst second
        exact ⟨room, new, seen, spends.maxEntries⟩

/-- The loop of `scan`. It ends because there is only so much room. -/
def scanLoop (iter : SelIter ε) (entries : List EntryInfo) :
    Except (EventPollError ε) (List EntryInfo) × SelIter ε :=
  match _turned : scanTurn iter with
  | (.failed error, iter) => (.error error, iter)
  | (.exhausted, iter) => (.ok entries, iter)
  | (.pushed entry, after) => scanLoop after (entries ++ [entry])
termination_by iter.maxEntries - iter.seen.length
decreasing_by
  obtain ⟨room, -, seen, limit⟩ := scanTurn_pushed _turned
  rw [seen, limit, List.length_cons]
  omega

/-- The part of `scan` after its loop; the iterator only carries the connection
and the budget. -/
def confirmScan (iter : SelIter ε) (entries : List EntryInfo) :
    Except (EventPollError ε) (List EntryInfo × SelInfo) × Link ε :=
  match check iter with
  | (.error error, iter) => (.error error, iter.link)
  | (.ok (), iter) =>
    let result := iter.link.sendRecv getSelInfo
    match check { iter with link := result.2 } with
    | (.error error, iter) => (.error error, iter.link)
    | (.ok (), iter) =>
      match result.1 with
      | .error error => (.error (.info error), iter.link)
      | .ok info =>
        if info.entries.toNat ≠ entries.length then
          (.error (.unstableScan info.entries.toNat entries.length), iter.link)
        else (.ok (entries, info), iter.link)

def scan (link : Link ε) (maxEntries : Nat) (watch : Watch) :
    Except (EventPollError ε) (List EntryInfo × SelInfo) × Link ε :=
  match scanLoop (.newBounded link maxEntries watch) [] with
  | (.error error, iter) => (.error error, iter.link)
  | (.ok entries, iter) => confirmScan iter entries

def new (link : Link ε) (maxEntries : Nat) (watch : Watch) :
    Except (EventPollError ε) (SelPoller ε) × Link ε :=
  if maxEntries = 0 ∨ 65534 < maxEntries then (.error .invalidLimit, link)
  else
    match scan link maxEntries watch with
    | (.error error, link) => (.error error, link)
    | (.ok (previous, info), link) => (.ok ⟨link, maxEntries, previous, info⟩, link)

/-- The records of a scan by their IDs. -/
def recordMap (entries : List EntryInfo) : RecordId → Option (List UInt8) :=
  KeyedDiff.toMap (·.entry.recordId) EntryInfo.raw entries

/-- The differences `poll_once` reports between two scans. -/
def difference (previous : List EntryInfo) (before : SelInfo) (current : List EntryInfo)
    (info : SelInfo) : SelPollBatch :=
  let missingIds := KeyedDiff.missing (·.entry.recordId) EntryInfo.raw previous current
  let entries := KeyedDiff.changed (·.entry.recordId) EntryInfo.raw previous current
  let wrapped := previous.getLast?.any fun last =>
    let lastId := last.entry.recordId
    let firstAfterLast := (current.findIdx? fun e => e.entry.recordId = lastId).elim 0 (· + 1)
    (current.drop firstAfterLast).any fun e =>
      recordMap previous e.entry.recordId ≠ some e.raw && e.entry.recordId.value < lastId.value
  let continuityLost := !missingIds.isEmpty || before.lastDelTime != info.lastDelTime ||
    info.overflow || (entries.isEmpty && before.lastAddTime != info.lastAddTime)
  { entries, missingIds, wrapped, overflow := info.overflow, continuityLost }

def pollOnce (s : SelPoller ε) (watch : Watch) :
    Except (EventPollError ε) SelPollBatch × SelPoller ε :=
  match scan s.link s.maxEntries watch with
  | (.error error, link) => (.error error, { s with link })
  | (.ok (current, info), link) =>
    (.ok (difference s.previous s.info current info), { s with link, previous := current, info })

/-! ### What is reported -/

theorem scanLoop_eq (iter : SelIter ε) (entries : List EntryInfo) :
    scanLoop iter entries = match scanTurn iter with
      | (.failed error, iter) => (.error error, iter)
      | (.exhausted, iter) => (.ok entries, iter)
      | (.pushed entry, after) => scanLoop after (entries ++ [entry]) := by
  rw [scanLoop]
  split <;> simp_all

/-! ### What a scan reads -/

/-- The calls of a traversal yield these entries, one after another. -/
def Yields (first : SelIter ε) (entries : List EntryInfo) : Prop :=
  ∀ m entry, entries[m]? = some entry → first.item m = some (.ok entry)

/-- A traversal that is not interrupted, from its first call to the one that
returns nothing: the entries it yielded, in order, and the connection after it. -/
structure Traversed (link : Link ε) (maxEntries : Nat) (entries : List EntryInfo) (after : Link ε) : Prop where
  yielded : Yields (.new link maxEntries) entries
  ended : (SelIter.new link maxEntries).item entries.length = none
  left : after = ((SelIter.new link maxEntries).after (entries.length + 1)).link

/-- Why a scan fails: a look at the deadline or the token found an interruption,
the traversal failed, or, after a whole traversal, the log did not report how
many records it has, or reported another number than were read. -/
inductive ScanFails (link : Link ε) (maxEntries : Nat) (watch : Watch) : EventPollError ε → Prop
  | cancelled (look : Nat) (found : watch.finds look = some .cancelled) : ScanFails link maxEntries watch .cancelled
  | deadlineExpired (look : Nat) (found : watch.finds look = some .deadlineExpired) :
      ScanFails link maxEntries watch .deadlineExpired
  | traverse (entries : List EntryInfo) (error : SelIterError ε) (yielded : Yields (.new link maxEntries) entries)
      (failed : (SelIter.new link maxEntries).item entries.length = some (.error error)) :
      ScanFails link maxEntries watch (.traverse error)
  | info (entries : List EntryInfo) (after : Link ε) (error : IpmiError ε NotEnoughData)
      (traversed : Traversed link maxEntries entries after)
      (refused : (after.sendRecv getSelInfo).1 = .error error) : ScanFails link maxEntries watch (.info error)
  | unstableScan (entries : List EntryInfo) (after : Link ε) (info : SelInfo)
      (traversed : Traversed link maxEntries entries after) (told : (after.sendRecv getSelInfo).1 = .ok info)
      (differs : info.entries.toNat ≠ entries.length) :
      ScanFails link maxEntries watch (.unstableScan info.entries.toNat entries.length)

/-- A scan that succeeds: a whole traversal, after which the log reported as
many records as were read. -/
structure Scanned (link : Link ε) (maxEntries : Nat) (entries : List EntryInfo) (info : SelInfo)
    (after : Link ε) : Prop where
  between : ∃ mid, Traversed link maxEntries entries mid ∧ mid.sendRecv getSelInfo = (.ok info, after)
  counted : info.entries.toNat = entries.length

section watched
variable {finds : Nat → Option Interruption} {iter : SelIter ε}

/-- A look found this error. -/
def Interrupted (finds : Nat → Option Interruption) (error : EventPollError ε) : Prop :=
  ∃ interruption look, finds look = some interruption ∧ error = .ofIter interruption.toError

theorem Interrupted.fails {watch : Watch} {error : EventPollError ε} {link : Link ε} {maxEntries : Nat}
    (interrupted : Interrupted watch.finds error) : ScanFails link maxEntries watch error := by
  obtain ⟨interruption, look, found, rfl⟩ := interrupted
  cases interruption with
  | cancelled => exact .cancelled look found
  | deadlineExpired => exact .deadlineExpired look found

/-- An error that is no interruption is one of the traversal. -/
theorem ofIter_traverse {error : SelIterError ε} (plain : ∀ interruption : Interruption, error ≠ interruption.toError) :
    EventPollError.ofIter error = .traverse error := by
  cases error with
  | cancelled => exact absurd rfl (plain .cancelled)
  | deadlineExpired => exact absurd rfl (plain .deadlineExpired)
  | _ => rfl

theorem check_watched (watched : SelIter.Watched finds iter) :
    (∃ t, check iter = (.ok (), t) ∧ SelIter.Watched finds t ∧ t.unbounded = iter.unbounded) ∨
      ∃ error t, check iter = (.error error, t) ∧ Interrupted finds error := by
  have agrees := SelIter.checkBudget_agrees watched
  have plain : iter.unbounded.checkBudget = (.ok (), iter.unbounded) := rfl
  unfold check
  generalize iter.checkBudget = looked at agrees ⊢
  obtain ⟨result, t⟩ := looked
  rcases agrees.same with ⟨same, -⟩ | ⟨interruption, look, found, stopped⟩
  · obtain ⟨clear, kept⟩ := Prod.mk.inj (plain.symm.trans same)
    dsimp only at clear kept
    subst clear
    exact .inl ⟨t, rfl, agrees.watched, kept.symm⟩
  · cases stopped
    exact .inr ⟨_, t, rfl, interruption, look, found, rfl⟩

/-- A turn of the loop is a call of the traversal, unless it is interrupted. -/
theorem scanTurn_watched (watched : SelIter.Watched finds iter) :
    (∃ error t, scanTurn iter = (.failed error, t) ∧ (Interrupted finds error ∨
      ∃ failed, iter.unbounded.next.1 = some (.error failed) ∧ error = .traverse failed)) ∨
    ∃ t, SelIter.Watched finds t ∧
      ((scanTurn iter = (.exhausted, t) ∧ iter.unbounded.next = (none, t.unbounded)) ∨
        ∃ entry, scanTurn iter = (.pushed entry, t) ∧ iter.unbounded.next = (some (.ok entry), t.unbounded)) := by
  unfold scanTurn
  rcases check_watched watched with ⟨before, looked, watched, kept⟩ | ⟨error, t, looked, interrupted⟩
  · rw [looked]
    have agrees := SelIter.next_agrees watched
    rw [kept] at agrees
    dsimp only
    generalize before.next = called at agrees ⊢
    obtain ⟨item, t⟩ := called
    rcases agrees.same with ⟨same, clean⟩ | ⟨interruption, look, found, stopped⟩
    · rw [same]
      dsimp only at clean
      rcases item with _ | error | entry
      · exact .inr ⟨t, agrees.watched, .inl ⟨rfl, rfl⟩⟩
      · refine .inl ⟨_, t, rfl, .inr ⟨error, rfl, ofIter_traverse ?_⟩⟩
        rintro interruption rfl
        exact clean interruption rfl
      · dsimp only
        rcases check_watched agrees.watched with ⟨u, looked, watched, kept⟩ | ⟨error, u, looked, interrupted⟩
        · rw [looked]
          refine .inr ⟨u, watched, .inr ⟨entry, rfl, ?_⟩⟩
          rw [kept]
        · rw [looked]
          exact .inl ⟨error, u, rfl, .inl interrupted⟩
    · cases stopped
      exact .inl ⟨_, t, rfl, .inl ⟨interruption, look, found, rfl⟩⟩
  · rw [looked]
    exact .inl ⟨error, t, rfl, .inl interrupted⟩

/-- The loop pushes what the traversal yields, in order, up to its end. -/
theorem scanLoop_watched {first : SelIter ε} {pushed : List EntryInfo} (watched : SelIter.Watched finds iter)
    (reached : iter.unbounded = first.after pushed.length) (yielded : Yields first pushed) :
    (∃ error t, scanLoop iter pushed = (.error error, t) ∧ (Interrupted finds error ∨
      ∃ entries failed, Yields first entries ∧ first.item entries.length = some (.error failed) ∧
        error = .traverse failed)) ∨
    ∃ entries t, scanLoop iter pushed = (.ok entries, t) ∧ SelIter.Watched finds t ∧ Yields first entries ∧
      first.item entries.length = none ∧ t.unbounded = first.after (entries.length + 1) := by
  induction iter, pushed using scanLoop.induct with
  | case1 iter pushed error failed turned =>
    rw [scanLoop_eq]
    rcases scanTurn_watched watched with ⟨error, t, same, why⟩ | ⟨t, -, ⟨same, -⟩ | ⟨entry, same, -⟩⟩
    · rw [same]
      refine .inl ⟨error, t, rfl, why.imp_right ?_⟩
      rintro ⟨failed, called, rfl⟩
      rw [reached] at called
      exact ⟨pushed, failed, yielded, called, rfl⟩
    · rw [turned] at same
      cases same
    · rw [turned] at same
      cases same
  | case2 iter pushed last turned =>
    rw [scanLoop_eq]
    rcases scanTurn_watched watched with ⟨error, t, same, -⟩ | ⟨t, watched, ⟨same, called⟩ | ⟨entry, same, -⟩⟩
    · rw [turned] at same
      cases same
    · rw [same]
      rw [reached] at called
      obtain ⟨ended, left⟩ := SelIter.item_of_next called
      exact .inr ⟨pushed, t, rfl, watched, yielded, ended, left.symm⟩
    · rw [turned] at same
      cases same
  | case3 iter pushed entry next turned ih =>
    rw [scanLoop_eq]
    rcases scanTurn_watched watched with ⟨error, t, same, -⟩ | ⟨t, watched, ⟨same, -⟩ | ⟨found, same, called⟩⟩
    · rw [turned] at same
      cases same
    · rw [turned] at same
      cases same
    · rw [turned] at same ⊢
      cases same
      rw [reached] at called
      obtain ⟨given, left⟩ := SelIter.item_of_next called
      apply ih watched
      · rw [List.length_append, List.length_singleton]
        exact left.symm
      · intro m other among
        rcases Nat.lt_or_ge m pushed.length with earlier | late
        · rw [List.getElem?_append_left earlier] at among
          exact yielded m other among
        · rw [List.getElem?_append_right late, List.getElem?_singleton] at among
          by_cases last : m - pushed.length = 0
          · rw [if_pos last] at among
            obtain rfl : m = pushed.length := by omega
            cases among
            exact given
          · rw [if_neg last] at among
            cases among

/-- After a whole traversal, a scan is confirmed by the number of records the log reports. -/
theorem confirmScan_watched {link : Link ε} {maxEntries : Nat} {entries : List EntryInfo} {watch : Watch}
    (watched : SelIter.Watched watch.finds iter) (traversed : Traversed link maxEntries entries iter.link) :
    (∃ error t, confirmScan iter entries = (.error error, t) ∧ ScanFails link maxEntries watch error) ∨
      ∃ info t, confirmScan iter entries = (.ok (entries, info), t) ∧ Scanned link maxEntries entries info t := by
  unfold confirmScan
  rcases check_watched watched with ⟨before, looked, watched, kept⟩ | ⟨error, t, looked, interrupted⟩
  · rw [looked]
    have same : before.unbounded.link = iter.unbounded.link := congrArg _ kept
    have traversed : Traversed link maxEntries entries before.link := same ▸ traversed
    dsimp only
    have later : SelIter.Watched watch.finds { before with link := (before.link.sendRecv getSelInfo).2 } := watched
    rcases check_watched later with
      ⟨after, looked, -, kept⟩ | ⟨error, t, looked, interrupted⟩
    · have left : after.unbounded.link = (before.link.sendRecv getSelInfo).2 := congrArg SelIter.link kept
      have left : after.link = (before.link.sendRecv getSelInfo).2 := left
      rw [looked]
      dsimp only
      rw [left]
      cases told : (before.link.sendRecv getSelInfo).1 with
      | error error => exact .inl ⟨_, _, rfl, .info entries _ error traversed told⟩
      | ok info =>
        dsimp only
        by_cases counted : info.entries.toNat = entries.length
        · rw [if_neg (not_not.mpr counted)]
          exact .inr ⟨info, _, rfl, ⟨_, traversed, Prod.ext told rfl⟩, counted⟩
        · rw [if_pos counted]
          exact .inl ⟨_, _, rfl, .unstableScan entries _ info traversed told counted⟩
    · rw [looked]
      exact .inl ⟨error, _, rfl, interrupted.fails⟩
  · rw [looked]
    exact .inl ⟨error, _, rfl, interrupted.fails⟩

/-- A scan is a traversal without a budget, and what the log reports after it,
unless it is interrupted. -/
theorem scan_traverses (link : Link ε) (maxEntries : Nat) (watch : Watch) :
    (∃ error t, scan link maxEntries watch = (.error error, t) ∧ ScanFails link maxEntries watch error) ∨
      ∃ entries info t, scan link maxEntries watch = (.ok (entries, info), t) ∧
        Scanned link maxEntries entries info t := by
  unfold scan
  have watched : SelIter.Watched watch.finds (.newBounded link maxEntries watch) := ⟨watch.looks, rfl⟩
  have yielded : Yields (.new link maxEntries) [] := by simp [Yields]
  rcases scanLoop_watched watched rfl yielded with
    ⟨error, t, looped, why⟩ | ⟨entries, t, looped, watched, yielded, ended, left⟩
  · rw [looped]
    refine .inl ⟨error, _, rfl, ?_⟩
    rcases why with interrupted | ⟨entries, failed, yielded, found, rfl⟩
    · exact interrupted.fails
    · exact .traverse entries failed yielded found
  · rw [looped]
    have link : t.unbounded.link = ((SelIter.new link maxEntries).after (entries.length + 1)).link := congrArg _ left
    have traversed : Traversed _ maxEntries entries t.link := ⟨yielded, ended, link⟩
    rcases confirmScan_watched watched traversed with failed | ⟨info, u, confirmed, scanned⟩
    · exact .inl failed
    · exact .inr ⟨entries, info, u, confirmed, scanned⟩

end watched

/-- The entries that are yielded are those of the calls. -/
theorem Yields.entries {first : SelIter ε} {entries : List EntryInfo} (yielded : Yields first entries) :
    first.entries entries.length = entries := by
  induction entries using List.reverseRecOn with
  | nil => rfl
  | append_singleton entries entry ih =>
    have earlier : Yields first entries := by
      intro m other among
      obtain ⟨within, -⟩ := List.getElem?_eq_some_iff.mp among
      exact yielded m other (by rw [List.getElem?_append_left within, among])
    have last : first.item entries.length = some (.ok entry) := yielded _ _ (by simp)
    rw [List.length_append, List.length_singleton, SelIter.entries_succ, ih earlier, last]
    rfl

/-- No record ID comes twice in a scan. -/
theorem Scanned.distinct {link after : Link ε} {maxEntries : Nat} {entries : List EntryInfo} {info : SelInfo}
    (scanned : Scanned link maxEntries entries info after) : (entries.map (·.entry.recordId)).Nodup := by
  obtain ⟨mid, traversed, -⟩ := scanned.between
  have walked := SelIter.walked link maxEntries none entries.length
  have distinct := walked.distinct
  rw [walked.seen, List.nodup_reverse] at distinct
  have same : (SelIter.fresh link maxEntries none).entries entries.length = entries := traversed.yielded.entries
  rwa [same] at distinct

/-- A batch is the difference between two scans: the old records without the
missing ones and overridden with the batch's entries are the new ones; the
entries are those that are new or differ, in the order they were read; and the
missing IDs are those no longer there. -/
structure Difference (before after : List EntryInfo) (batch : SelPollBatch) : Prop where
  patched : KeyedDiff.patch (·.entry.recordId) EntryInfo.raw (recordMap before) batch.entries
    batch.missingIds = recordMap after
  changed : ∀ entry, entry ∈ batch.entries ↔
    entry ∈ after ∧ recordMap before entry.entry.recordId ≠ some entry.raw
  missing : ∀ id, id ∈ batch.missingIds ↔ recordMap before id ≠ none ∧ recordMap after id = none
  order : batch.entries.Sublist after

theorem difference_sound {previous current : List EntryInfo} (before info : SelInfo)
    (distinct : (current.map (·.entry.recordId)).Nodup) :
    Difference previous current (difference previous before current info) where
  patched := KeyedDiff.patch_changed_missing distinct
  changed _ := KeyedDiff.mem_changed
  missing id := by
    unfold recordMap
    rw [ne_eq, KeyedDiff.toMap_eq_none, KeyedDiff.toMap_eq_none, not_not]
    exact KeyedDiff.mem_missing
  order := List.filter_sublist

/-- The records known after the batches of some polls, each applied to the
records known before it. -/
def applyBatches (records : RecordId → Option (List UInt8)) (batches : List SelPollBatch) :
    RecordId → Option (List UInt8) :=
  batches.foldl (fun known batch =>
    KeyedDiff.patch (·.entry.recordId) EntryInfo.raw known batch.entries batch.missingIds) records

abbrev PollMove (ε : Type) :=
  Runs.Move (SelPoller ε) Watch (Except (EventPollError ε) SelPollBatch)

/-- What one poll reports and leaves behind: the difference between the last
scan and a whole traversal of the log, or why there was none. -/
def Reports (poll : PollMove ε) : Prop :=
  match poll.out with
  | .ok batch => ∃ current info,
      Scanned poll.before.link poll.before.maxEntries current info poll.after.link ∧
      poll.after = { poll.before with link := poll.after.link, previous := current, info } ∧
      Difference poll.before.previous current batch
  | .error error => ScanFails poll.before.link poll.before.maxEntries poll.op error ∧
      poll.after = { poll.before with link := poll.after.link }

theorem pollOnce_reports (s : SelPoller ε) (watch : Watch) : Reports (Runs.move pollOnce s watch) := by
  unfold Reports Runs.move
  dsimp only
  unfold pollOnce
  rcases scan_traverses s.link s.maxEntries watch with
    ⟨error, link, failed, why⟩ | ⟨entries, info, link, done, scanned⟩
  · rw [failed]
    exact ⟨why, rfl⟩
  · rw [done]
    exact ⟨entries, info, scanned, rfl, difference_sound _ _ scanned.distinct⟩

/-! ### A log that stays as it is -/

/-- A log that stays as it is while it is polled: it reports how many records it
has, there is room for them and for what their cancelled reservations cost, and
nothing interrupts. -/
structure Stable (s : SelPoller ε) (watch : Watch) (log : StableLog) : Prop where
  serves : ∃ cancels grant, log.Serves cancels grant s.link.sent s.link.reply ∧ log.Cancels cancels ∧
    ∑ k ∈ Finset.range log.records.length, (cancels k + 1) ≤ min (4 * s.maxEntries + 4) 65536
  counted : ∀ history data info, getSelInfo.request.Answered
    (s.link.reply (s.link.sent ++ history ++ [getSelInfo.request])) 0 data →
    SelInfo.fromData data = some info → info.entries.toNat = log.records.length
  named : ∀ record ∈ log.records, record.NamesChannel
  room : log.records.length ≤ s.maxEntries
  quiet : ∀ look, watch.finds look = none

section stable
variable {s : SelPoller ε} {watch : Watch} {log : StableLog}

/-- A traversal of such a log comes to all its records. -/
theorem Stable.traversed (stable : Stable s watch log) {entries : List EntryInfo}
    (yielded : Yields (.new s.link s.maxEntries) entries)
    (stopped : ∀ entry, (SelIter.new s.link s.maxEntries).item entries.length ≠ some (.ok entry)) :
    entries.map (·.raw) = log.records.map (·.bytes) ∧
      (SelIter.new s.link s.maxEntries).item entries.length = none := by
  obtain ⟨cancels, grant, serves, patience, affordable⟩ := stable.serves
  have quiet : Quiet none := by simp [Quiet]
  obtain ⟨held, past⟩ := SelIter.items_served serves patience stable.named stable.room quiet affordable
  have whole : entries.length = log.records.length := by
    rcases Nat.lt_trichotomy entries.length log.records.length with short | same | long
    · obtain ⟨entry, -, found⟩ := held entries.length _ (List.getElem?_eq_getElem short)
      exact absurd found (stopped _)
    · exact same
    · have found := yielded log.records.length _ (List.getElem?_eq_getElem long)
      exact absurd (found.symm.trans (past _ (Nat.le_refl _))) (by simp)
  refine ⟨List.ext_getElem? fun k => ?_, whole ▸ past _ (Nat.le_refl _)⟩
  rw [List.getElem?_map, List.getElem?_map]
  cases stored : log.records[k]? with
  | none =>
    rw [List.getElem?_eq_none_iff, ← whole] at stored
    rw [List.getElem?_eq_none stored]
    rfl
  | some record =>
    obtain ⟨within, -⟩ := List.getElem?_eq_some_iff.mp stored
    rw [← whole] at within
    obtain ⟨entry, -, found⟩ := held k record stored
    have same := (yielded k _ (List.getElem?_eq_getElem within)).symm.trans found
    rw [List.getElem?_eq_getElem within, Except.ok.inj (Option.some.inj same)]
    rfl

/-- After the traversal, the log reports as many records as were read. -/
theorem Stable.told (stable : Stable s watch log) {entries : List EntryInfo} {after : Link ε}
    (traversed : Traversed s.link s.maxEntries entries after) :
    ∃ info, (after.sendRecv getSelInfo).1 = .ok info ∧ info.entries.toNat = entries.length := by
  obtain ⟨raw, -⟩ := stable.traversed traversed.yielded (by simp [traversed.ended])
  obtain ⟨cancels, grant, serves, -⟩ := stable.serves
  obtain ⟨reply, sent⟩ := (SelIter.walked s.link s.maxEntries none (entries.length + 1)).spends.extends
  obtain ⟨history, sent⟩ := sent
  obtain ⟨data, info, answered, parsed, -⟩ := serves.info history
  have counted := stable.counted history data info answered parsed
  have read : getSelInfo.parse data = .ok info := by
    simp only [getSelInfo, parsed, Option.elim_some]
  refine ⟨info, ?_, ?_⟩
  · rw [Link.sendRecv_result, traversed.left]
    change getSelInfo.readReply (((SelIter.fresh s.link s.maxEntries none).after (entries.length + 1)).link.reply
      (((SelIter.fresh s.link s.maxEntries none).after (entries.length + 1)).link.sent ++ [getSelInfo.request])) = _
    rw [reply, ← sent]
    exact IpmiCommand.readReply_answered answered read
  · rw [counted, ← List.length_map, ← raw, List.length_map]

/-- A poll of such a log succeeds, and leaves the log's records for the next one. -/
theorem Stable.polled (stable : Stable s watch log) :
    ∃ batch, (pollOnce s watch).1 = .ok batch ∧
      (pollOnce s watch).2.previous.map (·.raw) = log.records.map (·.bytes) := by
  unfold pollOnce
  rcases scan_traverses s.link s.maxEntries watch with
    ⟨error, link, -, why⟩ | ⟨entries, info, link, done, scanned⟩
  · exfalso
    cases why with
    | cancelled look found | deadlineExpired look found =>
      rw [stable.quiet look] at found
      cases found
    | traverse entries error yielded failed =>
      obtain ⟨-, ended⟩ := stable.traversed yielded (by simp [failed])
      rw [failed] at ended
      cases ended
    | info entries after error traversed refused =>
      obtain ⟨info, told, -⟩ := stable.told traversed
      rw [refused] at told
      cases told
    | unstableScan entries after info traversed told differs =>
      obtain ⟨other, again, counted⟩ := stable.told traversed
      rw [told] at again
      cases again
      exact differs counted
  · obtain ⟨mid, traversed, -⟩ := scanned.between
    rw [done]
    exact ⟨_, rfl, (stable.traversed traversed.yielded (by simp [traversed.ended])).1⟩

end stable

/-- In every sequence of polls, whatever the log answers: a batch is the exact
difference between the last successful scan and a whole traversal of the log, in
its order; a failure, which has its reason, leaves the last successful scan in
place; the batches together lead from the first scan to the last; and a poll of
a log that stays as it is succeeds. -/
theorem batches_report_the_difference (s : SelPoller ε) (polls : List Watch) :
    (∀ poll ∈ Runs.moves pollOnce s polls, Reports poll) ∧
    applyBatches (recordMap s.previous)
        ((Runs.moves pollOnce s polls).filterMap fun poll => poll.out.toOption) =
      recordMap (Runs.after pollOnce s polls).previous ∧
    ∀ watch log, Stable (Runs.after pollOnce s polls) watch log →
      ∃ batch, (pollOnce (Runs.after pollOnce s polls) watch).1 = .ok batch ∧
        (pollOnce (Runs.after pollOnce s polls) watch).2.previous.map (·.raw) = log.records.map (·.bytes) := by
  refine ⟨?_, ?_, fun watch log stable => stable.polled⟩
  · intro poll held
    obtain ⟨earlier, watch, later, -, rfl⟩ := Runs.split_at_move pollOnce s held
    exact pollOnce_reports _ watch
  · induction polls generalizing s with
    | nil => rfl
    | cons watch polls ih =>
      have reports := pollOnce_reports s watch
      rw [Runs.moves_cons, Runs.after_cons, ← ih, List.filterMap_cons]
      unfold Reports at reports
      simp only [Runs.move_out, Runs.move_after, Runs.move_before] at reports ⊢
      generalize pollOnce s watch = result at reports ⊢
      obtain ⟨error | batch, after⟩ := result
      · obtain ⟨-, same⟩ := reports
        dsimp only at same
        rw [same]
        rfl
      · obtain ⟨current, info, -, now, difference⟩ := reports
        dsimp only at now
        simp only [Except.toOption, applyBatches, List.foldl_cons]
        rw [difference.patched, now]

/-- A log of two records, whose reservations are cancelled three times, is polled
for the first time. -/
theorem batches_report_the_difference_two :
    let grant : List Request → NonZeroU16 := fun _ => ⟨0x1234, by decide⟩
    let link : Link Unit := ⟨SelIter.twoRecords.answer (fun k => min (k + 1) 2) grant, []⟩
    let s : SelPoller Unit := ⟨link, 2, [], ⟨1, 5, 0, 0xFFFF, 0, 0, false, [.reserve]⟩⟩
    ∃ batch, (pollOnce s ⟨fun _ => none, 0⟩).1 = .ok batch ∧
      (pollOnce s ⟨fun _ => none, 0⟩).2.previous.map (·.raw) = SelIter.twoRecords.records.map (·.bytes) := by
  intro grant link s
  refine (batches_report_the_difference s []).2.2 ⟨fun _ => none, 0⟩ SelIter.twoRecords ?_
  refine ⟨⟨fun k => min (k + 1) 2, grant, StableLog.serves_answer _ _ _, ?_, by decide⟩, ?_, ?_, by decide, fun _ => rfl⟩
  · exact ⟨fun k => Nat.min_le_right _ _, fun unreserved => absurd unreserved (by decide)⟩
  · intro history data info answered parsed
    obtain ⟨response, replied, -, -, -, rfl⟩ := answered
    have same := (StableLog.answer_info SelIter.twoRecords _ grant history).symm.trans replied
    obtain rfl := Except.ok.inj same
    obtain rfl := Option.some.inj parsed
    rfl
  · exact SelIter.twoRecords_named

end SelPoller
end IpmiRs.Storage.Sel
