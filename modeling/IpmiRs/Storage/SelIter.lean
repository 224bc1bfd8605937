import IpmiRs.Storage.SelRecord

/-! `SelIter` of `sel.rs`: a traversal that follows the pointers of the log, one
new record a call, starting over when records vanish under it. -/
namespace IpmiRs.Storage.Sel
open Connection App

inductive SelIterError (ε : Type) where
  | info (error : IpmiError ε NotEnoughData)
  | reservation (error : IpmiError ε NotEnoughData)
  | entry (error : IpmiError ε ParseEntryError)
  | entryLimit (maxEntries : Nat)
  | readLimit
  | invalidRecordId (id : RecordId)
  | recordChanged (requested received : RecordId)
  | recordCycle (id : RecordId)
  | cancelled
  | deadlineExpired
  deriving DecidableEq

inductive Interruption where
  | cancelled
  | deadlineExpired
  deriving DecidableEq

/-- A deadline and a cancellation token: what each look at them finds, and how
many looks there were. -/
structure Watch where
  finds : Nat → Option Interruption
  looks : Nat

def Watch.look (watch : Watch) : Option Interruption × Watch :=
  (watch.finds watch.looks, { watch with looks := watch.looks + 1 })

/-- The iterator, with the connection it holds. Both sets of visited IDs are
lists. -/
structure SelIter (ε : Type) where
  link : Link ε
  nextId : Option RecordId
  reservation : Option NonZeroU16
  hasReservation : Bool
  seen : List RecordId
  scanned : List RecordId
  maxEntries : Nat
  remainingReads : Nat
  restarts : Nat
  finished : Bool
  budget : Option Watch

def Interruption.toError {ε : Type} : Interruption → SelIterError ε
  | .cancelled => .cancelled
  | .deadlineExpired => .deadlineExpired

/-- A read failed because its reservation was lost. -/
def reservationCancelled {ε α β : Type} : Except (IpmiError ε β) α → Bool
  | .error (.failed _ _ .reservationCancelledOrInvalidId _) => true
  | _ => false

/-- A read failed because its record is gone. -/
def notPresent {ε : Type} : SelIterError ε → Bool
  | .entry (.failed _ _ .requestedDatapointNotPresent _) => true
  | _ => false

/-- What a turn of the loop of `next` comes to. -/
inductive Turn (ε : Type) where
  | returned (item : Option (Except (SelIterError ε) EntryInfo))
  | again
  deriving DecidableEq

namespace SelIter
variable {ε : Type}

def new (link : Link ε) (maxEntries : Nat) : SelIter ε where
  link
  nextId := none
  reservation := none
  hasReservation := false
  seen := []
  scanned := []
  maxEntries
  remainingReads := min (maxEntries * 4 + 4) 65536
  restarts := 0
  finished := false
  budget := none

def newBounded (link : Link ε) (maxEntries : Nat) (watch : Watch) : SelIter ε :=
  { new link maxEntries with budget := some watch }

def checkBudget (s : SelIter ε) : Except (SelIterError ε) Unit × SelIter ε :=
  match s.budget with
  | none => (.ok (), s)
  | some watch =>
    let s := { s with budget := some watch.look.2 }
    match watch.look.1 with
    | some interruption => (.error interruption.toError, s)
    | none => (.ok (), s)

/-- Send one command, with a look at the budget before and after. -/
def send {α β : Type} (s : SelIter ε) (command : IpmiCommand α β) :
    Except (SelIterError ε) (Except (IpmiError ε β) α) × SelIter ε :=
  match s.checkBudget with
  | (.error error, s) => (.error error, s)
  | (.ok (), s) =>
    let result := s.link.sendRecv command
    match { s with link := result.2 }.checkBudget with
    | (.error error, s) => (.error error, s)
    | (.ok (), s) => (.ok result.1, s)

def fail (s : SelIter ε) (error : SelIterError ε) : Turn ε × SelIter ε :=
  (.returned (some (.error error)), { s with finished := true })

def reserve (s : SelIter ε) : Except (SelIterError ε) Unit × SelIter ε :=
  match s.send reserveSel with
  | (.error error, s) => (.error error, s)
  | (.ok (.error error), s) => (.error (.reservation error), s)
  | (.ok (.ok reservation), s) => (.ok (), { s with reservation := some reservation })

def info (s : SelIter ε) : Except (SelIterError ε) SelInfo × SelIter ε :=
  match s.send getSelInfo with
  | (.error error, s) => (.error error, s)
  | (.ok (.error error), s) => (.error (.info error), s)
  | (.ok (.ok info), s) => (.ok info, s)

/-- The attempts of `read`; `left` more may follow this one. -/
def readAttempts (id : RecordId) :
    Nat → SelIter ε → Except (SelIterError ε) EntryInfo × SelIter ε
  | left, s =>
    if s.remainingReads = 0 then (.error .readLimit, s)
    else
      let s := { s with remainingReads := s.remainingReads - 1 }
      match s.send (getSelEntry s.reservation id) with
      | (.error error, s) => (.error error, s)
      | (.ok result, s) =>
        if reservationCancelled result && s.hasReservation then
          match left with
          | 0 => (result.mapError .entry, s)
          | left + 1 =>
            match s.reserve with
            | (.error error, s) => (.error error, s)
            | (.ok (), s) => readAttempts id left s
        else (result.mapError .entry, s)

def read (s : SelIter ε) (id : RecordId) : Except (SelIterError ε) EntryInfo × SelIter ε :=
  readAttempts id 2 s

/-- Note whether the log can be reserved, and reserve it if so. Only a restart
forgets an earlier reservation. -/
def takeReservation (s : SelIter ε) (info : SelInfo) (forget : Bool) :
    Except (SelIterError ε) Unit × SelIter ε :=
  let s := { s with hasReservation := info.supportedCmds.contains .reserve }
  if s.hasReservation then s.reserve
  else (.ok (), if forget then { s with reservation := none } else s)

/-- The part of `next` before its loop: the item the call ends with, if it does. -/
def start (s : SelIter ε) : Turn ε × SelIter ε :=
  if s.nextId.isSome then (.again, s)
  else
    match s.info with
    | (.error error, s) => s.fail error
    | (.ok info, s) =>
      if info.entries = 0 then (.returned none, { s with finished := true })
      else
        match s.takeReservation info false with
        | (.error error, s) => s.fail error
        | (.ok (), s) => (.again, { s with nextId := some .FIRST })

/-- The branch of the loop for a record that is gone. -/
def restart (s : SelIter ε) (id : RecordId) (error : SelIterError ε) : Turn ε × SelIter ε :=
  match s.info with
  | (.error error, s) => s.fail error
  | (.ok info, s) =>
    if info.entries = 0 then (.returned none, { s with finished := true })
    else if id.isFirst || 2 ≤ s.restarts then s.fail error
    else
      match { s with restarts := s.restarts + 1 }.takeReservation info true with
      | (.error error, s) => s.fail error
      | (.ok (), s) => (.again, { s with nextId := some .FIRST, scanned := [] })

/-- The branch of the loop for a record that was read. -/
def accept (s : SelIter ε) (id : RecordId) (entry : EntryInfo) : Turn ε × SelIter ε :=
  let received := entry.entry.recordId
  if received.isFirst || received.isLast then s.fail (.invalidRecordId received)
  else if !id.isFirst && received != id then s.fail (.recordChanged id received)
  else if entry.nextEntry.isFirst then s.fail (.invalidRecordId entry.nextEntry)
  else if entry.nextEntry == received then s.fail (.recordCycle received)
  else if s.scanned.contains received then s.fail (.recordCycle received)
  else
    let s := { s with scanned := received :: s.scanned, nextId := some entry.nextEntry }
    if s.seen.contains received then (.again, s)
    else (.returned (some (.ok entry)), { s with seen := received :: s.seen })

/-- One turn of the loop of `next`. -/
def turn (s : SelIter ε) : Turn ε × SelIter ε :=
  let id := s.nextId.getD .FIRST
  if id.isLast then (.returned none, { s with finished := true })
  else if s.maxEntries ≤ s.seen.length then s.fail (.entryLimit s.maxEntries)
  else if !id.isFirst && s.scanned.contains id then s.fail (.recordCycle id)
  else
    match s.read id with
    | (.error error, s) => if notPresent error then s.restart id error else s.fail error
    | (.ok entry, s) => s.accept id entry

/-! ### Every turn that does not return has read -/

/-- A request for a record of the log. -/
def isGetSelEntry (request : Request) : Bool := request.netfn = .storage && request.cmd = 0x43

/-- More was sent, and each record asked for is paid for. -/
structure Spends (s s' : SelIter ε) : Prop where
  requests : ∃ more, s'.link = { s.link with sent := s.link.sent ++ more } ∧
    more.countP isGetSelEntry + s'.remainingReads ≤ s.remainingReads
  maxEntries : s'.maxEntries = s.maxEntries

/-- Asking moves nothing: where the traversal is stays as it was. -/
structure Frame (s s' : SelIter ε) : Prop extends Spends s s' where
  nextId : s'.nextId = s.nextId
  seen : s'.seen = s.seen
  finished : s'.finished = s.finished

section frames
variable {s s' s'' : SelIter ε}

theorem Spends.refl (s : SelIter ε) : Spends s s := ⟨⟨[], by simp, by simp⟩, rfl⟩

theorem Spends.trans (first : Spends s s') (second : Spends s' s'') : Spends s s'' := by
  obtain ⟨early, sentEarly, paidEarly⟩ := first.requests
  obtain ⟨late, sentLate, paidLate⟩ := second.requests
  refine ⟨⟨early ++ late, ?_, ?_⟩, second.maxEntries.trans first.maxEntries⟩
  · rw [sentLate, sentEarly, List.append_assoc]
  · rw [List.countP_append]
    omega

theorem Spends.remainingReads (spends : Spends s s') : s'.remainingReads ≤ s.remainingReads := by
  obtain ⟨more, -, paid⟩ := spends.requests
  omega

theorem Spends.extends (spends : Spends s s') : s.link.Extends s'.link := by
  obtain ⟨more, sent, -⟩ := spends.requests
  rw [sent]
  exact ⟨rfl, List.prefix_append _ _⟩

theorem Frame.refl (s : SelIter ε) : Frame s s := ⟨.refl s, rfl, rfl, rfl⟩

theorem Frame.trans (first : Frame s s') (second : Frame s' s'') : Frame s s'' :=
  ⟨first.toSpends.trans second.toSpends, second.nextId.trans first.nextId,
    second.seen.trans first.seen, second.finished.trans first.finished⟩

end frames

theorem checkBudget_shape (s : SelIter ε) : ∃ budget, s.checkBudget.2 = { s with budget } := by
  unfold checkBudget
  split
  · exact ⟨s.budget, rfl⟩
  · rename_i watch _
    simp only
    split <;> exact ⟨some watch.look.2, rfl⟩

/-- Sending changes the connection and the budget, and nothing else. A result
is that of the one command sent. -/
theorem send_shape {α β : Type} (s : SelIter ε) (command : IpmiCommand α β) :
    ∃ link budget, (s.send command).2 = { s with link, budget } ∧
      (link = s.link ∨ link = (s.link.sendRecv command).2) ∧
      ∀ result, (s.send command).1 = .ok result →
        link = (s.link.sendRecv command).2 ∧ result = (s.link.sendRecv command).1 := by
  unfold send
  obtain ⟨first, same⟩ := s.checkBudget_shape
  generalize s.checkBudget = before at *
  obtain ⟨verdict, middle⟩ := before
  simp only at same
  subst same
  cases verdict with
  | error error => exact ⟨s.link, first, rfl, .inl rfl, by simp⟩
  | ok =>
    simp only
    obtain ⟨second, same⟩ := checkBudget_shape
      { s with link := (s.link.sendRecv command).2, budget := first }
    generalize checkBudget _ = after at *
    obtain ⟨verdict, last⟩ := after
    simp only at same
    subst same
    cases verdict <;> exact ⟨_, second, rfl, .inr rfl, by simp⟩

theorem frame_send {α β : Type} (s : SelIter ε) (command : IpmiCommand α β)
    (other : isGetSelEntry command.request = false) : Frame s (s.send command).2 := by
  obtain ⟨link, budget, same, sent, -⟩ := s.send_shape command
  rw [same]
  refine ⟨⟨?_, rfl⟩, rfl, rfl, rfl⟩
  rcases sent with rfl | rfl
  · exact ⟨[], by simp, by simp⟩
  · exact ⟨[command.request], Link.sendRecv_link _ _, by simp [other]⟩

theorem frame_reserve (s : SelIter ε) : Frame s s.reserve.2 := by
  have frame := s.frame_send reserveSel rfl
  unfold reserve
  generalize s.send reserveSel = sent at *
  obtain ⟨error | error | reservation, s'⟩ := sent
  · exact frame
  · exact frame
  · exact ⟨⟨frame.requests, frame.maxEntries⟩, frame.nextId, frame.seen, frame.finished⟩

theorem frame_info (s : SelIter ε) : Frame s s.info.2 := by
  have frame := s.frame_send getSelInfo rfl
  unfold info
  generalize s.send getSelInfo = sent at *
  obtain ⟨error | error | info, s'⟩ := sent <;> exact frame

/-- One attempt to read a record is paid for. -/
theorem frame_attempt (s : SelIter ε) (id : RecordId) (left : 0 < s.remainingReads) :
    let s' := { s with remainingReads := s.remainingReads - 1 }
    Frame s (s'.send (getSelEntry s'.reservation id)).2 ∧
      (s'.send (getSelEntry s'.reservation id)).2.remainingReads < s.remainingReads := by
  intro s'
  obtain ⟨link, budget, same, sent, -⟩ := s'.send_shape (getSelEntry s'.reservation id)
  rw [same]
  refine ⟨⟨⟨?_, rfl⟩, rfl, rfl, rfl⟩, Nat.sub_lt left Nat.one_pos⟩
  rcases sent with rfl | rfl
  · exact ⟨[], by simp [s'], by simp [s']⟩
  · have counted : isGetSelEntry (getSelEntry s.reservation id).request = true := rfl
    refine ⟨[(getSelEntry s.reservation id).request], Link.sendRecv_link _ _, ?_⟩
    simp only [List.countP_singleton, counted, ↓reduceIte, s']
    omega

/-- Reading keeps the traversal where it is, and uses up a read if there is one. -/
theorem frame_readAttempts (id : RecordId) (attempts : Nat) (s : SelIter ε) :
    Frame s (readAttempts id attempts s).2 ∧
      (0 < s.remainingReads → (readAttempts id attempts s).2.remainingReads < s.remainingReads) := by
  induction attempts generalizing s with
  | zero =>
    unfold readAttempts
    by_cases none : s.remainingReads = 0
    · rw [if_pos none]
      exact ⟨.refl s, fun left => absurd none (Nat.ne_of_gt left)⟩
    · rw [if_neg none]
      have ⟨frame, fewer⟩ := s.frame_attempt id (Nat.pos_of_ne_zero none)
      simp only at frame fewer ⊢
      generalize send _ _ = sent at *
      obtain ⟨error | result, s'⟩ := sent
      · exact ⟨frame, fun _ => fewer⟩
      · simp only
        split <;> exact ⟨frame, fun _ => fewer⟩
  | succ attempts ih =>
    unfold readAttempts
    by_cases none : s.remainingReads = 0
    · rw [if_pos none]
      exact ⟨.refl s, fun left => absurd none (Nat.ne_of_gt left)⟩
    · rw [if_neg none]
      have ⟨frame, fewer⟩ := s.frame_attempt id (Nat.pos_of_ne_zero none)
      simp only at frame fewer ⊢
      generalize send _ _ = sent at *
      obtain ⟨error | result, s'⟩ := sent
      · exact ⟨frame, fun _ => fewer⟩
      · simp only at frame fewer ⊢
        split
        · have reserved := s'.frame_reserve
          generalize s'.reserve = renewed at *
          obtain ⟨error | ⟨⟩, s''⟩ := renewed
          · exact ⟨frame.trans reserved, fun _ => Nat.lt_of_le_of_lt reserved.remainingReads fewer⟩
          · obtain ⟨again, -⟩ := ih s''
            have whole := reserved.trans again
            exact ⟨frame.trans whole, fun _ => Nat.lt_of_le_of_lt whole.remainingReads fewer⟩
        · exact ⟨frame, fun _ => fewer⟩

theorem frame_takeReservation (s : SelIter ε) (info : SelInfo) (forget : Bool) :
    Frame s (s.takeReservation info forget).2 := by
  unfold takeReservation
  simp only
  split
  · obtain ⟨⟨requests, maxEntries⟩, nextId, seen, finished⟩ :=
      frame_reserve { s with hasReservation := info.supportedCmds.contains .reserve }
    exact ⟨⟨requests, maxEntries⟩, nextId, seen, finished⟩
  · cases forget <;> exact ⟨⟨⟨[], by simp, by simp⟩, rfl⟩, rfl, rfl, rfl⟩

/-- A turn that does not return has used up a read. -/
theorem turn_again {s s' : SelIter ε} (turned : s.turn = (.again, s')) :
    s'.remainingReads < s.remainingReads := by
  unfold turn at turned
  simp only at turned
  split at turned
  · cases turned
  split at turned
  · cases turned
  split at turned
  · cases turned
  have ⟨frame, fewer⟩ := frame_readAttempts (s.nextId.getD .FIRST) 2 s
  by_cases left : s.remainingReads = 0
  · have refused : s.read (s.nextId.getD .FIRST) = (.error .readLimit, s) := by
      rw [read, readAttempts, if_pos left]
    rw [refused] at turned
    cases turned
  replace fewer := fewer (Nat.pos_of_ne_zero left)
  unfold read at turned
  generalize readAttempts _ _ s = outcome at *
  obtain ⟨error | entry, middle⟩ := outcome
  · simp only at turned fewer
    split at turned
    · unfold restart at turned
      have asked := middle.frame_info
      generalize middle.info = told at *
      obtain ⟨error | info, asking⟩ := told
      · cases turned
      simp only at turned asked
      split at turned
      · cases turned
      split at turned
      · cases turned
      have reserved := frame_takeReservation { asking with restarts := asking.restarts + 1 } info true
      generalize takeReservation _ info true = renewed at *
      obtain ⟨error | ⟨⟩, renewing⟩ := renewed
      · cases turned
      cases turned
      exact Nat.lt_of_le_of_lt reserved.remainingReads
        (Nat.lt_of_le_of_lt asked.remainingReads fewer)
    · cases turned
  · unfold accept at turned
    simp only at turned fewer
    repeat' split at turned
    all_goals cases turned
    exact fewer

/-- The loop of `next`. It ends because every turn uses up a read. -/
def loop (s : SelIter ε) : Option (Except (SelIterError ε) EntryInfo) × SelIter ε :=
  match _turned : s.turn with
  | (.returned item, s') => (item, s')
  | (.again, s') => loop s'
termination_by s.remainingReads
decreasing_by exact turn_again _turned

theorem loop_eq (s : SelIter ε) :
    s.loop = match s.turn with
      | (.returned item, s') => (item, s')
      | (.again, s') => s'.loop := by
  rw [loop]
  split <;> simp_all

def next (s : SelIter ε) : Option (Except (SelIterError ε) EntryInfo) × SelIter ε :=
  if s.finished then (none, s)
  else
    match s.start with
    | (.returned item, s) => (item, s)
    | (.again, s) => s.loop

/-- The iterator after a number of calls. -/
def after (s : SelIter ε) : Nat → SelIter ε
  | 0 => s
  | calls + 1 => (s.after calls).next.2

/-- What a call returns, after a number of earlier ones. -/
def item (s : SelIter ε) (calls : Nat) : Option (Except (SelIterError ε) EntryInfo) :=
  (s.after calls).next.1

/-- The entries yielded by a number of calls, in order. -/
def entries (s : SelIter ε) (calls : Nat) : List EntryInfo :=
  (List.range calls).filterMap fun call => (s.item call).bind Except.toOption

end SelIter
end IpmiRs.Storage.Sel
