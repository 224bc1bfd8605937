import IpmiRs.Storage.SelTraversal

/-! A traversal with a deadline or a cancellation token does what the one
without does, until a look at them interrupts it. -/
namespace IpmiRs.Storage.Sel
open Connection App

namespace SelIter
variable {ε : Type}

/-- The same traversal without a budget. -/
def unbounded (s : SelIter ε) : SelIter ε := { s with budget := none }

/-- The budget looks as `finds` says. -/
def Watched (finds : Nat → Option Interruption) (s : SelIter ε) : Prop :=
  ∃ looks, s.budget = some ⟨finds, looks⟩

/-- What a part of a bounded traversal comes to, beside the same part of the one
without a budget: the same, or `stopped` by an interruption that a look found. -/
structure Agrees {β : Type} (stopped : Interruption → β) (finds : Nat → Option Interruption)
    (bounded plain : β × SelIter ε) : Prop where
  watched : Watched finds bounded.2
  same : (plain = (bounded.1, bounded.2.unbounded) ∧ ∀ interruption, bounded.1 ≠ stopped interruption) ∨
    ∃ interruption look, finds look = some interruption ∧ bounded.1 = stopped interruption

/-- An interruption as the error of a command, and as the end of a turn. -/
def stoppedCall {α : Type} (interruption : Interruption) : Except (SelIterError ε) α :=
  .error interruption.toError

def stoppedTurn (interruption : Interruption) : Turn ε :=
  .returned (some (.error interruption.toError))

variable {finds : Nat → Option Interruption} {s : SelIter ε}

/-- What looks at no budget agrees. -/
theorem Agrees.pure {β : Type} {stopped : Interruption → β} (value : β) (watched : Watched finds s)
    (clean : ∀ interruption, value ≠ stopped interruption) :
    Agrees stopped finds (value, s) (value, s.unbounded) := ⟨watched, .inl ⟨rfl, clean⟩⟩

/-- One part after another: what follows an interruption passes it on. -/
theorem Agrees.bind {β γ : Type} {first : Interruption → β} {second : Interruption → γ}
    {bounded plain : β × SelIter ε} {f : β × SelIter ε → γ × SelIter ε}
    (agrees : Agrees first finds bounded plain)
    (next : ∀ value t, Watched finds t → (∀ interruption, value ≠ first interruption) →
      Agrees second finds (f (value, t)) (f (value, t.unbounded)))
    (passed : ∀ interruption t, Watched finds t →
      Watched finds (f (first interruption, t)).2 ∧ (f (first interruption, t)).1 = second interruption) :
    Agrees second finds (f bounded) (f plain) := by
  obtain ⟨value, t⟩ := bounded
  rcases agrees.same with ⟨rfl, clean⟩ | ⟨interruption, look, found, rfl⟩
  · exact next value t agrees.watched clean
  · obtain ⟨watched, stops⟩ := passed interruption t agrees.watched
    exact ⟨watched, .inr ⟨interruption, look, found, stops⟩⟩

/-- An error that is not passed on as an interruption is none. -/
theorem ne_toError {α : Type} {error : SelIterError ε}
    (clean : ∀ interruption, (.error error : Except (SelIterError ε) α) ≠ stoppedCall interruption)
    (interruption : Interruption) : error ≠ interruption.toError := by
  rintro rfl
  exact clean interruption rfl

/-- An error that is passed on. -/
theorem Agrees.error {α γ : Type} {error : SelIterError ε} (watched : Watched finds s)
    (clean : ∀ interruption, (.error error : Except (SelIterError ε) α) ≠ stoppedCall interruption) :
    Agrees stoppedCall finds ((.error error : Except (SelIterError ε) γ), s) (.error error, s.unbounded) := by
  refine .pure _ watched ?_
  rintro interruption ⟨⟩
  exact ne_toError clean interruption rfl

theorem checkBudget_agrees (watched : Watched finds s) :
    Agrees stoppedCall finds s.checkBudget s.unbounded.checkBudget := by
  obtain ⟨looks, budget⟩ := watched
  have plain : s.unbounded.checkBudget = (.ok (), s.unbounded) := rfl
  rw [plain]
  unfold checkBudget
  rw [budget]
  dsimp only [Watch.look]
  cases found : finds looks with
  | none => exact .pure _ ⟨_, rfl⟩ (by rintro (_ | _) ⟨⟩)
  | some interruption => exact ⟨⟨_, rfl⟩, .inr ⟨interruption, looks, found, rfl⟩⟩

theorem send_agrees {α β : Type} (command : IpmiCommand α β) (watched : Watched finds s) :
    Agrees stoppedCall finds (s.send command) (s.unbounded.send command) := by
  have first := checkBudget_agrees watched
  unfold send
  generalize s.checkBudget = bounded, s.unbounded.checkBudget = plain at first ⊢
  apply first.bind
  · rintro (error | ⟨⟩) t looked clean
    · exact .error looked clean
    have second : Agrees stoppedCall finds
        ({ t with link := (t.link.sendRecv command).2 } : SelIter ε).checkBudget
        ({ t.unbounded with link := (t.unbounded.link.sendRecv command).2 } : SelIter ε).checkBudget :=
      checkBudget_agrees (s := { t with link := (t.link.sendRecv command).2 }) looked
    dsimp only
    generalize checkBudget { t with link := _ } = bounded,
      checkBudget { t.unbounded with link := _ } = plain at second ⊢
    apply second.bind
    · rintro (error | ⟨⟩) u looked clean
      · exact .error looked clean
      · exact .pure _ looked (by rintro (_ | _) ⟨⟩)
    · exact fun _ _ looked => ⟨looked, rfl⟩
  · exact fun _ _ looked => ⟨looked, rfl⟩

theorem reserve_agrees (watched : Watched finds s) :
    Agrees stoppedCall finds s.reserve s.unbounded.reserve := by
  have sent := send_agrees reserveSel watched
  unfold reserve
  generalize s.send reserveSel = bounded, s.unbounded.send reserveSel = plain at sent ⊢
  apply sent.bind
  · rintro (error | error | reservation) t looked clean
    · exact .error looked clean
    · exact .pure _ looked (by rintro (_ | _) ⟨⟩)
    · exact .pure (s := { t with reservation := some reservation }) _ looked (by rintro (_ | _) ⟨⟩)
  · exact fun _ _ looked => ⟨looked, rfl⟩

theorem info_agrees (watched : Watched finds s) : Agrees stoppedCall finds s.info s.unbounded.info := by
  have sent := send_agrees getSelInfo watched
  unfold info
  generalize s.send getSelInfo = bounded, s.unbounded.send getSelInfo = plain at sent ⊢
  apply sent.bind
  · rintro (error | error | info) t looked clean
    · exact .error looked clean
    · exact .pure _ looked (by rintro (_ | _) ⟨⟩)
    · exact .pure _ looked (by rintro (_ | _) ⟨⟩)
  · exact fun _ _ looked => ⟨looked, rfl⟩

theorem readAttempts_agrees (id : RecordId) (attempts : Nat) (watched : Watched finds s) :
    Agrees stoppedCall finds (readAttempts id attempts s) (readAttempts id attempts s.unbounded) := by
  induction attempts generalizing s with
  | zero =>
    unfold readAttempts
    have left : s.unbounded.remainingReads = s.remainingReads := rfl
    rw [left]
    by_cases spent : s.remainingReads = 0
    · rw [if_pos spent, if_pos spent]
      exact .pure _ watched (by rintro (_ | _) ⟨⟩)
    rw [if_neg spent, if_neg spent]
    have asked := send_agrees (s := { s with remainingReads := s.remainingReads - 1 })
      (getSelEntry s.reservation id) watched
    dsimp only [unbounded] at asked ⊢
    generalize ({ s with remainingReads := s.remainingReads - 1 } : SelIter ε).send _ = bounded,
      ({ s with remainingReads := s.remainingReads - 1, budget := none } : SelIter ε).send _ = plain at asked ⊢
    apply asked.bind
    · rintro (error | result) t looked clean
      · exact .error looked clean
      · dsimp only [unbounded]
        have entry : ∀ interruption, result.mapError .entry ≠ stoppedCall interruption := by
          cases result <;> rintro (_ | _) ⟨⟩
        split
        · exact .pure _ looked entry
        · exact .pure _ looked entry
    · exact fun _ _ looked => ⟨looked, rfl⟩
  | succ attempts ih =>
    unfold readAttempts
    have left : s.unbounded.remainingReads = s.remainingReads := rfl
    rw [left]
    by_cases spent : s.remainingReads = 0
    · rw [if_pos spent, if_pos spent]
      exact .pure _ watched (by rintro (_ | _) ⟨⟩)
    rw [if_neg spent, if_neg spent]
    have asked := send_agrees (s := { s with remainingReads := s.remainingReads - 1 })
      (getSelEntry s.reservation id) watched
    dsimp only [unbounded] at asked ⊢
    generalize ({ s with remainingReads := s.remainingReads - 1 } : SelIter ε).send _ = bounded,
      ({ s with remainingReads := s.remainingReads - 1, budget := none } : SelIter ε).send _ = plain at asked ⊢
    apply asked.bind
    · rintro (error | result) t looked clean
      · exact .error looked clean
      · dsimp only
        have reserved : t.unbounded.hasReservation = t.hasReservation := rfl
        rw [reserved]
        split
        · have renewed := reserve_agrees looked
          generalize t.reserve = bounded, t.unbounded.reserve = plain at renewed ⊢
          apply renewed.bind
          · rintro (error | ⟨⟩) u looked clean
            · exact .error looked clean
            · exact ih looked
          · exact fun _ _ looked => ⟨looked, rfl⟩
        · exact .pure _ looked (by cases result <;> rintro (_ | _) ⟨⟩)
    · exact fun _ _ looked => ⟨looked, rfl⟩

theorem takeReservation_agrees (info : SelInfo) (forget : Bool) (watched : Watched finds s) :
    Agrees stoppedCall finds (s.takeReservation info forget) (s.unbounded.takeReservation info forget) := by
  unfold takeReservation
  dsimp only [unbounded]
  split
  · exact reserve_agrees (s := { s with hasReservation := info.supportedCmds.contains .reserve }) watched
  · cases forget with
    | true => exact .pure (s := { s with hasReservation := _, reservation := none }) _ watched (by rintro (_ | _) ⟨⟩)
    | false => exact .pure (s := { s with hasReservation := _ }) _ watched (by rintro (_ | _) ⟨⟩)

/-- A traversal that ends in an error. -/
theorem Agrees.fail (error : SelIterError ε) (watched : Watched finds s)
    (clean : ∀ interruption : Interruption, error ≠ interruption.toError) :
    Agrees stoppedTurn finds (s.fail error) (s.unbounded.fail error) :=
  .pure (s := { s with finished := true }) _ watched (by
    rintro interruption ⟨⟩
    exact clean interruption rfl)

theorem start_agrees (watched : Watched finds s) : Agrees stoppedTurn finds s.start s.unbounded.start := by
  unfold start
  have known : s.unbounded.nextId = s.nextId := rfl
  rw [known]
  split
  · exact .pure _ watched (by rintro (_ | _) ⟨⟩)
  have told := info_agrees watched
  generalize s.info = bounded, s.unbounded.info = plain at told ⊢
  apply told.bind
  · rintro (error | info) t looked clean
    · exact .fail error looked (ne_toError clean)
    dsimp only
    split
    · exact .pure (s := { t with finished := true }) _ looked (by rintro (_ | _) ⟨⟩)
    have taken := takeReservation_agrees info false looked
    generalize t.takeReservation info false = bounded, t.unbounded.takeReservation info false = plain at taken ⊢
    apply taken.bind
    · rintro (error | ⟨⟩) u looked clean
      · exact .fail error looked (ne_toError clean)
      · exact .pure (s := { u with nextId := some .FIRST }) _ looked (by rintro (_ | _) ⟨⟩)
    · exact fun _ _ looked => ⟨looked, rfl⟩
  · exact fun _ _ looked => ⟨looked, rfl⟩

theorem restart_agrees (id : RecordId) {error : SelIterError ε} (watched : Watched finds s)
    (own : ∀ interruption : Interruption, error ≠ interruption.toError) :
    Agrees stoppedTurn finds (s.restart id error) (s.unbounded.restart id error) := by
  unfold restart
  have told := info_agrees watched
  generalize s.info = bounded, s.unbounded.info = plain at told ⊢
  apply told.bind
  · rintro (error | info) t looked clean
    · exact .fail error looked (ne_toError clean)
    dsimp only
    split
    · exact .pure (s := { t with finished := true }) _ looked (by rintro (_ | _) ⟨⟩)
    have same : t.unbounded.restarts = t.restarts := rfl
    rw [same]
    split
    · exact .fail _ looked own
    have taken := takeReservation_agrees (s := { t with restarts := t.restarts + 1 }) info true looked
    dsimp only [unbounded] at taken ⊢
    generalize ({ t with restarts := t.restarts + 1 } : SelIter ε).takeReservation info true = bounded,
      ({ t with restarts := t.restarts + 1, budget := none } : SelIter ε).takeReservation info true = plain at taken ⊢
    apply taken.bind
    · rintro (error | ⟨⟩) u looked clean
      · exact .fail error looked (ne_toError clean)
      · exact .pure (s := { u with nextId := some .FIRST, scanned := [] }) _ looked (by rintro (_ | _) ⟨⟩)
    · exact fun _ _ looked => ⟨looked, rfl⟩
  · exact fun _ _ looked => ⟨looked, rfl⟩

theorem accept_agrees (id : RecordId) (entry : EntryInfo) (watched : Watched finds s) :
    Agrees stoppedTurn finds (s.accept id entry) (s.unbounded.accept id entry) := by
  unfold accept
  dsimp only
  have scanned : s.unbounded.scanned = s.scanned := rfl
  have seen : s.unbounded.seen = s.seen := rfl
  rw [scanned, seen]
  repeat' split
  all_goals first
    | exact .fail _ watched (by rintro (_ | _) ⟨⟩)
    | exact .pure (s := { s with scanned := _, nextId := _ }) _ watched (by rintro (_ | _) ⟨⟩)
    | exact .pure (s := { s with scanned := _, nextId := _, seen := _ }) _ watched (by rintro (_ | _) ⟨⟩)

theorem turn_agrees (watched : Watched finds s) : Agrees stoppedTurn finds s.turn s.unbounded.turn := by
  unfold turn
  have nextId : s.unbounded.nextId = s.nextId := rfl
  have scanned : s.unbounded.scanned = s.scanned := rfl
  have seen : s.unbounded.seen = s.seen := rfl
  have limit : s.unbounded.maxEntries = s.maxEntries := rfl
  rw [nextId, scanned, seen, limit]
  dsimp only
  split
  · exact .pure (s := { s with finished := true }) _ watched (by rintro (_ | _) ⟨⟩)
  split
  · exact .fail _ watched (by rintro (_ | _) ⟨⟩)
  split
  · exact .fail _ watched (by rintro (_ | _) ⟨⟩)
  have read := readAttempts_agrees (s.nextId.getD .FIRST) 2 watched
  unfold SelIter.read
  generalize readAttempts _ 2 s = bounded, readAttempts _ 2 s.unbounded = plain at read ⊢
  apply read.bind
  · rintro (error | entry) t looked clean
    · dsimp only
      split
      · exact restart_agrees _ looked (ne_toError clean)
      · exact .fail error looked (ne_toError clean)
    · exact accept_agrees _ entry looked
  · rintro (⟨⟩ | ⟨⟩) t looked <;> exact ⟨looked, rfl⟩

/-- An interruption as the end of a call. -/
def stoppedItem (interruption : Interruption) : Option (Except (SelIterError ε) EntryInfo) :=
  some (.error interruption.toError)

theorem loop_agrees (watched : Watched finds s) : Agrees stoppedItem finds s.loop s.unbounded.loop := by
  induction s using loop.induct with
  | case1 s item after turned =>
    have agrees := turn_agrees watched
    rw [s.loop_eq, s.unbounded.loop_eq]
    rw [turned] at agrees ⊢
    refine ⟨agrees.watched, ?_⟩
    rcases agrees.same with ⟨same, clean⟩ | ⟨interruption, look, found, stopped⟩
    · rw [same]
      refine .inl ⟨rfl, ?_⟩
      rintro interruption rfl
      exact clean interruption rfl
    · cases stopped
      exact .inr ⟨interruption, look, found, rfl⟩
  | case2 s after turned ih =>
    have agrees := turn_agrees watched
    rw [s.loop_eq, s.unbounded.loop_eq]
    rw [turned] at agrees ⊢
    rcases agrees.same with ⟨same, -⟩ | ⟨interruption, look, found, stopped⟩
    · rw [same]
      exact ih agrees.watched
    · cases stopped

theorem next_agrees (watched : Watched finds s) : Agrees stoppedItem finds s.next s.unbounded.next := by
  unfold next
  have finished : s.unbounded.finished = s.finished := rfl
  rw [finished]
  split
  · exact .pure _ watched (by rintro (_ | _) ⟨⟩)
  have begun := start_agrees watched
  generalize s.start = bounded, s.unbounded.start = plain at begun ⊢
  apply begun.bind
  · rintro (item | ⟨⟩) t looked clean
    · refine .pure _ looked ?_
      rintro interruption rfl
      exact clean interruption rfl
    · exact loop_agrees looked
  · exact fun _ _ looked => ⟨looked, rfl⟩

end SelIter
end IpmiRs.Storage.Sel
