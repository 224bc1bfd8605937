import IpmiRs.Library.Stateful

/-! Computations over a state with a log of events, which they only add to. What
one of them adds is told rule by rule, whatever the state and the earlier log. -/
namespace IpmiRs.Library.Logged
open Stateful

variable {σ η ε ε' α β : Type}

/-- The computation returns after the events that `Q` speaks of or fails after
those that `E` speaks of, which it adds to the log. -/
def Tells (x : Stateful (σ × List η) ε α) (Q : α → List η → Prop) (E : ε → List η → Prop) : Prop :=
  ∀ s log, Ends x (s, log) (fun value t => ∃ more, t.2 = log ++ more ∧ Q value more)
    (fun error t => ∃ more, t.2 = log ++ more ∧ E error more)

variable {P Q : α → List η → Prop} {E F : ε → List η → Prop} {x : Stateful (σ × List η) ε α}

theorem Tells.pure {value : α} (holds : Q value []) :
    Tells (pure value : Stateful (σ × List η) ε α) Q E := fun _ log =>
  Ends.pure ⟨[], (List.append_nil log).symm, holds⟩

theorem Tells.throw {error : ε} (holds : E error []) :
    Tells (throw error : Stateful (σ × List η) ε α) Q E := fun _ log =>
  Ends.throw ⟨[], (List.append_nil log).symm, holds⟩

theorem Tells.mono (first : Tells x P F) (returns : ∀ value log, P value log → Q value log)
    (fails : ∀ error log, F error log → E error log) : Tells x Q E := fun s log =>
  Ends.mono (first s log) (fun value _ ⟨more, grown, told⟩ => ⟨more, grown, returns value more told⟩)
    (fun error _ ⟨more, grown, told⟩ => ⟨more, grown, fails error more told⟩)

theorem Tells.adapt {f : ε → ε'} {E : ε' → List η → Prop} (first : Tells x Q (fun error => E (f error))) :
    Tells (ExceptT.adapt f x) Q E := fun s log => Ends.adapt (first s log)

/-- What is added later comes after what was added first. -/
theorem Tells.bind {f : α → Stateful (σ × List η) ε β} {R : β → List η → Prop} (first : Tells x P F)
    (fails : ∀ error log, F error log → E error log)
    (next : ∀ value log, P value log →
      Tells (f value) (fun result more => R result (log ++ more)) (fun error more => E error (log ++ more))) :
    Tells (x >>= f) R E := by
  intro s log
  refine Ends.bind (first s log) (fun error t ⟨more, grown, told⟩ => ⟨more, grown, fails error more told⟩) ?_
  rintro value ⟨t, _⟩ ⟨early, rfl, told⟩
  refine Ends.mono (next value early told t (log ++ early)) ?_ ?_
  · rintro result u ⟨late, grown, later⟩
    exact ⟨early ++ late, grown.trans (List.append_assoc _ _ _), later⟩
  · rintro error u ⟨late, grown, later⟩
    exact ⟨early ++ late, grown.trans (List.append_assoc _ _ _), later⟩

/-- Both ends of an attempt are gone on from. -/
theorem Tells.attempt_bind {f : Except ε α → Stateful (σ × List η) ε' β} {R : β → List η → Prop}
    {G : ε' → List η → Prop} (first : Tells x P F)
    (returns : ∀ value log, P value log →
      Tells (f (.ok value)) (fun result more => R result (log ++ more)) (fun error more => G error (log ++ more)))
    (fails : ∀ error log, F error log →
      Tells (f (.error error)) (fun result more => R result (log ++ more))
        (fun error more => G error (log ++ more))) :
    Tells (x.attempt >>= f) R G := by
  intro s log
  have goesOn : ∀ (result : Except ε α) (t : σ) (early : List η),
      Tells (f result) (fun result more => R result (early ++ more))
        (fun error more => G error (early ++ more)) →
      Ends (f result) (t, log ++ early) (fun value t => ∃ more, t.2 = log ++ more ∧ R value more)
        (fun error t => ∃ more, t.2 = log ++ more ∧ G error more) := by
    intro result t early tells
    refine Ends.mono (tells t (log ++ early)) ?_ ?_
    · rintro value u ⟨late, grown, later⟩
      exact ⟨early ++ late, grown.trans (List.append_assoc _ _ _), later⟩
    · rintro error u ⟨late, grown, later⟩
      exact ⟨early ++ late, grown.trans (List.append_assoc _ _ _), later⟩
  refine Ends.attempt_bind (first s log) ?_ ?_
  · rintro value ⟨t, _⟩ ⟨early, rfl, told⟩
    exact goesOn _ t early (returns value early told)
  · rintro error ⟨t, _⟩ ⟨early, rfl, told⟩
    exact goesOn _ t early (fails error early told)

/-- A step that reads the state. -/
theorem Tells.get_bind {f : σ × List η → Stateful (σ × List η) ε α} (next : ∀ s, Tells (f s) Q E) :
    Tells (get >>= f) Q E := fun s log => Ends.get_bind (next (s, log) s log)

/-- A step that changes the state beside the log. -/
theorem Tells.modifyGet_bind {f : σ × List η → α × (σ × List η)} {g : α → Stateful (σ × List η) ε β}
    {R : β → List η → Prop} (silent : ∀ t, (f t).2.2 = t.2) (next : ∀ value, Tells (g value) R E) :
    Tells (modifyGet f >>= g) R E := by
  intro s log
  refine Ends.modifyGet_bind ?_
  have same : (f (s, log)).2 = ((f (s, log)).2.1, log) := Prod.ext rfl (silent (s, log))
  rw [same]
  exact next _ _ log

theorem Tells.modify_bind {f : σ × List η → σ × List η} {g : PUnit → Stateful (σ × List η) ε α}
    (silent : ∀ t, (f t).2 = t.2) (next : Tells (g ⟨⟩) Q E) : Tells (modify f >>= g) Q E := by
  intro s log
  refine Ends.modify_bind ?_
  have same : f (s, log) = ((f (s, log)).1, log) := Prod.ext rfl (silent (s, log))
  rw [same]
  exact next _ log

theorem Tells.ofExcept_bind {y : Except ε α} {f : α → Stateful (σ × List η) ε β} {R : β → List η → Prop}
    (fails : ∀ error, y = .error error → E error []) (next : ∀ value, y = .ok value → Tells (f value) R E) :
    Tells (MonadExcept.ofExcept y >>= f) R E := fun s log =>
  Ends.ofExcept_bind (fun error failed => ⟨[], (List.append_nil log).symm, fails error failed⟩)
    (fun value made => next value made s log)

theorem Tells.ofExcept {y : Except ε α} (fails : ∀ error, y = .error error → E error [])
    (returns : ∀ value, y = .ok value → Q value []) :
    Tells (MonadExcept.ofExcept y : Stateful (σ × List η) ε α) Q E := by
  cases y with
  | error error => exact Tells.throw (fails error rfl)
  | ok value => exact Tells.pure (returns value rfl)

/-- What is told of a computation holds of what it adds to an empty log. -/
theorem Tells.result {P : Except ε α → List η → Prop}
    (tells : Tells x (fun value => P (.ok value)) (fun error => P (.error error))) (s : σ) :
    P (x.eval (s, [])).1 (x.eval (s, [])).2.2 := by
  refine Ends.result (P := fun result t => P result t.2) (Ends.mono (tells s []) ?_ ?_)
  · rintro value t ⟨more, grown, told⟩
    rwa [grown]
  · rintro error t ⟨more, grown, told⟩
    rwa [grown]

end IpmiRs.Library.Logged
