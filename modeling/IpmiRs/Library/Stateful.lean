import Mathlib.Data.List.Basic

/-! Computations over a state that return or fail, and leave the state they
reached either way. What one of them ends in is derived rule by rule, in the
order of its steps. -/
namespace IpmiRs.Library

abbrev Stateful (σ ε α : Type) := ExceptT ε (StateM σ) α

namespace Stateful
variable {σ τ ε ε' α β : Type}

/-- What a computation makes of a state. -/
def eval (x : Stateful σ ε α) (s : σ) : Except ε α × σ := x.run.run s

/-- The computation, with a failure of it as a value. -/
def attempt (x : Stateful σ ε α) : Stateful σ ε' (Except ε α) :=
  ExceptT.mk (fun s => ((.ok (x.eval s).1 : Except ε' (Except ε α)), (x.eval s).2))

/-- The computation, on a part of a larger state. -/
def zoom (part : σ → τ) (put : τ → σ → σ) (x : Stateful τ ε α) : Stateful σ ε α :=
  ExceptT.mk (fun s => ((x.eval (part s)).1, put (x.eval (part s)).2 s))

/-- From `s`, the computation returns as `Q` says or fails as `E` says. -/
def Ends (x : Stateful σ ε α) (s : σ) (Q : α → σ → Prop) (E : ε → σ → Prop) : Prop :=
  match x.eval s with
  | (.ok value, s) => Q value s
  | (.error error, s) => E error s

theorem eval_bind (x : Stateful σ ε α) (f : α → Stateful σ ε β) (s : σ) :
    eval (x >>= f) s = match x.eval s with
      | (.ok value, s) => (f value).eval s
      | (.error error, s) => (.error error, s) := by
  unfold eval
  rw [ExceptT.run_bind, StateT.run_bind]
  cases x.run.run s with
  | mk result s => cases result <;> rfl

/-- A sequence returns if its parts do, one after the other. -/
theorem eval_bind_eq_ok {x : Stateful σ ε α} {f : α → Stateful σ ε β} {s t : σ} {result : β} :
    eval (x >>= f) s = (.ok result, t) ↔
      ∃ value u, x.eval s = (.ok value, u) ∧ (f value).eval u = (.ok result, t) := by
  rw [eval_bind]
  cases ran : x.eval s with
  | mk outcome u =>
    cases outcome with
    | ok value =>
      constructor
      · exact fun later => ⟨value, u, rfl, later⟩
      · rintro ⟨value', u', first, later⟩
        obtain ⟨same, rfl⟩ := Prod.mk.inj first
        rwa [Except.ok.inj same]
    | error error =>
      constructor
      · intro failed
        cases (Prod.mk.inj failed).1
      · rintro ⟨value, u', first, -⟩
        cases (Prod.mk.inj first).1

/-- A step that does not touch the state. -/
theorem eval_ofExcept_eq_ok {x : Except ε α} {s t : σ} {value : α} :
    (MonadExcept.ofExcept x : Stateful σ ε α).eval s = (.ok value, t) ↔ x = .ok value ∧ t = s := by
  cases x with
  | ok other =>
    constructor
    · intro returned
      obtain ⟨same, kept⟩ := Prod.mk.inj returned
      exact ⟨same, kept.symm⟩
    · rintro ⟨same, rfl⟩
      rw [← same]
      rfl
  | error error =>
    constructor
    · intro same
      cases (Prod.mk.inj same).1
    · rintro ⟨same, -⟩
      cases same

theorem eval_pure_eq_ok {s t : σ} {value result : α} :
    (pure value : Stateful σ ε α).eval s = (.ok result, t) ↔ value = result ∧ t = s := by
  constructor
  · intro returned
    obtain ⟨same, kept⟩ := Prod.mk.inj returned
    exact ⟨Except.ok.inj same, kept.symm⟩
  · rintro ⟨rfl, rfl⟩
    rfl

theorem eval_throw_ne_ok {s t : σ} {error : ε} {result : α} :
    (throw error : Stateful σ ε α).eval s ≠ (.ok result, t) := fun same => by
  cases (Prod.mk.inj same).1

theorem eval_modify_eq_ok {f : σ → σ} {s t : σ} {done : PUnit} :
    (modify f : Stateful σ ε PUnit).eval s = (.ok done, t) ↔ t = f s := by
  constructor
  · intro same
    exact (Prod.mk.inj same).2.symm
  · rintro rfl
    rfl

/-- Computations that make the same of every state are the same. -/
theorem ext {x y : Stateful σ ε α} (same : ∀ s, x.eval s = y.eval s) : x = y :=
  ExceptT.ext (StateT.ext same)

theorem mapError_eq_ok {x : Except ε α} {f : ε → ε'} {value : α} :
    x.mapError f = .ok value ↔ x = .ok value := by
  cases x <;> simp [Except.mapError]

theorem mapError_eq_error {x : Except ε α} {f : ε → ε'} {error : ε'} :
    x.mapError f = .error error ↔ ∃ reason, x = .error reason ∧ f reason = error := by
  cases x <;> simp [Except.mapError]

variable {s : σ} {P Q : α → σ → Prop} {E F : ε → σ → Prop}

/-- A computation ends in what it evaluates to. -/
theorem Ends.self (x : Stateful σ ε α) (s : σ) :
    Ends x s (fun value t => x.eval s = (.ok value, t)) (fun error t => x.eval s = (.error error, t)) := by
  unfold Ends
  split
  · rename_i ended
    exact ended
  · rename_i ended
    exact ended

/-- What holds of an end holds of what the computation evaluates to. -/
theorem Ends.told {x : Stateful σ ε α} (holds : Ends x s Q E) :
    Ends x s (fun value t => x.eval s = (.ok value, t) ∧ Q value t)
      (fun error t => x.eval s = (.error error, t) ∧ E error t) := by
  unfold Ends at holds ⊢
  split
  · rename_i ended
    rw [ended] at holds
    exact ⟨ended, holds⟩
  · rename_i ended
    rw [ended] at holds
    exact ⟨ended, holds⟩

/-- What a computation returns is told apart from how it fails. -/
theorem Ends.of_returns {x : Stateful σ ε α} (returns : ∀ value t, x.eval s = (.ok value, t) → Q value t)
    (fails : Ends x s (fun _ _ => True) E) : Ends x s Q E := by
  unfold Ends at fails ⊢
  split
  · rename_i value t ended
    exact returns value t ended
  · rename_i error t ended
    rw [ended] at fails
    exact fails

theorem Ends.pure {value : α} (holds : Q value s) : Ends (pure value) s Q E := holds

theorem Ends.throw {error : ε} (holds : E error s) : Ends (throw error) s Q E := holds

/-- What a function makes of the state. -/
theorem Ends.call {f : σ → Except ε α × σ} (returns : ∀ value, (f s).1 = .ok value → Q value (f s).2)
    (fails : ∀ error, (f s).1 = .error error → E error (f s).2) : Ends (ExceptT.mk f) s Q E := by
  change match f s with
    | (.ok value, s) => Q value s
    | (.error error, s) => E error s
  cases ended : f s with
  | mk result after =>
    rw [ended] at returns fails
    cases result with
    | ok value => exact returns value rfl
    | error error => exact fails error rfl

theorem Ends.mono {x : Stateful σ ε α} (first : Ends x s P F)
    (returns : ∀ value s, P value s → Q value s) (fails : ∀ error s, F error s → E error s) :
    Ends x s Q E := by
  unfold Ends at first ⊢
  split
  · rename_i value s ended
    rw [ended] at first
    exact returns value s first
  · rename_i error s ended
    rw [ended] at first
    exact fails error s first

theorem Ends.bind {x : Stateful σ ε α} {f : α → Stateful σ ε β} {R : β → σ → Prop}
    (first : Ends x s P F) (fails : ∀ error s, F error s → E error s)
    (next : ∀ value s, P value s → Ends (f value) s R E) : Ends (x >>= f) s R E := by
  unfold Ends at first ⊢
  rw [eval_bind]
  cases ended : x.eval s with
  | mk result s =>
    rw [ended] at first
    cases result with
    | ok value => exact next value s first
    | error error => exact fails error s first

/-- A step that never fails. -/
theorem Ends.bind_total {x : Stateful σ ε α} {f : α → Stateful σ ε β} {R : β → σ → Prop}
    (first : Ends x s P fun _ _ => False) (next : ∀ value s, P value s → Ends (f value) s R E) :
    Ends (x >>= f) s R E := first.bind (fun _ _ never => never.elim) next

/-- What a step that does not touch the state makes of it. -/
theorem Ends.ofExcept_bind {x : Except ε α} {f : α → Stateful σ ε β} {R : β → σ → Prop}
    (fails : ∀ error, x = .error error → E error s)
    (next : ∀ value, x = .ok value → Ends (f value) s R E) :
    Ends (MonadExcept.ofExcept x >>= f) s R E := by
  cases x with
  | ok value => exact next value rfl
  | error error => exact fails error rfl

theorem Ends.get_bind {f : σ → Stateful σ ε α} (next : Ends (f s) s Q E) :
    Ends (get >>= f) s Q E := by
  refine Ends.bind (P := fun value t => value = s ∧ t = s) (F := fun _ _ => False)
    (show Ends get s _ _ from ⟨rfl, rfl⟩) (fun _ _ never => never.elim) ?_
  rintro value t ⟨same, kept⟩
  rw [same, kept]
  exact next

theorem Ends.modify_bind {f : σ → σ} {g : PUnit → Stateful σ ε α} (next : Ends (g ⟨⟩) (f s) Q E) :
    Ends (modify f >>= g) s Q E := by
  refine Ends.bind (P := fun _ t => t = f s) (F := fun _ _ => False)
    (show Ends (modify f) s _ _ from rfl) (fun _ _ never => never.elim) ?_
  rintro _ t reached
  rw [reached]
  exact next

theorem Ends.modifyGet_bind {f : σ → α × σ} {g : α → Stateful σ ε β} {R : β → σ → Prop}
    (next : Ends (g (f s).1) (f s).2 R E) : Ends (modifyGet f >>= g) s R E := by
  refine Ends.bind (P := fun value t => value = (f s).1 ∧ t = (f s).2) (F := fun _ _ => False)
    (show Ends (modifyGet f) s _ _ from ⟨rfl, rfl⟩) (fun _ _ never => never.elim) ?_
  rintro value t ⟨same, reached⟩
  rw [same, reached]
  exact next

theorem Ends.modifyGet {f : σ → α × σ} (holds : Q (f s).1 (f s).2) : Ends (modifyGet f) s Q E := holds

theorem Ends.modify {Q : PUnit → σ → Prop} {f : σ → σ} (holds : Q ⟨⟩ (f s)) :
    Ends (modify f) s Q E := holds

theorem Ends.attempt {x : Stateful σ ε α} {Q : Except ε α → σ → Prop} {E : ε' → σ → Prop}
    (first : Ends x s (fun value => Q (.ok value)) (fun error => Q (.error error))) :
    Ends x.attempt s Q E := by
  unfold Ends at first
  change Q (x.eval s).1 (x.eval s).2
  split at first
  · rename_i ended
    rw [ended]
    exact first
  · rename_i ended
    rw [ended]
    exact first

/-- Both ends of an attempt are gone on from. -/
theorem Ends.attempt_bind {x : Stateful σ ε α} {f : Except ε α → Stateful σ ε' β}
    {R : β → σ → Prop} {G : ε' → σ → Prop} (first : Ends x s P F)
    (returns : ∀ value t, P value t → Ends (f (.ok value)) t R G)
    (fails : ∀ error t, F error t → Ends (f (.error error)) t R G) :
    Ends (x.attempt >>= f) s R G := by
  refine Ends.bind (F := fun _ _ => False) (Ends.attempt (Q := fun result t => match result with
    | .ok value => P value t
    | .error error => F error t) first) (fun _ _ never => never.elim) ?_
  rintro (error | value) t ended
  · exact fails error t ended
  · exact returns value t ended

theorem Ends.zoom {part : σ → τ} {put : τ → σ → σ} {x : Stateful τ ε α}
    (first : Ends x (part s) (fun value t => Q value (put t s)) (fun error t => E error (put t s))) :
    Ends (x.zoom part put) s Q E := by
  unfold Ends at first
  change match ((x.eval (part s)).1, put (x.eval (part s)).2 s) with
    | (.ok value, s) => Q value s
    | (.error error, s) => E error s
  split at first
  · rename_i ended
    rw [ended]
    exact first
  · rename_i ended
    rw [ended]
    exact first

theorem Ends.adapt {f : ε → ε'} {x : Stateful σ ε α} {E : ε' → σ → Prop}
    (first : Ends x s Q (fun error => E (f error))) : Ends (ExceptT.adapt f x) s Q E := by
  have steps : eval (ExceptT.adapt f x) s = ((x.eval s).1.mapError f, (x.eval s).2) := rfl
  unfold Ends at first ⊢
  rw [steps]
  cases ended : x.eval s with
  | mk result s =>
    rw [ended] at first
    cases result <;> exact first

/-- What a computation ends in, once it has been evaluated. -/
theorem Ends.evaluated {x : Stateful σ ε α} (holds : Ends x s Q E) :
    (∀ value, (x.eval s).1 = .ok value → Q value (x.eval s).2) ∧
      ∀ error, (x.eval s).1 = .error error → E error (x.eval s).2 := by
  unfold Ends at holds
  cases ended : x.eval s with
  | mk result s =>
    rw [ended] at holds
    cases result with
    | ok value =>
      refine ⟨fun _ same => ?_, fun _ other => nomatch other⟩
      rw [← Except.ok.inj same]
      exact holds
    | error error =>
      refine ⟨fun _ other => (nomatch other), fun _ same => ?_⟩
      rw [← Except.error.inj same]
      exact holds

/-- A computation that fails in no way returns. -/
theorem Ends.returns {x : Stateful σ ε α} (holds : Ends x s Q (fun _ _ => False)) :
    ∃ value t, x.eval s = (.ok value, t) ∧ Q value t := by
  unfold Ends at holds
  cases ended : x.eval s with
  | mk result t =>
    rw [ended] at holds
    cases result with
    | ok value => exact ⟨value, t, rfl, holds⟩
    | error error => exact holds.elim

/-- What holds of both ends holds of the end that was reached. -/
theorem Ends.result {x : Stateful σ ε α} {P : Except ε α → σ → Prop}
    (holds : Ends x s (fun value t => P (.ok value) t) (fun error t => P (.error error) t)) :
    P (x.eval s).1 (x.eval s).2 := by
  unfold Ends at holds
  cases ended : x.eval s with
  | mk result s =>
    rw [ended] at holds
    cases result <;> exact holds

/-! ### What every end keeps -/

/-- However it ends, a computation takes a state to one that is related to it. -/
def Keeps (R : σ → σ → Prop) (x : Stateful σ ε α) : Prop := ∀ s, R s (x.eval s).2

section keeping
variable {R : σ → σ → Prop}

theorem Keeps.modify {f : σ → σ} (kept : ∀ s, R s (f s)) : Keeps R (modify f : Stateful σ ε PUnit) := kept

theorem Keeps.modifyGet {f : σ → α × σ} (kept : ∀ s, R s (f s).2) : Keeps R (modifyGet f : Stateful σ ε α) := kept

theorem Keeps.attempt {x : Stateful σ ε α} (kept : Keeps R x) :
    Keeps R (x.attempt : Stateful σ ε' (Except ε α)) := kept

variable [IsPreorder σ R]

theorem Keeps.pure (value : α) : Keeps R (pure value : Stateful σ ε α) := fun s => refl_of R s

theorem Keeps.throw (error : ε) : Keeps R (throw error : Stateful σ ε α) := fun s => refl_of R s

theorem Keeps.bind {x : Stateful σ ε α} {f : α → Stateful σ ε β} (first : Keeps R x)
    (next : ∀ value, Keeps R (f value)) : Keeps R (x >>= f) := by
  intro s
  have here := first s
  rw [eval_bind]
  cases ended : x.eval s with
  | mk result t =>
    rw [ended] at here
    cases result with
    | ok value => exact trans_of R here (next value t)
    | error error => exact here

theorem Keeps.get_bind {f : σ → Stateful σ ε α} (next : ∀ s, Keeps R (f s)) : Keeps R (get >>= f) :=
  .bind (fun s => refl_of R s) next

end keeping

end Stateful
end IpmiRs.Library
