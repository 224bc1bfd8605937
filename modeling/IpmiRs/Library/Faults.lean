import IpmiRs.Library.Checked
import IpmiRs.Library.Logged

/-! Stateful code that may panic or run on, beside what it fails with, and the
callbacks it calls. A loop is given turns, and running out of them is an outcome
of its own, as a panic is: proving both away is proving that the code ends. -/
namespace IpmiRs.Library

/-- How code ends without a value. -/
inductive Fault (ε : Type) where
  | panicked
  | ranOn
  | error (error : ε)
  deriving DecidableEq

/-- One call of a callback, and what came of it. -/
structure Call (κ ρ : Type) where
  asked : κ
  answer : ρ
  deriving DecidableEq

/-- What the calls of a log returned, of those that did. -/
def answers {κ ε ρ : Type} (log : List (Call κ (Except ε ρ))) : List ρ := log.filterMap (·.answer.toOption)

namespace Checked
variable {ε ε' α : Type}

/-- `x.unwrap()` -/
def unwrap : Except ε α → Checked ε' α
  | .ok value => pure value
  | .error _ => panicked

end Checked

namespace Stateful
variable {σ ε α : Type}

/-- A step that does not touch the state, and may panic. -/
def checked (x : Checked ε α) : Stateful σ (Fault ε) α :=
  ExceptT.mk fun s => (match x.run with
    | none => .error .panicked
    | some (.error error) => .error (.error error)
    | some (.ok value) => .ok value, s)

/-- What is unwrapped was returned. -/
theorem checked_unwrap_bind {δ β : Type} {x : Except δ α} {value : α} (returned : x = .ok value)
    (f : α → Stateful σ (Fault ε) β) : (checked (Checked.unwrap x) >>= f) = f value := by
  rw [returned]
  rfl

theorem Ends.checked_bind {β : Type} {s : σ} {x : Checked ε α} {f : α → Stateful σ (Fault ε) β} {P : α → Prop}
    {Q : β → σ → Prop} {E : Fault ε → σ → Prop} (yields : Checked.Yields P x) (fails : ∀ error, E (.error error) s)
    (next : ∀ value, P value → Ends (f value) s Q E) : Ends (checked x >>= f) s Q E := by
  match x with
  | some (.ok value) => exact next value yields
  | some (.error error) => exact fails error
  | none => exact yields.elim

end Stateful

namespace Logged
open Stateful
variable {σ η ε κ ρ α β : Type}

/-- A callback, with a log of its calls. -/
def recording (send : κ → Stateful σ ε ρ) (asked : κ) : Stateful (σ × List (Call κ (Except ε ρ))) ε ρ :=
  ExceptT.mk fun s =>
    let answered := (send asked).eval s.1
    (answered.1, answered.2, s.2 ++ [⟨asked, answered.1⟩])

/-- A call is added with what came of it. -/
theorem recording_tells (send : κ → Stateful σ ε ρ) (asked : κ) :
    Tells (recording send asked) (fun value log => log = [⟨asked, .ok value⟩])
      (fun error log => log = [⟨asked, .error error⟩]) := by
  intro s log
  refine Ends.call (fun value returned => ⟨_, rfl, ?_⟩) (fun error failed => ⟨_, rfl, ?_⟩)
  · rw [returned]
  · rw [failed]

theorem adapt_recording_tells {ε' : Type} (f : ε → ε') (send : κ → Stateful σ ε ρ) (asked : κ) :
    Tells (ExceptT.adapt f (recording send asked)) (fun value log => log = [⟨asked, .ok value⟩])
      (fun error log => ∃ cause, error = f cause ∧ log = [⟨asked, .error cause⟩]) :=
  Tells.adapt (Tells.mono (recording_tells send asked) (fun _ _ told => told)
    (fun cause _ told => ⟨cause, rfl, told⟩))

theorem answers_cons_ok (asked : κ) (value : ρ) (log : List (Call κ (Except ε ρ))) :
    answers (⟨asked, .ok value⟩ :: log) = value :: answers log := List.filterMap_cons_some rfl

end Logged
end IpmiRs.Library
