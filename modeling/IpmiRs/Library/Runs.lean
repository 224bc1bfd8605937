import Mathlib.Data.List.Induction

/-! Runs of a deterministic machine: a step function from a state and an
operation to an outcome and the next state. A history keeps every move with
the states around it, so that a claim about a run can speak of what was
observed as well as of where the machine ended. -/
namespace IpmiRs.Library.Runs

universe u v w

/-- One operation of a run, with its outcome and the states around it. -/
structure Move (σ : Type u) (ι : Type v) (ο : Type w) where
  before : σ
  op : ι
  out : ο
  after : σ

variable {σ : Type u} {ι : Type v} {ο : Type w} (step : σ → ι → ο × σ)

/-- The move the machine makes from `s` on `op`. -/
def move (s : σ) (op : ι) : Move σ ι ο := ⟨s, op, (step s op).1, (step s op).2⟩

/-- The state a list of operations leads to. -/
def after (s : σ) (ops : List ι) : σ := ops.foldl (fun s op => (step s op).2) s

/-- The moves a list of operations makes, in order. -/
def moves : σ → List ι → List (Move σ ι ο)
  | _, [] => []
  | s, op :: ops => move step s op :: moves (step s op).2 ops

@[simp] theorem move_before (s : σ) (op : ι) : (move step s op).before = s := rfl
@[simp] theorem move_op (s : σ) (op : ι) : (move step s op).op = op := rfl
@[simp] theorem move_out (s : σ) (op : ι) : (move step s op).out = (step s op).1 := rfl
@[simp] theorem move_after (s : σ) (op : ι) : (move step s op).after = (step s op).2 := rfl

@[simp] theorem after_nil (s : σ) : after step s [] = s := rfl

@[simp] theorem after_cons (s : σ) (op : ι) (ops : List ι) :
    after step s (op :: ops) = after step (step s op).2 ops := rfl

theorem after_append (s : σ) (first second : List ι) :
    after step s (first ++ second) = after step (after step s first) second := by
  simp [after, List.foldl_append]

@[simp] theorem moves_nil (s : σ) : moves step s [] = [] := rfl

@[simp] theorem moves_cons (s : σ) (op : ι) (ops : List ι) :
    moves step s (op :: ops) = move step s op :: moves step (step s op).2 ops := rfl

theorem moves_append (s : σ) (first second : List ι) :
    moves step s (first ++ second) = moves step s first ++ moves step (after step s first) second := by
  induction first generalizing s with
  | nil => rfl
  | cons op first ih => simp [ih]

/-- What holds at the start and is kept by every step holds after every run. -/
theorem invariant {P : σ → Prop} (start : P s)
    (kept : ∀ s op, P s → P (step s op).2) (ops : List ι) : P (after step s ops) := by
  induction ops generalizing s with
  | nil => exact start
  | cons op ops ih => exact ih (kept s op start)

/-- An invariant between the history so far and the present state, kept by
every move the guard admits, holds after every run of admitted moves. -/
theorem guarded_history {P : List (Move σ ι ο) → σ → Prop} (ok : Move σ ι ο → Prop)
    (start : P [] s)
    (kept : ∀ past s op, ok (move step s op) → P past s →
      P (past ++ [move step s op]) (step s op).2)
    (ops : List ι) (admitted : ∀ m ∈ moves step s ops, ok m) :
    P (moves step s ops) (after step s ops) := by
  induction ops using List.reverseRecOn with
  | nil => exact start
  | append_singleton ops op ih =>
    rw [moves_append] at admitted ⊢
    rw [after_append]
    exact kept _ _ op (admitted _ (by simp))
      (ih (fun m held => admitted m (List.mem_append_left _ held)))

/-- An invariant between the history and the state, kept by every move. -/
theorem history {P : List (Move σ ι ο) → σ → Prop} (start : P [] s)
    (kept : ∀ past s op, P past s → P (past ++ [move step s op]) (step s op).2)
    (ops : List ι) : P (moves step s ops) (after step s ops) :=
  guarded_history step (fun _ => True) start
    (fun past s op _ => kept past s op) ops (fun _ _ => trivial)

/-- Every move of a run was made from the state its earlier operations led to. -/
theorem split_at_move (s : σ) {ops : List ι} {m : Move σ ι ο} (held : m ∈ moves step s ops) :
    ∃ earlier op later, ops = earlier ++ op :: later ∧ m = move step (after step s earlier) op := by
  induction ops generalizing s with
  | nil => simp at held
  | cons op ops ih =>
    rcases List.mem_cons.mp held with rfl | held
    · exact ⟨[], op, ops, rfl, rfl⟩
    · obtain ⟨earlier, found, later, rfl, shape⟩ := ih _ held
      exact ⟨op :: earlier, found, later, rfl, shape⟩

end IpmiRs.Library.Runs
