import IpmiRs.Library.Runs

/-! Replay protection by a high-water mark: every step may take new values
only above the mark, each once, and leaves the mark at the greatest value
taken. Over a whole run no value is then taken twice, later steps take only
greater ones, and the mark is the maximum of everything taken. -/
namespace IpmiRs.Library.HighWater
open Runs

section Order
variable {α : Type} [Max α]

/-- Some value taken moves the mark to the greatest; none leaves it. -/
def raise (mark : Option α) (taken : List α) : Option α := taken.max?.or mark

variable [LT α]

/-- What a step takes, and the marks before and after it. -/
structure Advance (before : Option α) (taken : List α) (after : Option α) : Prop where
  above : ∀ value ∈ taken, ∀ mark, before = some mark → mark < value
  once : taken.Nodup
  raised : after = raise before taken

theorem Advance.nil (mark : Option α) : Advance mark [] mark :=
  ⟨by simp, List.nodup_nil, rfl⟩

variable [LE α] [Std.IsLinearOrder α] [Std.LawfulOrderMax α] [Std.LawfulOrderLT α]

omit [LT α] [Std.LawfulOrderLT α] in
theorem max?_of_ne_nil {taken : List α} (some_taken : taken ≠ []) :
    ∃ greatest, taken.max? = some greatest ∧ greatest ∈ taken ∧ ∀ value ∈ taken, value ≤ greatest := by
  obtain ⟨greatest, found⟩ := Option.isSome_iff_exists.mp (List.isSome_max?_of_ne_nil some_taken)
  exact ⟨greatest, found, List.max?_eq_some_iff.mp found⟩

namespace Advance
variable {before middle after : Option α} {first second : List α}

omit [Std.LawfulOrderLT α] in
/-- No value taken is above the mark it leaves. -/
theorem le_mark (step : Advance before first middle) (value : α) (taken : value ∈ first) :
    ∃ mark, middle = some mark ∧ value ≤ mark := by
  obtain ⟨greatest, found, -, bound⟩ := max?_of_ne_nil (List.ne_nil_of_mem taken)
  exact ⟨greatest, by simp [step.raised, raise, found], bound value taken⟩

/-- The mark never goes down. -/
theorem mark_le (step : Advance before first middle) (low : α) (marked : before = some low) :
    ∃ high, middle = some high ∧ low ≤ high := by
  by_cases nothing : first = []
  · exact ⟨low, by simp [step.raised, raise, nothing, marked], Std.le_refl low⟩
  · obtain ⟨greatest, found, member, -⟩ := max?_of_ne_nil nothing
    exact ⟨greatest, by simp [step.raised, raise, found],
      Std.le_of_lt (step.above greatest member low marked)⟩

/-- A later step takes only values above everything an earlier one took. -/
theorem lt_of_earlier (step : Advance before first middle) (next : Advance middle second after)
    (value : α) (taken : value ∈ first) (later : α) (held : later ∈ second) : value < later := by
  obtain ⟨mark, marked, bound⟩ := step.le_mark value taken
  exact Std.lt_of_le_of_lt bound (next.above later held mark marked)

/-- Two steps in a row advance as one. -/
theorem trans (step : Advance before first middle) (next : Advance middle second after) :
    Advance before (first ++ second) after where
  above value held mark marked := by
    rcases List.mem_append.mp held with held | held
    · exact step.above value held mark marked
    · obtain ⟨high, raised, bound⟩ := step.mark_le mark marked
      exact Std.lt_of_le_of_lt bound (next.above value held high raised)
  once := by
    refine List.nodup_append.mpr ⟨step.once, next.once, ?_⟩
    intro value taken later held same
    subst same
    exact Std.lt_irrefl (step.lt_of_earlier next value taken value held)
  raised := by
    rw [next.raised, step.raised]
    by_cases nothing : second = []
    · simp [nothing, raise]
    · obtain ⟨greatest, found, member, bound⟩ := max?_of_ne_nil nothing
      have top : (first ++ second).max? = some greatest := by
        refine List.max?_eq_some_iff.mpr ⟨List.mem_append_right _ member, ?_⟩
        intro value held
        rcases List.mem_append.mp held with held | held
        · exact Std.le_of_lt (step.lt_of_earlier next value held greatest member)
        · exact bound value held
      simp [raise, found, top]

end Advance
end Order

section Runs
variable {σ ι ο α : Type} (step : σ → ι → ο × σ) (taken : ο → List α)

/-- Everything a run took, in order. -/
def takenBy (s : σ) (ops : List ι) : List α := (moves step s ops).flatMap fun m => taken m.out

@[simp] theorem takenBy_nil (s : σ) : takenBy step taken s [] = ([] : List α) := rfl

variable [Max α] [LT α] [LE α] [Std.IsLinearOrder α] [Std.LawfulOrderMax α] [Std.LawfulOrderLT α]

/-- A machine whose states stand at a mark, where every step advances it. -/
structure Guarded (Marked : σ → Option α → Prop) : Prop where
  advances : ∀ s op mark, Marked s mark →
    ∃ next, Marked (step s op).2 next ∧ Advance mark (taken (step s op).1) next

variable {step taken} {Marked : σ → Option α → Prop}

namespace Guarded

/-- What holds of every step holds of every run. -/
theorem run (guarded : Guarded step taken Marked) (ops : List ι) {s : σ} {mark : Option α}
    (start : Marked s mark) :
    ∃ next, Marked (after step s ops) next ∧ Advance mark (takenBy step taken s ops) next := by
  induction ops generalizing s mark with
  | nil => exact ⟨mark, start, .nil _⟩
  | cons op ops ih =>
    obtain ⟨middle, marked, first⟩ := guarded.advances s op mark start
    obtain ⟨next, reached, rest⟩ := ih marked
    exact ⟨next, reached, first.trans rest⟩

/-- Two parts of a run, one after the other. -/
theorem run_append (guarded : Guarded step taken Marked) (first second : List ι) {s : σ}
    {mark : Option α} (start : Marked s mark) :
    ∃ middle last, Advance mark (takenBy step taken s first) middle ∧
      Marked (after step s first) middle ∧
      Advance middle (takenBy step taken (after step s first) second) last ∧
      Marked (after step s (first ++ second)) last := by
  obtain ⟨middle, marked, earlier⟩ := guarded.run first start
  obtain ⟨last, reached, later⟩ := guarded.run second marked
  exact ⟨middle, last, earlier, marked, later, after_append step s first second ▸ reached⟩

omit [LE α] [Std.IsLinearOrder α] [Std.LawfulOrderMax α] [Std.LawfulOrderLT α] in
/-- What every step admits of its values, every value of a run satisfies. -/
theorem forall_taken (guarded : Guarded step taken Marked) {P : α → Prop}
    (admitted : ∀ s op mark, Marked s mark → ∀ value ∈ taken (step s op).1, P value) (ops : List ι)
    {s : σ} {mark : Option α} (start : Marked s mark) :
    ∀ value ∈ takenBy step taken s ops, P value := by
  induction ops generalizing s mark with
  | nil => simp
  | cons op ops ih =>
    obtain ⟨middle, marked, -⟩ := guarded.advances s op mark start
    intro value held
    rcases List.mem_append.mp held with held | held
    · exact admitted s op mark start value held
    · exact ih marked value held

end Guarded
end Runs
end IpmiRs.Library.HighWater
