import Mathlib.Data.List.Basic
import Mathlib.Algebra.Order.Floor.Defs
import Mathlib.Algebra.Order.Ring.Nat

/-! Cutting a list into runs of a given size, the last of which may be
shorter. -/
namespace IpmiRs.Library.Chunks

variable {α : Type*}

/-- The number of runs of `size` that `length` elements need. -/
def divCeil (length size : Nat) : Nat := (length + size - 1) / size

/-- The runs of a list, in order. -/
def chunks (size : Nat) (xs : List α) : List (List α) :=
  (List.range (divCeil xs.length size)).map fun i => (xs.drop (i * size)).take size

@[simp] theorem length_chunks (size : Nat) (xs : List α) :
    (chunks size xs).length = divCeil xs.length size := by
  simp [chunks]

theorem le_divCeil_mul {size : Nat} (positive : 0 < size) (length : Nat) :
    length ≤ divCeil length size * size := by
  have parts := Nat.div_add_mod (length + size - 1) size
  have below := Nat.mod_lt (length + size - 1) positive
  rw [divCeil, Nat.mul_comm]
  omega

theorem divCeil_le {size : Nat} (positive : 0 < size) (length : Nat) :
    divCeil length size ≤ length := by
  rw [divCeil, Nat.div_le_iff_le_mul_add_pred positive]
  have grown := Nat.le_mul_of_pos_left length positive
  omega

theorem mul_lt_of_lt_divCeil {size i : Nat} (positive : 0 < size) {length : Nat}
    (within : i < divCeil length size) : i * size < length := by
  have reached := (Nat.le_div_iff_mul_le positive).mp (Nat.succ_le_of_lt within)
  rw [Nat.succ_mul] at reached
  omega

/-- Only the last run may be shorter. -/
theorem length_getElem_chunks {size : Nat} (positive : 0 < size) {xs : List α} {i : Nat}
    (inside : i < (chunks size xs).length) (more : i + 1 < (chunks size xs).length) :
    (chunks size xs)[i].length = size := by
  have next := mul_lt_of_lt_divCeil positive (length_chunks size xs ▸ more)
  rw [Nat.succ_mul] at next
  simp only [chunks, List.getElem_map, List.getElem_range, List.length_take, List.length_drop]
  omega

private theorem flatten_first_chunks (size count : Nat) (xs : List α) :
    ((List.range count).map fun i => (xs.drop (i * size)).take size).flatten =
      xs.take (count * size) := by
  induction count with
  | zero => simp
  | succ count ih =>
    rw [List.range_succ, List.map_append, List.flatten_append, ih, Nat.succ_mul, List.take_add]
    simp

/-- Cutting loses nothing and keeps the order. -/
theorem flatten_chunks {size : Nat} (positive : 0 < size) (xs : List α) :
    (chunks size xs).flatten = xs := by
  rw [chunks, flatten_first_chunks, List.take_of_length_le (le_divCeil_mul positive _)]

/-- The first runs hold the first elements. -/
theorem flatten_take_chunks {size count : Nat} {xs : List α} (inside : count ≤ (chunks size xs).length) :
    ((chunks size xs).take count).flatten = xs.take (count * size) := by
  rw [length_chunks] at inside
  rw [chunks, ← List.map_take, List.take_range, Nat.min_eq_left inside, flatten_first_chunks]

/-- The first run is cut off, and the rest is cut in the same way. -/
theorem chunks_eq_cons {size : Nat} (positive : 0 < size) {xs : List α} (some : xs ≠ []) :
    chunks size xs = xs.take size :: chunks size (xs.drop size) := by
  have length := List.length_pos_iff.mpr some
  have count : divCeil xs.length size = divCeil (xs.drop size).length size + 1 := by
    rw [divCeil, divCeil, List.length_drop]
    by_cases more : size ≤ xs.length
    · rw [← Nat.add_div_right _ positive]
      congr 1
      omega
    · have one : (xs.length + size - 1) / size = 1 := Nat.div_eq_of_lt_le (by omega) (by omega)
      rw [one, Nat.div_eq_of_lt (by omega)]
  rw [chunks, count, List.range_succ_eq_map, List.map_cons, List.map_map, Nat.zero_mul, List.drop_zero, chunks]
  congr 1
  refine List.map_congr_left fun i _ => ?_
  rw [Function.comp_apply, Nat.succ_mul, List.drop_drop, Nat.add_comm size]

theorem chunks_nil (size : Nat) : chunks size ([] : List α) = [] := by
  have none : divCeil 0 size = 0 := by
    rw [divCeil, Nat.zero_add]
    cases size with
    | zero => rfl
    | succ size => exact Nat.div_eq_of_lt (Nat.lt_succ_self _)
  rw [chunks, List.length_nil, none]
  rfl

/-- Where the first part is cut into whole runs, the second is cut on its own. -/
theorem chunks_append {size : Nat} (positive : 0 < size) {xs : List α} (whole : size ∣ xs.length) (ys : List α) :
    chunks size (xs ++ ys) = chunks size xs ++ chunks size ys := by
  obtain ⟨count, length⟩ := whole
  induction count generalizing xs with
  | zero =>
    obtain rfl := List.eq_nil_of_length_eq_zero length
    rw [chunks_nil]
    rfl
  | succ count ih =>
    rw [Nat.mul_succ] at length
    have full : size ≤ xs.length := by omega
    have some : xs ≠ [] := List.ne_nil_of_length_pos (by omega)
    rw [chunks_eq_cons positive some, chunks_eq_cons positive (List.append_ne_nil_of_left_ne_nil some ys),
      List.take_append_of_le_length full, List.drop_append_of_le_length full, ih (by rw [List.length_drop]; omega)]
    rfl

/-- Every run has an element, and no more than `size`. -/
theorem length_of_mem_chunks {size : Nat} (positive : 0 < size) {xs chunk : List α}
    (member : chunk ∈ chunks size xs) : 0 < chunk.length ∧ chunk.length ≤ size := by
  obtain ⟨i, inside, rfl⟩ := List.mem_map.mp member
  have within := mul_lt_of_lt_divCeil positive (List.mem_range.mp inside)
  rw [List.length_take, List.length_drop]
  omega

end IpmiRs.Library.Chunks
