import IpmiRs.Library.Chunks

/-! Padding to whole blocks: at least one element is always added, so that a list
of whole blocks is followed by a block of nothing but padding. -/
namespace IpmiRs.Library.BlockPadding
open Chunks

variable {α : Type*} {size : Nat} {filler : Nat → α} {xs : List α}

/-- How many elements are added. -/
def lacking (size length : Nat) : Nat := size - length % size

/-- The list with its padding, which is made of the number of elements that it has. -/
def padded (size : Nat) (filler : Nat → α) (xs : List α) : List α :=
  xs ++ List.replicate (lacking size xs.length) (filler (lacking size xs.length))

theorem lacking_pos (positive : 0 < size) (length : Nat) : 0 < lacking size length :=
  Nat.sub_pos_of_lt (Nat.mod_lt length positive)

theorem lacking_of_lt {length : Nat} (short : length < size) : lacking size length = size - length := by
  rw [lacking, Nat.mod_eq_of_lt short]

theorem lacking_sub {length : Nat} (full : size ≤ length) : lacking size (length - size) = lacking size length := by
  rw [lacking, lacking, ← Nat.mod_eq_sub_mod full]

theorem length_padded (xs : List α) : (padded size filler xs).length = xs.length + lacking size xs.length := by
  rw [padded, List.length_append, List.length_replicate]

/-- What is padded fills its blocks. -/
theorem dvd_length_padded (positive : 0 < size) (xs : List α) : size ∣ (padded size filler xs).length := by
  have below := Nat.mod_lt xs.length positive
  have parts := Nat.div_add_mod xs.length size
  refine ⟨xs.length / size + 1, ?_⟩
  rw [length_padded, lacking, Nat.mul_succ]
  omega

theorem padded_ne_nil (positive : 0 < size) : padded size filler xs ≠ [] := by
  have more := lacking_pos positive xs.length
  rw [← List.length_pos_iff, length_padded]
  omega

/-- A whole block in front is no part of what is padded. -/
theorem drop_padded (full : size ≤ xs.length) :
    (padded size filler xs).drop size = padded size filler (xs.drop size) := by
  rw [padded, padded, List.drop_append_of_le_length full, List.length_drop, lacking_sub full]

theorem take_padded (full : size ≤ xs.length) : (padded size filler xs).take size = xs.take size :=
  List.take_append_of_le_length full

/-- The block in front of what is padded, while there is a whole one. -/
theorem chunks_padded_of_le (positive : 0 < size) (full : size ≤ xs.length) :
    chunks size (padded size filler xs) = xs.take size :: chunks size (padded size filler (xs.drop size)) := by
  rw [chunks_eq_cons positive (padded_ne_nil positive), take_padded full, drop_padded full]

/-- What is left is in the one block that has the padding. -/
theorem chunks_padded_of_lt (short : xs.length < size) :
    chunks size (padded size filler xs) = [xs ++ List.replicate (size - xs.length) (filler (size - xs.length))] := by
  have positive : 0 < size := Nat.zero_lt_of_lt short
  have one : (padded size filler xs).length = size := by
    rw [length_padded, lacking_of_lt short]
    omega
  rw [chunks_eq_cons positive (padded_ne_nil positive), List.take_of_length_le (Nat.le_of_eq one),
    List.drop_of_length_le (Nat.le_of_eq one), chunks_nil, padded, lacking_of_lt short]

/-- The blocks of what fills them, told by their elements. -/
theorem chunks_eq_map_finRange (positive : 0 < size) {count : Nat} (whole : xs.length = count * size)
    {element : Fin count → Fin size → α} (told : ∀ i j, xs[i.val * size + j.val]? = some (element i j)) :
    chunks size xs = (List.finRange count).map fun i => List.ofFn (element i) := by
  have number : divCeil xs.length size = count := by
    rw [divCeil, whole, Nat.add_sub_assoc positive, Nat.mul_comm, Nat.mul_add_div positive,
      Nat.div_eq_of_lt (Nat.sub_one_lt_of_lt positive), Nat.add_zero]
  refine List.ext_getElem? fun i => ?_
  rw [chunks, number, List.getElem?_map, List.getElem?_map]
  by_cases inside : i < count
  · rw [List.getElem?_range inside, List.getElem?_eq_getElem (by rwa [List.length_finRange]), List.getElem_finRange]
    refine congrArg some (List.ext_getElem? fun j => ?_)
    rw [List.getElem?_ofFn]
    by_cases within : j < size
    · rw [List.getElem?_take_of_lt within, List.getElem?_drop, dif_pos within]
      exact told ⟨i, inside⟩ ⟨j, within⟩
    · rw [dif_neg within, List.getElem?_eq_none (by rw [List.length_take]; omega)]
  · rw [List.getElem?_eq_none (by rw [List.length_range]; omega),
      List.getElem?_eq_none (by rw [List.length_finRange]; omega)]
    rfl

end IpmiRs.Library.BlockPadding
