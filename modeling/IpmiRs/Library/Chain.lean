import Mathlib.Data.List.Nodup

/-! A chain of identifiers, followed from a reserved one that begins it to a
reserved one that ends it. -/
namespace IpmiRs.Library

universe u

/-- The identifiers in order: none comes twice, and none is reserved. -/
structure Chain (ι : Type u) where
  first : ι
  last : ι
  ids : List ι
  acyclic : ids.Nodup
  notFirst : first ∉ ids
  notLast : last ∉ ids

variable {ι : Type u} (chain : Chain ι)

namespace Chain

/-- What follows a position: the identifier after it, or the end. -/
def next (k : Nat) : ι := (chain.ids[k + 1]?).getD chain.last

/-- What a position is reached by. -/
def idAt : Nat → ι
  | 0 => chain.first
  | k + 1 => chain.next k

/-- What names a position: its identifier, and at the beginning the reserved one. -/
def names (k : Nat) : List ι := (chain.ids[k]?).toList ++ if k = 0 then [chain.first] else []

variable {chain} {j k : Nat} {id : ι}

theorem ne_first (held : chain.ids[k]? = some id) : id ≠ chain.first := fun same =>
  chain.notFirst (same ▸ List.mem_of_getElem? held)

theorem ne_last (held : chain.ids[k]? = some id) : id ≠ chain.last := fun same =>
  chain.notLast (same ▸ List.mem_of_getElem? held)

/-- The chain comes to an identifier once. -/
theorem position_unique (early : chain.ids[j]? = some id) (late : chain.ids[k]? = some id) :
    j = k := by
  obtain ⟨bound, -⟩ := List.getElem?_eq_some_iff.mp early
  exact (List.getElem?_inj bound chain.acyclic).mp (early.trans late.symm)

theorem mem_names :
    id ∈ chain.names k ↔ chain.ids[k]? = some id ∨ k = 0 ∧ id = chain.first := by
  rw [names, List.mem_append]
  by_cases first : k = 0 <;> simp [first]

/-- An identifier names one position. -/
theorem names_unique (early : id ∈ chain.names j) (late : id ∈ chain.names k) : j = k := by
  rw [mem_names] at early late
  rcases early with early | ⟨rfl, rfl⟩
  · rcases late with late | ⟨-, rfl⟩
    · exact position_unique early late
    · exact absurd rfl (ne_first early)
  · rcases late with late | ⟨rfl, -⟩
    · exact absurd rfl (ne_first late)
    · rfl

/-- A position is reached by one of its names. -/
theorem idAt_names (held : chain.ids[k]? = some id) :
    chain.idAt k ∈ chain.names k ∧ (k = 0 ∧ chain.idAt k = chain.first ∨ k ≠ 0 ∧ chain.idAt k = id) := by
  rw [mem_names]
  cases k with
  | zero => exact ⟨.inr ⟨rfl, rfl⟩, .inl ⟨rfl, rfl⟩⟩
  | succ k =>
    have named : chain.idAt (k + 1) = id := by rw [idAt, next, held, Option.getD_some]
    exact ⟨.inl (named ▸ held), .inr ⟨Nat.succ_ne_zero k, named⟩⟩

/-- What follows a position is another identifier, or the end. -/
theorem next_ne (distinct : chain.first ≠ chain.last) (held : chain.ids[k]? = some id) :
    chain.next k ≠ chain.first ∧ chain.next k ≠ id := by
  unfold next
  cases following : chain.ids[k + 1]? with
  | none => exact ⟨distinct.symm, (ne_last held).symm⟩
  | some after =>
    rw [Option.getD_some]
    refine ⟨ne_first following, fun same => ?_⟩
    exact absurd (position_unique following (same ▸ held)) (Nat.succ_ne_self k)

/-- What comes later is not among what came before. -/
theorem notMem_take (held : chain.ids[k]? = some id) : id ∉ chain.ids.take k := by
  intro early
  obtain ⟨j, before, found⟩ := List.mem_take_iff_getElem.mp early
  have position := position_unique (List.getElem?_eq_some_iff.mpr ⟨_, found⟩) held
  omega

/-- Past the last identifier is the end. -/
theorem idAt_length (nonempty : chain.ids ≠ []) : chain.idAt chain.ids.length = chain.last := by
  obtain ⟨k, length⟩ := Nat.exists_eq_succ_of_ne_zero (List.length_eq_zero_iff.not.mpr nonempty)
  have past : chain.ids[k + 1]? = none := by
    rw [List.getElem?_eq_none_iff]
    omega
  rw [length, idAt, next, past, Option.getD_none]

end Chain
end IpmiRs.Library
