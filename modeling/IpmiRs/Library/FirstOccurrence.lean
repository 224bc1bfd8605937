import Mathlib.Data.List.Basic
import Mathlib.Data.List.Nodup

/-! Each value of a list once, in the order of the first occurrences: what is
left when a loop pushes the values that it has not pushed before. -/
namespace IpmiRs.Library.FirstOccurrence

universe u

variable {α : Type u} [DecidableEq α]

/-- Every value of the one list stands once in the other, and no later than the
values that come after it. -/
structure FirstOccurrences (values distinct : List α) : Prop where
  once : distinct.Nodup
  mem : ∀ value, value ∈ distinct ↔ value ∈ values
  order : distinct.Pairwise fun first second => values.idxOf first < values.idxOf second

/-- A value is pushed unless it is there. -/
def pushNew (distinct : List α) (value : α) : List α :=
  if distinct.contains value then distinct else distinct ++ [value]

theorem FirstOccurrences.nil : FirstOccurrences ([] : List α) [] where
  once := List.nodup_nil
  mem _ := Iff.rfl
  order := .nil

/-- Pushing the next value keeps the first occurrences. -/
theorem FirstOccurrences.pushNew {values distinct : List α} (first : FirstOccurrences values distinct)
    (value : α) : FirstOccurrences (values ++ [value]) (pushNew distinct value) := by
  have still : distinct.Pairwise fun one two =>
      (values ++ [value]).idxOf one < (values ++ [value]).idxOf two := by
    refine first.order.imp_of_mem fun one two before => ?_
    rwa [List.idxOf_append_of_mem ((first.mem _).mp one), List.idxOf_append_of_mem ((first.mem _).mp two)]
  by_cases there : value ∈ distinct
  · rw [FirstOccurrence.pushNew, if_pos (by simpa using there)]
    refine ⟨first.once, fun other => ?_, still⟩
    rw [first.mem, List.mem_append, List.mem_singleton]
    constructor
    · exact .inl
    · rintro (old | rfl)
      · exact old
      · exact (first.mem _).mp there
  · have fresh : value ∉ values := fun old => there ((first.mem _).mpr old)
    rw [FirstOccurrence.pushNew, if_neg (by simpa using there)]
    refine ⟨?_, fun other => ?_, ?_⟩
    · rw [← List.concat_eq_append]
      exact first.once.concat there
    · rw [List.mem_append, List.mem_append, first.mem]
    · rw [List.pairwise_append]
      refine ⟨still, List.pairwise_singleton _ _, fun one old two last => ?_⟩
      rw [List.mem_singleton] at last
      subst last
      have before := (first.mem _).mp old
      rw [List.idxOf_append_of_mem before, List.idxOf_append_of_notMem fresh]
      exact Nat.lt_of_lt_of_le (List.idxOf_lt_length_of_mem before) (Nat.le_add_right _ _)

/-- A loop that pushes new values ends with the first occurrences. -/
theorem FirstOccurrences.foldl {values distinct : List α} (first : FirstOccurrences values distinct)
    (rest : List α) : FirstOccurrences (values ++ rest) (rest.foldl FirstOccurrence.pushNew distinct) := by
  induction rest generalizing values distinct with
  | nil => rwa [List.append_nil]
  | cons value rest ih =>
    have next := ih (first.pushNew value)
    rwa [List.append_assoc, List.singleton_append] at next

/-- A value that does not occur stays in front. -/
theorem foldl_pushNew_cons {value : α} {rest : List α} (absent : value ∉ rest) (distinct : List α) :
    rest.foldl pushNew (value :: distinct) = value :: rest.foldl pushNew distinct := by
  induction rest generalizing distinct with
  | nil => rfl
  | cons next rest ih =>
    rw [List.mem_cons, not_or] at absent
    have pushed : pushNew (value :: distinct) next = value :: pushNew distinct next := by
      have other : (next == value) = false := by simpa using Ne.symm absent.1
      unfold pushNew
      rw [List.contains_cons, other, Bool.false_or, List.cons_append, apply_ite (List.cons value)]
    rw [List.foldl_cons, List.foldl_cons, pushed, ih absent.2]

end IpmiRs.Library.FirstOccurrence
