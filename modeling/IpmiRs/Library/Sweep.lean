import Mathlib.Data.List.Basic
import Mathlib.Algebra.Order.Ring.Nat

/-! Loops over an array that rewrite it in place: each element is rewritten from
its old value and from what the elements before it have left behind. -/
namespace IpmiRs.Library.Sweep

variable {α β : Type*}

/-- The elements rewritten from the `i`-th on, and what is left behind at the end. -/
def sweep (rewrite : Nat → α → β → α × β) : Nat → List α → β → List α × β
  | _, [], carried => ([], carried)
  | i, x :: xs, carried =>
    let (new, carried) := rewrite i x carried
    let (rest, carried) := sweep rewrite (i + 1) xs carried
    (new :: rest, carried)

variable {rewrite : Nat → α → β → α × β}

theorem sweep_cons (i : Nat) (x : α) (xs : List α) (carried : β) :
    sweep rewrite i (x :: xs) carried =
      ((rewrite i x carried).1 :: (sweep rewrite (i + 1) xs (rewrite i x carried).2).1,
        (sweep rewrite (i + 1) xs (rewrite i x carried).2).2) := rfl

@[simp] theorem length_sweep (i : Nat) (xs : List α) (carried : β) :
    (sweep rewrite i xs carried).1.length = xs.length := by
  induction xs generalizing i carried with
  | nil => rfl
  | cons x xs ih => exact congrArg Nat.succ (ih _ _)

/-- The last element is rewritten after all the others. -/
theorem sweep_concat (i : Nat) (xs : List α) (x : α) (carried : β) :
    sweep rewrite i (xs ++ [x]) carried =
      ((sweep rewrite i xs carried).1 ++ [(rewrite (i + xs.length) x (sweep rewrite i xs carried).2).1],
        (rewrite (i + xs.length) x (sweep rewrite i xs carried).2).2) := by
  induction xs generalizing i carried with
  | nil => rfl
  | cons first xs ih =>
    have moved : i + (first :: xs).length = i + 1 + xs.length := by
      rw [List.length_cons]
      omega
    rw [List.cons_append, sweep_cons, sweep_cons, ih, moved, List.cons_append]

/-- Where each element is rewritten to what it leaves behind, the last one is left behind. -/
theorem carried_eq_getLast (rewrite : Nat → α → α → α × α)
    (same : ∀ i x carried, (rewrite i x carried).1 = (rewrite i x carried).2) (i : Nat)
    (xs : List α) (carried : α) :
    (sweep rewrite i xs carried).2 = (sweep rewrite i xs carried).1.getLast?.getD carried := by
  induction xs generalizing i carried with
  | nil => rfl
  | cons x xs ih =>
    rw [sweep_cons, ih, List.getLast?_cons, same]
    rfl

/-- A loop that counts goes over the numbers in order. -/
theorem fold_eq_foldl_range (step : Nat → β → β) (n : Nat) (state : β) :
    Nat.fold n (fun i _ => step i) state = (List.range n).foldl (fun state i => step i state) state := by
  induction n with
  | zero => rfl
  | succ n ih => rw [Nat.fold_succ, ih, List.range_succ, List.foldl_concat]

/-- The loop over the places of an array does what `rewrite` says to its elements, in order. -/
theorem fold_eq_sweep {n : Nat} (rewrite : Nat → α → β → α × β)
    (step : (i : Nat) → i < n → Vector α n × β → Vector α n × β)
    (rewrites : ∀ i (inside : i < n) state, step i inside state =
      (state.1.set i (rewrite i state.1[i] state.2).1, (rewrite i state.1[i] state.2).2))
    (array : Vector α n) (carried : β) :
    ((Nat.fold n step (array, carried)).1.toList, (Nat.fold n step (array, carried)).2) =
      sweep rewrite 0 array.toList carried := by
  -- After `k` steps the first `k` elements are rewritten, and the others are as they were.
  have reached : ∀ k (within : k ≤ n),
      let state := Nat.fold k (fun i inside => step i (Nat.lt_of_lt_of_le inside within)) (array, carried)
      state.1.toList = (sweep rewrite 0 (array.toList.take k) carried).1 ++ array.toList.drop k ∧
        state.2 = (sweep rewrite 0 (array.toList.take k) carried).2 := by
    intro k
    induction k with
    | zero => exact fun _ => ⟨rfl, rfl⟩
    | succ k ih =>
      intro within
      obtain ⟨elements, left⟩ := ih (Nat.le_of_succ_le within)
      have inside : k < array.toList.length := by rwa [Vector.length_toList]
      have length : (sweep rewrite 0 (array.toList.take k) carried).1.length = k := by
        rw [length_sweep, List.length_take_of_le (Nat.le_of_lt inside)]
      have rest := List.drop_eq_getElem_cons inside
      rw [Nat.fold_succ, rewrites]
      generalize Nat.fold k _ _ = state at elements left
      have old : state.1[k] = array.toList[k] := by
        have found : state.1.toList[k]? = some array.toList[k] := by
          rw [elements, List.getElem?_append_right (Nat.le_of_eq length), length, Nat.sub_self, rest]
          rfl
        rwa [Vector.getElem?_toList, Vector.getElem?_eq_getElem, Option.some_inj] at found
      rw [List.take_succ_eq_append_getElem inside, sweep_concat, List.length_take_of_le (Nat.le_of_lt inside),
        Nat.zero_add, left, old]
      refine ⟨?_, rfl⟩
      rw [Vector.toList_set, elements, List.set_append_right _ _ (Nat.le_of_eq length), length, Nat.sub_self,
        rest, List.set_cons_zero, List.append_assoc, List.singleton_append]
  obtain ⟨elements, left⟩ := reached n (Nat.le_refl n)
  have all : array.toList.take n = array.toList := List.take_of_length_le (Nat.le_of_eq Vector.length_toList)
  have none : array.toList.drop n = [] := List.drop_of_length_le (Nat.le_of_eq Vector.length_toList)
  rw [all, none, List.append_nil] at elements
  rw [all] at left
  exact Prod.ext elements left

end IpmiRs.Library.Sweep
