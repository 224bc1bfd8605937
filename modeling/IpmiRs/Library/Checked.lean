import Mathlib.Algebra.Order.Ring.Nat
import Mathlib.Data.List.Basic

/-! Code that may fail, and would panic on a missing element. A panic is an
outcome of its own, so that proving it away is proving every access in range. -/
namespace IpmiRs.Library

/-- A computation that returns, fails with an error, or panics. -/
abbrev Checked (ε α : Type) := ExceptT ε Option α

namespace Checked
variable {ε α β : Type}

instance [DecidableEq ε] [DecidableEq α] : DecidableEq (Checked ε α) :=
  inferInstanceAs (DecidableEq (Option (Except ε α)))

def panicked : Checked ε α := (none : Option (Except ε α))

/-- A sequence that returns has returned from its first part. -/
theorem of_bind_eq_pure {x : Checked ε α} {f : α → Checked ε β} {result : β}
    (returned : x >>= f = pure result) : ∃ value, x = pure value ∧ f value = pure result := by
  cases ran : x.run with
  | none =>
    have : x = panicked := ran
    subst this
    cases returned
  | some outcome =>
    cases outcome with
    | ok value =>
      have : x = pure value := ran
      subst this
      exact ⟨value, rfl, returned⟩
    | error error =>
      have : x = throw error := ran
      subst this
      cases returned

/-- A check that returns was passed. -/
theorem of_check_eq_pure {fails : Prop} [Decidable fails] {error : ε} {x : Checked ε α} {result : α}
    (returned : (if fails then throw error else x) = pure result) : ¬fails ∧ x = pure result := by
  by_cases failed : fails
  · rw [if_pos failed] at returned
    cases returned
  · exact ⟨failed, by rwa [if_neg failed] at returned⟩

/-- `xs[i]` -/
def index (xs : List α) (i : Nat) : Checked ε α := xs[i]?.elim panicked pure

theorem index_zero (x : α) (xs : List α) : (index (x :: xs) 0 : Checked ε α) = pure x := rfl

theorem index_succ (x : α) (xs : List α) (i : Nat) :
    (index (x :: xs) (i + 1) : Checked ε α) = index xs i := rfl

/-- The elements from `low` up to `high`, if there are that many. -/
def range (xs : List α) (low high : Nat) : Option (List α) :=
  if low ≤ high ∧ high ≤ xs.length then some ((xs.take high).drop low) else none

/-- `xs[low..high]` -/
def slice (xs : List α) (low high : Nat) : Checked ε (List α) := (range xs low high).elim panicked pure

/-- `a - b`, of numbers that have no sign. -/
def sub (a b : Nat) : Checked ε Nat := if b ≤ a then pure (a - b) else panicked

/-- The next element of an iterator, unwrapped. -/
def next : List α → Checked ε (α × List α)
  | [] => panicked
  | x :: xs => pure (x, xs)

/-- How wide the lengths and indices of a machine are. -/
inductive PointerWidth where
  | bits32
  | bits64
  deriving DecidableEq

/-- `usize::MAX` -/
def PointerWidth.usizeMax : PointerWidth → Nat
  | .bits32 => 2 ^ 32 - 1
  | .bits64 => 2 ^ 64 - 1

/-- The most bytes a slice can have, `isize::MAX`. -/
def PointerWidth.isizeMax : PointerWidth → Nat
  | .bits32 => 2 ^ 31 - 1
  | .bits64 => 2 ^ 63 - 1

/-- `a + b`, of lengths. -/
def add (width : PointerWidth) (a b : Nat) : Checked ε Nat :=
  if a + b ≤ width.usizeMax then pure (a + b) else panicked

/-- `a + b`, of bytes. -/
def addByte (a b : UInt8) : Checked ε UInt8 :=
  if a.toNat + b.toNat < 256 then pure (a + b) else panicked

/-- `xs.split_at(mid)` -/
def splitAt (xs : List α) (mid : Nat) : Checked ε (List α × List α) :=
  if mid ≤ xs.length then pure (xs.take mid, xs.drop mid) else panicked

/-- An array of `n` elements out of a slice, unwrapped. -/
def fixed (n : Nat) (xs : List α) : Checked ε (List α) :=
  if xs.length = n then pure xs else panicked

def okOr (value : Option α) (error : ε) : Checked ε α := value.elim (throw error) pure

/-- A computation that may fail, and cannot panic. -/
def total (x : Except ε α) : Checked ε α := (some x : Option (Except ε α))

@[simp] theorem total_ok (value : α) : (total (.ok value) : Checked ε α) = pure value := rfl

theorem map_total (f : α → β) (x : Except ε α) : f <$> total x = total (x.map f) := by
  cases x <;> rfl

/-- What comes to something total does not panic itself. -/
theorem of_map_eq_total {f : α → β} {x : Checked ε α} {y : Except ε β} (same : f <$> x = total y) :
    ∃ z, x = total z ∧ z.map f = y := by
  match x with
  | none => cases same
  | some z => exact ⟨z, rfl, Option.some.inj ((map_total f z).symm.trans same)⟩

theorem of_bind_eq_ok {x : Except ε α} {f : α → Except ε β} {result : β} (returned : x >>= f = .ok result) :
    ∃ value, x = .ok value ∧ f value = .ok result := by
  cases x with
  | error error => cases returned
  | ok value => exact ⟨value, rfl, returned⟩

theorem bind_eq_ok {x : Except ε α} {f : α → Except ε β} {result : β} :
    x >>= f = .ok result ↔ ∃ value, x = .ok value ∧ f value = .ok result := by
  constructor
  · exact of_bind_eq_ok
  · rintro ⟨value, rfl, returned⟩
    exact returned

/-- A match with an arm for each number below `arms`, and none that can be reached after them. -/
def covered (value arms : Nat) : Checked ε Unit := if value < arms then pure () else panicked

theorem covered_eq {value arms : Nat} (below : value < arms) : (covered value arms : Checked ε Unit) = pure () :=
  if_pos below

/-- What a computation that does not panic comes to. -/
def outcome (x : Checked ε α) (runs : x.run.isSome) : Except ε α := x.run.get runs

theorem of_outcome_eq_ok {x : Checked ε α} {runs : x.run.isSome} {value : α}
    (came : outcome x runs = .ok value) : x = pure value := by
  have ran := Option.some_get runs
  rw [outcome] at came
  rw [came] at ran
  exact ran.symm

/-- `x.expect(message)`, of a computation that returns. -/
def returned (x : Checked ε α) (returns : (x.run.bind Except.toOption).isSome) : α :=
  (x.run.bind Except.toOption).get returns

/-- The computation does not panic, and what it returns satisfies `P`. -/
def Yields (P : α → Prop) (x : Checked ε α) : Prop :=
  match x.run with
  | some (.ok value) => P value
  | some (.error _) => True
  | none => False

variable {P Q : α → Prop}

theorem Yields.pure {value : α} (holds : P value) : Yields P (pure value : Checked ε α) := holds

theorem Yields.throw (error : ε) : Yields P (throw error : Checked ε α) := trivial

theorem Yields.mono {x : Checked ε α} (first : Yields P x) (weaker : ∀ value, P value → Q value) :
    Yields Q x := by
  unfold Yields at first ⊢
  split
  · rename_i value returned
    rw [returned] at first
    exact weaker value first
  · trivial
  · rename_i panics
    rw [panics] at first
    exact first

theorem Yields.bind {x : Checked ε α} {f : α → Checked ε β} {R : β → Prop} (first : Yields P x)
    (next : ∀ value, P value → Yields R (f value)) : Yields R (x >>= f) := by
  match x with
  | some (.ok value) => exact next value first
  | some (.error error) => trivial
  | none => exact first.elim

theorem yields_check {fails : Prop} [Decidable fails] {error : ε} {x : Checked ε α}
    (passed : ¬fails → Yields P x) : Yields P (if fails then throw error else x) := by
  by_cases failed : fails
  · rw [if_pos failed]
    exact .throw error
  · rw [if_neg failed]
    exact passed failed

/-- What satisfies `P` is what the computation returns. -/
theorem Yields.self {x : Checked ε α} (holds : Yields P x) :
    Yields (fun value => x = Pure.pure value ∧ P value) x := by
  match x with
  | some (.ok value) => exact ⟨rfl, holds⟩
  | some (.error error) => trivial
  | none => exact holds.elim

/-- A computation that yields something does not panic. -/
theorem Yields.returns {x : Checked ε α} (holds : Yields P x) : ∃ result, x = some result := by
  match x with
  | some result => exact ⟨result, rfl⟩
  | none => exact holds.elim

theorem Yields.ne_panicked {x : Checked ε α} (holds : Yields P x) : x ≠ panicked := by
  rintro rfl
  exact holds

theorem Yields.ok {x : Checked ε α} (holds : Yields P x) {value : α}
    (returned : x = some (.ok value)) : P value := by
  subst returned
  exact holds

/-- Whatever error the computation fails with satisfies `E`. -/
def Fails (E : ε → Prop) (x : Checked ε α) : Prop :=
  match x.run with
  | some (.error error) => E error
  | _ => True

theorem Fails.pure {E : ε → Prop} (value : α) : Fails E (pure value : Checked ε α) := trivial

theorem Fails.throw {E : ε → Prop} {error : ε} (holds : E error) : Fails E (throw error : Checked ε α) := holds

theorem Fails.bind {E : ε → Prop} {x : Checked ε α} {f : α → Checked ε β} (first : Fails E x)
    (next : ∀ value, Fails E (f value)) : Fails E (x >>= f) := by
  match x with
  | some (.ok value) => exact next value
  | some (.error error) => exact first
  | none => trivial

theorem Fails.elim {E : ε → Prop} (value : Option α) : Fails E (value.elim Checked.panicked Pure.pure : Checked ε α) := by
  cases value <;> trivial

theorem fails_sub {E : ε → Prop} (a b : Nat) : Fails E (sub a b : Checked ε Nat) := by
  unfold sub
  split <;> trivial

theorem yields_index {xs : List α} {i : Nat} (inside : i < xs.length) :
    Yields (fun x => xs[i]? = some x) (index xs i : Checked ε α) := by
  unfold index
  rw [List.getElem?_eq_getElem inside]
  exact rfl

theorem range_eq_some {xs ys : List α} {low high : Nat} (found : range xs low high = some ys) :
    low ≤ high ∧ high ≤ xs.length ∧ ys = (xs.take high).drop low := by
  unfold range at found
  split at found
  · rename_i inside
    exact ⟨inside.1, inside.2, (Option.some.inj found).symm⟩
  · cases found

/-- What lies in a range, between what is before and after it. -/
theorem range_eq_some_iff {xs ys : List α} {low high : Nat} :
    range xs low high = some ys ↔
      ∃ before after, xs = before ++ (ys ++ after) ∧ before.length = low ∧ low + ys.length = high := by
  constructor
  · intro found
    obtain ⟨ordered, inside, rfl⟩ := range_eq_some found
    refine ⟨xs.take low, xs.drop high, ?_, List.length_take_of_le (Nat.le_trans ordered inside), ?_⟩
    · have front : xs.take low = (xs.take high).take low := by rw [List.take_take, Nat.min_eq_left ordered]
      rw [front, ← List.append_assoc, List.take_append_drop, List.take_append_drop]
    · rw [List.length_drop, List.length_take_of_le inside]
      omega
  · rintro ⟨before, after, rfl, rfl, rfl⟩
    have inside : before.length + ys.length ≤ (before ++ (ys ++ after)).length := by
      rw [List.length_append, List.length_append]
      omega
    unfold range
    rw [if_pos ⟨Nat.le_add_right _ _, inside⟩, ← List.append_assoc, ← List.length_append, List.take_left,
      List.drop_left]

theorem yields_slice {xs : List α} {low high : Nat} (ordered : low ≤ high)
    (inside : high ≤ xs.length) :
    Yields (fun ys => ys = (xs.take high).drop low) (slice xs low high : Checked ε (List α)) := by
  unfold slice range
  rw [if_pos ⟨ordered, inside⟩]
  exact rfl

theorem index_eq [Inhabited α] {xs : List α} {i : Nat} (inside : i < xs.length) :
    (index xs i : Checked ε α) = pure xs[i]! := by
  rw [index, List.getElem?_eq_getElem inside, getElem!_pos xs i inside]
  rfl

theorem slice_eq {xs : List α} {low high : Nat} (ordered : low ≤ high) (inside : high ≤ xs.length) :
    (slice xs low high : Checked ε (List α)) = pure ((xs.take high).drop low) := by
  rw [slice, range, if_pos ⟨ordered, inside⟩]
  rfl

theorem mapM_eq_pure {f : α → Checked ε β} {g : α → β} {xs : List α}
    (all : ∀ x ∈ xs, f x = pure (g x)) : xs.mapM f = pure (xs.map g) := by
  induction xs with
  | nil => rfl
  | cons x xs ih =>
    rw [List.forall_mem_cons] at all
    rw [List.mapM_cons, all.1, ih all.2]
    rfl

/-- A step for each element and its position, none of which fails. -/
theorem mapM_zipIdx_eq_pure {f : α × Nat → Checked ε β} {g : Nat → β} {xs : List α}
    (all : ∀ (i : Nat) (inside : i < xs.length), f (xs[i], i) = pure (g i)) :
    xs.zipIdx.mapM f = pure ((List.range xs.length).map g) := by
  have each : ∀ x ∈ xs.zipIdx, f x = pure ((g ∘ Prod.snd) x) := by
    intro x member
    obtain ⟨inside, found⟩ := List.getElem?_eq_some_iff.mp (List.mem_zipIdx_iff_getElem?.mp member)
    have same := all x.2 inside
    rwa [found] at same
  rw [mapM_eq_pure each, ← List.map_map, List.zipIdx_map_snd, List.range_eq_range']

theorem slice_tail (x : α) (xs : List α) :
    (slice (x :: xs) 1 (x :: xs).length : Checked ε (List α)) = pure xs := by
  rw [slice_eq (by simp) (Nat.le_refl _), List.take_length, List.drop_one, List.tail_cons]

theorem sub_eq {a b : Nat} (enough : b ≤ a) : (sub a b : Checked ε Nat) = pure (a - b) := by
  rw [sub, if_pos enough]

/-- The length of a slice and a few bytes more. -/
theorem add_eq {width : PointerWidth} {a b : Nat} (slice : a ≤ width.isizeMax) (few : b ≤ 256) :
    (add width a b : Checked ε Nat) = pure (a + b) := by
  rw [add, if_pos]
  cases width <;>
    simp only [PointerWidth.isizeMax, PointerWidth.usizeMax, Nat.reducePow, Nat.reduceSub] at slice ⊢ <;>
    omega

theorem splitAt_eq {xs : List α} {mid : Nat} (inside : mid ≤ xs.length) :
    (splitAt xs mid : Checked ε (List α × List α)) = pure (xs.take mid, xs.drop mid) := by
  rw [splitAt, if_pos inside]

theorem fixed_eq {n : Nat} {xs : List α} (exact : xs.length = n) :
    (fixed n xs : Checked ε (List α)) = pure xs := by
  rw [fixed, if_pos exact]

theorem yields_sub {a b : Nat} (enough : b ≤ a) :
    Yields (fun c => c = a - b) (sub a b : Checked ε Nat) := by
  unfold sub
  rw [if_pos enough]
  exact rfl

theorem yields_next {xs : List α} {n : Nat} (more : n + 1 ≤ xs.length) :
    Yields (fun r => xs = r.1 :: r.2 ∧ n ≤ r.2.length) (next xs : Checked ε (α × List α)) := by
  cases xs with
  | nil => simp at more
  | cons x xs => exact ⟨rfl, by simpa using more⟩

theorem yields_okOr (value : Option α) (error : ε) :
    Yields (fun found => value = some found) (okOr value error) := by
  cases value with
  | none => trivial
  | some found => exact rfl

end Checked
end IpmiRs.Library
