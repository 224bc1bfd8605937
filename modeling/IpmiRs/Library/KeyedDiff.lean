import Mathlib.Data.List.Basic
import Mathlib.Data.List.Nodup

/-! Lists of keyed items as maps, and the difference between two of them: what
changed, what is missing, and that patching the old map with both is the new
one. -/
namespace IpmiRs.Library.KeyedDiff

universe u v w

variable {α : Type u} {κ : Type v} {ν : Type w} [DecidableEq κ] (key : α → κ) (value : α → ν)

/-- The items collected into a map; of several with one key, the last counts. -/
def toMap (items : List α) (k : κ) : Option ν :=
  (items.reverse.find? fun item => key item = k).map value

/-- The keys of the old items that the new ones lack. -/
def missing (old now : List α) : List κ :=
  (old.map key).filter fun k => (toMap key value now k).isNone

/-- The new items that the old ones lack, or hold with another value. -/
def changed [DecidableEq ν] (old now : List α) : List α :=
  now.filter fun item => toMap key value old (key item) ≠ some (value item)

/-- A map without some keys, overridden with the map of some items. -/
def patch (base : κ → Option ν) (items : List α) (gone : List κ) (k : κ) : Option ν :=
  (toMap key value items k).or (if k ∈ gone then none else base k)

variable {key value}

theorem toMap_eq_none {items : List α} {k : κ} :
    toMap key value items k = none ↔ k ∉ items.map key := by
  simp [toMap]

theorem mem_of_toMap {items : List α} {k : κ} {v : ν} (found : toMap key value items k = some v) :
    ∃ item ∈ items, key item = k ∧ value item = v := by
  obtain ⟨item, here, rfl⟩ := Option.map_eq_some_iff.mp found
  refine ⟨item, ?_, ?_, rfl⟩
  · exact List.mem_reverse.mp (List.mem_of_find?_eq_some here)
  · simpa using List.find?_some here

theorem toMap_isSome_of_mem {items : List α} {item : α} (held : item ∈ items) :
    (toMap key value items (key item)).isSome = true := by
  rw [Option.isSome_iff_ne_none]
  intro absent
  exact toMap_eq_none.mp absent (List.mem_map_of_mem held)

/-- Where keys are distinct, every item is found under its own. -/
theorem toMap_of_mem {items : List α} (distinct : (items.map key).Nodup) {item : α}
    (held : item ∈ items) : toMap key value items (key item) = some (value item) := by
  obtain ⟨v, found⟩ :=
    Option.isSome_iff_exists.mp (toMap_isSome_of_mem held : (toMap key value items _).isSome = true)
  obtain ⟨other, member, same, rfl⟩ := mem_of_toMap found
  rw [found, List.inj_on_of_nodup_map distinct member held same]

theorem mem_missing {old now : List α} {k : κ} :
    k ∈ missing key value old now ↔ k ∈ old.map key ∧ k ∉ now.map key := by
  rw [missing, List.mem_filter, Option.isNone_iff_eq_none, toMap_eq_none]

variable [DecidableEq ν]

theorem mem_changed {old now : List α} {item : α} :
    item ∈ changed key value old now ↔
      item ∈ now ∧ toMap key value old (key item) ≠ some (value item) := by
  simp [changed]

/-- Without the missing keys and overridden with what changed, the old map is
the new one. -/
theorem patch_changed_missing {old now : List α} (distinct : (now.map key).Nodup) :
    patch key value (toMap key value old) (changed key value old now)
      (missing key value old now) = toMap key value now := by
  have few : ((changed key value old now).map key).Nodup :=
    distinct.sublist (List.filter_sublist.map key)
  funext k
  unfold patch
  rcases found : toMap key value (changed key value old now) k with _ | v
  · rw [Option.none_or]
    have kept := toMap_eq_none.mp found
    by_cases held : k ∈ now.map key
    · obtain ⟨item, member, rfl⟩ := List.mem_map.mp held
      rw [if_neg fun gone => (mem_missing.mp gone).2 held, toMap_of_mem distinct member]
      by_contra different
      exact kept (List.mem_map_of_mem (mem_changed.mpr ⟨member, different⟩))
    · rw [toMap_eq_none.mpr held]
      by_cases before : k ∈ old.map key
      · rw [if_pos (mem_missing.mpr ⟨before, held⟩)]
      · rw [if_neg fun gone => before (mem_missing.mp gone).1, toMap_eq_none.mpr before]
  · obtain ⟨item, member, rfl, rfl⟩ := mem_of_toMap found
    rw [Option.some_or, toMap_of_mem distinct (mem_changed.mp member).1]

end IpmiRs.Library.KeyedDiff
