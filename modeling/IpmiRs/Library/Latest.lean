import Mathlib.Data.List.Infix

/-! The latest marked event of a history, with the value it had when it came. -/
namespace IpmiRs.Library.Latest

universe u v

variable {α : Type u} {β : Type v} (marked : α → Bool) (value : List α → β)

/-- The value of the longest part of a history that ends in a marked event. -/
def latest (history : List α) : Option β :=
  ((history.inits.filter fun part => part.getLast?.any marked).getLast?).map value

/-- No event has come yet. -/
@[simp] theorem latest_nil : latest marked value [] = none := rfl

/-- A marked event is the latest one. -/
theorem latest_marked {history : List α} {event : α} (mark : marked event = true) :
    latest marked value (history ++ [event]) = some (value (history ++ [event])) := by
  simp [latest, List.filter_append, mark]

/-- Any other event leaves the latest one as it was. -/
theorem latest_unmarked {history : List α} {event : α} (plain : marked event = false) :
    latest marked value (history ++ [event]) = latest marked value history := by
  simp [latest, List.filter_append, plain]

end IpmiRs.Library.Latest
