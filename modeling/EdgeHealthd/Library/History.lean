import Mathlib.Order.Defs.LinearOrder
import Mathlib.Data.List.Basic
import Mathlib.Algebra.Order.Monoid.Defs

/-!
The latest observation in a history, and when it is too old. A history is a list
of items in the order they happened; an item may or may not carry an observation.
-/

namespace History

variable {Item Value Time : Type*}

def latest (observe : Item → Option Value) (items : List Item) : Option Value :=
  (items.filterMap observe).getLast?

theorem latest_snoc (observe : Item → Option Value) (items : List Item) (item : Item) :
    latest observe (items ++ [item]) = (observe item).or (latest observe items) := by
  cases seen : observe item with
  | none => simp [latest, List.filterMap_append, seen]
  | some value => simp [latest, List.filterMap_append, seen]

theorem latest_isSome_iff (observe : Item → Option Value) (items : List Item) :
    (latest observe items).isSome ↔ ∃ item ∈ items, (observe item).isSome := by
  rw [latest, Option.isSome_iff_ne_none, ne_eq, List.getLast?_eq_none_iff,
    List.filterMap_eq_nil_iff]
  simp only [not_forall, exists_prop, Option.isSome_iff_ne_none, ne_eq]

theorem latest_append_silent (observe : Item → Option Value) (items more : List Item)
    (silent : ∀ item ∈ more, observe item = none) :
    latest observe (items ++ more) = latest observe items := by
  have empty : more.filterMap observe = [] := List.filterMap_eq_nil_iff.mpr silent
  simp [latest, List.filterMap_append, empty]

section Age

variable [AddCommMonoid Time] [LinearOrder Time] [IsOrderedAddMonoid Time]

/-- Something was seen, but longer than `window` before `now`. -/
def Overdue (window : Time) (seen : Option Time) (now : Time) : Prop :=
  ∃ time, seen = some time ∧ time + window < now

omit [IsOrderedAddMonoid Time] in
theorem Overdue.later {window now later : Time} {seen : Option Time}
    (overdue : Overdue window seen now) (order : now ≤ later) : Overdue window seen later := by
  obtain ⟨time, found, passed⟩ := overdue
  exact ⟨time, found, lt_of_lt_of_le passed order⟩

theorem not_overdue_now {window now : Time} (nonneg : 0 ≤ window) :
    ¬Overdue window (some now) now := by
  rintro ⟨time, found, passed⟩
  obtain rfl := Option.some.inj found
  exact absurd (le_add_of_nonneg_right nonneg) (not_le_of_gt passed)

end Age

end History
