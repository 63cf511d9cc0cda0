import Mathlib.Order.Bounds.Basic
import Mathlib.Order.MinMax

/-!
Worst-wins roll-ups over an arbitrary linear order: folding `max` over the
grades of a list computes the greatest grade present. The set of grades decides
the result, so order and repetition do not.
-/

namespace Rollup

variable {Item Grade : Type*}

def grades (grade : Item → Grade) (items : List Item) : Set Grade :=
  fun value => ∃ item ∈ items, value = grade item

@[simp] theorem mem_grades (grade : Item → Grade) (items : List Item) (value : Grade) :
    value ∈ grades grade items ↔ ∃ item ∈ items, value = grade item := Iff.rfl

theorem exists_mem_grades (grade : Item → Grade) (items : List Item) (property : Grade → Prop) :
    (∃ value, value ∈ grades grade items ∧ property value) ↔
      ∃ item ∈ items, property (grade item) := by
  constructor
  · rintro ⟨value, ⟨item, member, rfl⟩, holds⟩
    exact ⟨item, member, holds⟩
  · rintro ⟨item, member, holds⟩
    exact ⟨grade item, ⟨item, member, rfl⟩, holds⟩

theorem grades_mono (grade : Item → Grade) {first second : List Item}
    (subset : first ⊆ second) : grades grade first ⊆ grades grade second := by
  rintro value ⟨item, member, equal⟩
  exact ⟨item, subset member, equal⟩

theorem grades_perm (grade : Item → Grade) {first second : List Item}
    (perm : first.Perm second) : grades grade first = grades grade second :=
  Set.Subset.antisymm (grades_mono grade perm.subset) (grades_mono grade perm.symm.subset)

theorem foldl_max_isGreatest [LinearOrder Grade] (grade : Item → Grade) (items : List Item)
    (start : Grade) :
    IsGreatest (insert start (grades grade items))
      (items.foldl (fun worst item => max worst (grade item)) start) := by
  induction items generalizing start with
  | nil =>
      refine ⟨Set.mem_insert _ _, ?_⟩
      rintro value (same | ⟨item, member, _⟩)
      · exact le_of_eq same
      · simp at member
  | cons item rest ih =>
      have tail := ih (max start (grade item))
      simp only [List.foldl_cons]
      constructor
      · rcases tail.1 with first | ⟨other, member, equal⟩
        · rw [first]
          rcases max_choice start (grade item) with chosen | chosen
          · exact Or.inl chosen
          · exact Or.inr ⟨item, by simp, chosen⟩
        · exact Or.inr ⟨other, by simp [member], equal⟩
      · have lower := tail.2 (Set.mem_insert _ _)
        rintro value (same | ⟨other, member, equal⟩)
        · subst value
          exact le_trans (le_max_left _ _) lower
        · subst value
          rcases List.mem_cons.mp member with same | later
          · subst other
            exact le_trans (le_max_right _ _) lower
          · exact tail.2 (Set.mem_insert_of_mem _ ⟨other, later, rfl⟩)

theorem isGreatest_insert_iff [LinearOrder Grade] {start greatest : Grade} {present : Set Grade}
    (worst : IsGreatest (insert start present) greatest) :
    IsGreatest present greatest ↔ ∃ value ∈ present, start ≤ value := by
  constructor
  · intro exact
    exact ⟨greatest, exact.1, worst.2 (Set.mem_insert _ _)⟩
  · rintro ⟨value, member, above⟩
    have bound : greatest ∈ upperBounds present :=
      fun other listed => worst.2 (Set.mem_insert_of_mem _ listed)
    rcases worst.1 with rfl | listed
    · have same : value = greatest := le_antisymm (bound member) above
      exact ⟨same ▸ member, bound⟩
    · exact ⟨listed, bound⟩

end Rollup
