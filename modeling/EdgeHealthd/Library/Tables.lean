/-!
Lists as tables whose rows are named by their place. Rows are changed or added at the
end, never removed, so a property of every row needs a proof for the changed row only.
-/

namespace Table

variable {Row : Type} {rows : List Row} {row found : Row} {index place : Nat}

theorem read_set (read : (rows.set index row)[place]? = some found) :
    (place = index ∧ found = row) ∨ (place ≠ index ∧ rows[place]? = some found) := by
  rw [List.getElem?_set] at read
  split at read
  · rename_i same
    split at read
    · exact Or.inl ⟨same.symm, (Option.some.inj read).symm⟩
    · cases read
  · rename_i distinct
    exact Or.inr ⟨fun same => distinct same.symm, read⟩

theorem read_snoc (read : (rows ++ [row])[place]? = some found) :
    (place < rows.length ∧ rows[place]? = some found) ∨ (place = rows.length ∧ row = found) := by
  by_cases bound : place < rows.length
  · rw [List.getElem?_append_left bound] at read
    exact Or.inl ⟨bound, read⟩
  · rw [List.getElem?_append_right (Nat.le_of_not_lt bound), List.getElem?_singleton] at read
    split at read
    · exact Or.inr ⟨by omega, Option.some.inj read⟩
    · cases read

theorem set_read (present : rows[index]? = some found) :
    (rows.set index row)[index]? = some row := by
  have bound : index < rows.length := by
    rw [List.getElem?_eq_some_iff] at present
    exact present.1
  rw [List.getElem?_set_self bound]

theorem set_read_of_ne (distinct : place ≠ index) :
    (rows.set index row)[place]? = rows[place]? :=
  List.getElem?_set_ne (Ne.symm distinct)

def Everywhere (holds : Nat → Row → Prop) (rows : List Row) : Prop :=
  ∀ place row, rows[place]? = some row → holds place row

namespace Everywhere

variable {holds other : Nat → Row → Prop}

theorem nil : Everywhere holds ([] : List Row) := by
  intro place row read
  cases read

theorem set (all : Everywhere holds rows) (changed : holds index row) :
    Everywhere holds (rows.set index row) := by
  intro place found read
  rcases read_set read with ⟨rfl, rfl⟩ | ⟨_, before⟩
  · exact changed
  · exact all place found before

theorem snoc (all : Everywhere holds rows) (added : holds rows.length row) :
    Everywhere holds (rows ++ [row]) := by
  intro place found read
  rcases read_snoc read with ⟨_, before⟩ | ⟨rfl, rfl⟩
  · exact all place found before
  · exact added

theorem imp (all : Everywhere holds rows) (weaker : ∀ place row, holds place row → other place row) :
    Everywhere other rows :=
  fun place row read => weaker place row (all place row read)

end Everywhere

end Table
