import Mathlib.Data.List.TakeWhile

/-!
Records written one behind the other without a terminator. A field ends where a
symbol stands that it cannot hold; where each record can be told from what follows,
the concatenation determines the records.
-/

namespace Framing

variable {Symbol Record Key : Type*}

theorem append_inj (inside : Symbol → Bool) {first second rest other : List Symbol}
    (firstInside : ∀ symbol ∈ first, inside symbol = true)
    (secondInside : ∀ symbol ∈ second, inside symbol = true)
    (firstEnds : ∀ symbol ∈ rest.head?, inside symbol = false)
    (secondEnds : ∀ symbol ∈ other.head?, inside symbol = false)
    (same : first ++ rest = second ++ other) : first = second ∧ rest = other := by
  have stops : ∀ {after : List Symbol}, (∀ symbol ∈ after.head?, inside symbol = false) →
      after.takeWhile inside = [] := by
    intro after ends
    cases after with
    | nil => rfl
    | cons symbol _ => exact List.takeWhile_cons_of_neg (by simp [ends symbol rfl])
  have fields := congrArg (List.takeWhile inside) same
  rw [List.takeWhile_append_of_pos firstInside, List.takeWhile_append_of_pos secondInside,
    stops firstEnds, stops secondEnds, List.append_nil, List.append_nil] at fields
  subst fields
  exact ⟨rfl, List.append_cancel_left same⟩

/-- The records that satisfy `Valid` start with a symbol of their own kind, and one of
them is read off the front of a text whatever record comes next. -/
structure Framed (encode : Record → List Symbol) (key : Record → Key) (Valid : Record → Prop)
    (Starts : Symbol → Prop) : Prop where
  starts : ∀ record, Valid record → ∃ symbol ∈ (encode record).head?, Starts symbol
  reads : ∀ first second rest other, Valid first → Valid second →
    (∀ symbol ∈ rest.head?, Starts symbol) → (∀ symbol ∈ other.head?, Starts symbol) →
    encode first ++ rest = encode second ++ other → key first = key second ∧ rest = other

namespace Framed

variable {encode : Record → List Symbol} {key : Record → Key} {Valid : Record → Prop}
  {Starts : Symbol → Prop} (framed : Framed encode key Valid Starts)

include framed

theorem flatMap_starts {records : List Record} (valid : ∀ record ∈ records, Valid record) :
    ∀ symbol ∈ (records.flatMap encode).head?, Starts symbol := by
  cases records with
  | nil => simp
  | cons record rest =>
      obtain ⟨symbol, front, starts⟩ := framed.starts record (valid record List.mem_cons_self)
      obtain ⟨tail, whole⟩ := List.head?_eq_some_iff.mp front
      intro other found
      rw [List.flatMap_cons, whole, List.cons_append, List.head?_cons] at found
      cases found
      exact starts

theorem flatMap_inj {records others : List Record} (valid : ∀ record ∈ records, Valid record)
    (otherValid : ∀ record ∈ others, Valid record)
    (same : records.flatMap encode = others.flatMap encode) :
    records.map key = others.map key := by
  have nonempty : ∀ record, Valid record → ∀ rest, encode record ++ rest ≠ [] := by
    intro record isValid rest empty
    obtain ⟨symbol, front, _⟩ := framed.starts record isValid
    rw [(List.append_eq_nil_iff.mp empty).1] at front
    cases front
  induction records generalizing others with
  | nil =>
      cases others with
      | nil => rfl
      | cons record rest =>
          rw [List.flatMap_nil, List.flatMap_cons] at same
          exact absurd same.symm (nonempty record (otherValid record List.mem_cons_self) _)
  | cons record rest ih =>
      cases others with
      | nil =>
          rw [List.flatMap_nil, List.flatMap_cons] at same
          exact absurd same (nonempty record (valid record List.mem_cons_self) _)
      | cons other more =>
          have restValid := fun record member => valid record (List.mem_cons_of_mem _ member)
          have moreValid := fun record member => otherValid record (List.mem_cons_of_mem _ member)
          rw [List.flatMap_cons, List.flatMap_cons] at same
          obtain ⟨front, behind⟩ := framed.reads record other _ _
            (valid record List.mem_cons_self) (otherValid other List.mem_cons_self)
            (framed.flatMap_starts restValid) (framed.flatMap_starts moreValid) same
          rw [List.map_cons, List.map_cons, front, ih restValid moreValid behind]

end Framed

end Framing
