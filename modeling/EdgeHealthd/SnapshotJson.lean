import EdgeHealthd.SnapshotJsonCore

/-!
Looking a member up in a document of `src/json.cpp`: the objects are lists of members of
which some are there only where there is a value.
-/

namespace EdgeHealthd

theorem find?_object_append (first second : List (String × Json)) (key : String) :
    (Json.object (first ++ second)).find? key =
      ((Json.object first).find? key).or ((Json.object second).find? key) := by
  induction first with
  | nil => rfl
  | cons member rest ih =>
      obtain ⟨name, json⟩ := member
      rw [List.cons_append, find?_object_cons, find?_object_cons]
      split
      · rfl
      · exact ih

theorem find?_object_optionalMember {Value : Type} (name key : String) (value : Option Value)
    (json : Value → Json) :
    (Json.object (optionalMember name value json)).find? key =
      if key = name then value.map json else none := by
  cases value with
  | none => simp [optionalMember, find?_object_nil]
  | some found => simp [optionalMember, find?_object_cons, find?_object_nil]

theorem find?_object_memberIf (name key : String) (present : Bool) (json : Json) :
    (Json.object (memberIf name present json)).find? key =
      if key = name ∧ present = true then some json else none := by
  cases present with
  | false => simp [memberIf, find?_object_nil]
  | true => simp [memberIf, find?_object_cons, find?_object_nil]

theorem find?_object_emitFreshness (freshness : SectionFreshness) (key : String) :
    (Json.object (emitFreshness freshness)).find? key =
      if key = "collected_at" then freshness.collectedAt.map Json.time
      else if key = "stale" then some (.boolean freshness.stale) else none := by
  rw [emitFreshness, find?_object_append, find?_object_optionalMember, find?_object_cons,
    find?_object_nil]
  by_cases collected : key = "collected_at"
  · subst collected
    simp
  · simp [collected]

end EdgeHealthd
