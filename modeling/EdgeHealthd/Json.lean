import EdgeHealthd.Types

/-!
The JSON values of the two persisted state files. Files are kept as parsed
values, since parsing what `dump` printed gives the value back; a file that does
not parse is `corrupt`.
-/

namespace EdgeHealthd

inductive Json where
  | null
  | boolean (value : Bool)
  | integer (value : Int)
  | float (value : Double)
  | string (value : String)
  | array (items : List Json)
  | object (members : List (String × Json))

def Json.find? : Json → String → Option Json
  | .object members, key => members.lookup key
  | _, _ => none

def Json.getString : Json → Option String
  | .string value => some value
  | _ => none

def Json.getBool : Json → Option Bool
  | .boolean value => some value
  | _ => none

-- Every arithmetic JSON value converts, with a plain `static_cast`.
def Json.getUint32 : Json → Option UInt32
  | .integer value => some (UInt32.ofInt value)
  | .boolean value => some (if value then 1 else 0)
  | .float (.finite value) => some (UInt32.ofInt (value.num.tdiv value.den))
  | .float _ => some 0
  | _ => none

/-- `if (json.contains(key)) … json[key].get<T>()`: absent, converted, or an exception. -/
def Json.field {Value : Type} (json : Json) (key : String) (get : Json → Option Value) :
    Except Unit (Option Value) :=
  match json.find? key with
  | none => .ok none
  | some member =>
      match get member with
      | some value => .ok (some value)
      | none => .error ()

inductive StateFile where
  | missing
  | corrupt
  | json (value : Json)

theorem find?_object_nil (key : String) : (Json.object []).find? key = none := rfl

theorem find?_object_cons (name key : String) (member : Json) (rest : List (String × Json)) :
    (Json.object ((name, member) :: rest)).find? key =
      if key = name then some member else (Json.object rest).find? key := by
  by_cases same : key = name
  · simp [Json.find?, same]
  · simp [Json.find?, List.lookup_cons, beq_eq_false_iff_ne.mpr same, same]

theorem getString_string (value : String) : Json.getString (.string value) = some value := rfl

theorem getBool_boolean (value : Bool) : Json.getBool (.boolean value) = some value := rfl

theorem getUint32_toNat (value : UInt32) :
    Json.getUint32 (.integer value.toNat) = some value := by
  have bound := value.toNat_lt
  have same : UInt32.ofInt value.toNat = value := by
    rw [UInt32.ofInt, Int.emod_eq_of_lt (by omega) (by omega), Int.toNat_natCast,
      UInt32.ofNat_toNat]
  exact congrArg some same

end EdgeHealthd
