import EdgeHealthd.WebUiCore
import Mathlib.Data.List.TakeWhile

/-!
Which accepted documents the page can render. `parseHealthState` looks at the
sections and lists of a document, not at their items and not at every member that
is read, so there is a condition on the rest: `Renderable` says exactly what the
functions behind the page need.
-/

namespace EdgeHealthd.WebUi

open Throwing

mutual

/-- Whether a value has a text: no object in it hides `toString`. -/
def printable : Json → Bool
  | .array items => printableItems items
  | .object members => (members.lookup "toString").isNone
  | .null | .boolean _ | .integer _ | .float _ | .string _ => true

def printableItems : List Json → Bool
  | [] => true
  | item :: rest => printable item && printableItems rest

end

def displayable (value : JsValue) : Bool := value.all printable

section Text

variable (builtins : Builtins)

mutual

theorem returns_toText (json : Json) :
    Returns (toText builtins json) ↔ printable json = true := by
  cases json with
  | array items =>
      rw [toText, printable, returns_bind_of_total (fun _ => returns_pure _)]
      exact returns_itemTexts items
  | object members =>
      rw [toText, printable]
      cases members.lookup "toString" with
      | none => simp [returns_ok]
      | some hidden => simp [not_returns_error]
  | null | boolean | integer | float | string => simp [toText, printable, returns_ok]

theorem returns_itemTexts (items : List Json) :
    Returns (itemTexts builtins items) ↔ printableItems items = true := by
  cases items with
  | nil => simp [itemTexts, printableItems, returns_ok]
  | cons item rest =>
      rw [itemTexts, printableItems, Bool.and_eq_true, ← returns_toText item,
        ← returns_itemTexts rest]
      exact returns_bind_and fun _ => returns_bind_of_total fun _ => returns_pure _

end

theorem returns_display (value : JsValue) :
    Returns (display builtins value) ↔ displayable value = true := by
  cases value with
  | none => simp [display, displayable, returns_ok]
  | some json => simpa [display, displayable] using returns_toText builtins json

theorem returns_toNumber (value : JsValue) :
    Returns (toNumber builtins value) ↔ displayable value = true := by
  cases value with
  | none => simp [toNumber, displayable, returns_ok]
  | some json =>
      rw [displayable, Option.all_some, ← returns_toText builtins json]
      cases json with
      | null | boolean | integer | float => simp [toNumber, toText, returns_ok]
      | string | array | object =>
          exact returns_bind_of_total (fun _ => returns_pure _)

theorem returns_plural (count : JsValue) (singular : String) :
    Returns (plural builtins count singular) ↔ displayable count = true := by
  rw [plural, returns_bind_of_total (fun _ => returns_pure _), returns_display]

end Text

theorem property_object (members : List (String × Json)) (key : String) :
    property key (some (.object members)) = .ok ((Json.object members).find? key) := rfl

theorem returns_property (key : String) (json : Json) :
    Returns (property key (some json)) ↔ json ≠ .null := by
  cases json <;> simp [property, returns_ok, not_returns_error]

theorem isObj_iff {value : JsValue} :
    isObj value = true ↔ ∃ members, value = some (.object members) := by
  cases value with
  | none => simp [isObj]
  | some json => cases json <;> simp [isObj]

theorem isArray_iff {value : JsValue} :
    isArray value = true ↔ ∃ items, value = some (.array items) := by
  cases value with
  | none => simp [isArray]
  | some json => cases json <;> simp [isArray]

theorem isNumber_iff {value : JsValue} :
    isNumber value = true ↔ ∃ number, asNumber value = some number := by
  rw [isNumber, Option.isSome_iff_exists]

theorem require_bind_eq_ok {Result : Type} {holds : Bool} {failure : ParseError}
    {next : Unit → Except ParseError Result} {result : Result} :
    (require holds failure >>= next) = .ok result ↔ holds = true ∧ next () = .ok result := by
  cases holds <;> simp [require, bind, Except.bind]

theorem requireAll_bind_eq_ok {Result : Type} {keys : List String} {holds : String → Bool}
    {failure : String → ParseError} {next : Unit → Except ParseError Result} {result : Result} :
    (requireAll keys holds failure >>= next) = .ok result ↔
      (∀ key ∈ keys, holds key = true) ∧ next () = .ok result := by
  induction keys with
  | nil => simp [requireAll, ok_bind]
  | cons key rest ih =>
      rw [requireAll, bind_assoc, require_bind_eq_ok, ih]
      simp only [List.mem_cons, forall_eq_or_imp, and_assoc]

def listed : JsValue → List Json
  | some (.array items) => items
  | _ => []

/-- What the validator has looked at in a document that it accepts. -/
structure Accepted (state : Json) : Prop where
  object : isObj (some state) = true
  sections : ∀ key ∈ sections, isObj (state.find? key) = true
  units : isArray (member state ["services", "units"]) = true
  cpu : isObj (member state ["resources", "cpu"]) = true
  load : isNumber (member state ["resources", "cpu", "load1"]) = true
  memory : isObj (member state ["resources", "memory"]) = true
  total : isNumber (member state ["resources", "memory", "mem_total_mb"]) = true
  lists : ∀ key ∈ ["storage", "thermal"], (member state ["resources", key]).isNone = true ∨
    isArray (member state ["resources", key]) = true
  reasons : isArray (member state ["summary", "reasons"]) = true
  crash : state.find? "crash" = none ∨ isObj (state.find? "crash") = true

theorem parseHealthState_accepts {builtins : Builtins} {input state : Json}
    (parsed : parseHealthState builtins input = .ok state) : state = input ∧ Accepted state := by
  simp only [parseHealthState, require_bind_eq_ok, requireAll_bind_eq_ok, Bool.and_eq_true,
    Bool.or_eq_true, Option.isNone_iff_eq_none] at parsed
  obtain ⟨object, _, _, _, sections, units, ⟨cpu, load⟩, ⟨memory, total⟩, _, lists, _, _, reasons,
    crash, returned⟩ := parsed
  obtain rfl := Except.ok.inj returned
  refine ⟨rfl, object, sections, units, cpu, load, memory, total, ?_, reasons, ?_⟩
  · simpa using lists
  · exact crash.imp_right And.left

theorem member_section {state : Json} {key : String} {members : List (String × Json)}
    (found : state.find? key = some (.object members)) (inner : String) :
    member state [key, inner] = (Json.object members).find? inner := by
  simp [member, optionalProperty, found]

theorem member_of_section {state : Json} {key : String} {members : List (String × Json)}
    (found : state.find? key = some (.object members)) (inner last : String) :
    member state [key, inner, last] =
      optionalProperty last ((Json.object members).find? inner) := by
  simp [member, optionalProperty, found]

section Summaries

variable (builtins : Builtins) {top : List (String × Json)}

theorem returns_optionalText (before missing : String) (value : JsValue) :
    Returns (optionalText builtins before value missing) ↔
      (truthy value = true → displayable value = true) := by
  rw [optionalText, returns_ite, returns_map, returns_display, and_iff_left fun _ => returns_ok _]

theorem returns_bootSummary {boot : List (String × Json)}
    (found : (Json.object top).find? "boot" = some (.object boot)) :
    Returns (bootSummary builtins (.object top)) ↔
      (truthy (member (.object top) ["boot", "boot_ok"]) = false →
        (truthy (member (.object top) ["boot", "last_reboot_reason"]) = true →
          displayable (member (.object top) ["boot", "last_reboot_reason"]) = true) ∧
        displayable (member (.object top) ["boot", "boot_fail_count"]) = true) := by
  simp only [bootSummary, property_object, found, ok_bind, member_section found]
  cases truthy ((Json.object boot).find? "boot_ok") with
  | true => simp [returns_pure]
  | false =>
      simp only [Bool.not_false, if_true, forall_const]
      rw [returns_bind_and fun _ => returns_bind_of_total fun _ => returns_pure _,
        returns_optionalText, returns_plural]

theorem property_present {json : Json} (present : json ≠ .null) (key : String) :
    property key (some json) = .ok (json.find? key) := by
  cases json with
  | null => exact absurd rfl present
  | boolean | integer | float | string | array | object => rfl

theorem returns_needsAttention (unit : Json) : Returns (needsAttention unit) ↔ unit ≠ .null := by
  rw [needsAttention, returns_bind_of_total (fun _ => returns_pure _), returns_property]

def unitFails (unit : Json) : Bool := rank (normalizeSeverity (unit.find? "severity")) > rank .ok

theorem needsAttention_eq {unit : Json} (present : unit ≠ .null) :
    needsAttention unit = .ok (unitFails unit) := by
  rw [needsAttention, property_present present, ok_bind]
  rfl

/-- No item is `null`, and a single failing one can be named. -/
def UnitsRenderable (units : List Json) : Prop :=
  (∀ unit ∈ units, unit ≠ .null) ∧
    ∀ failing, units.filter unitFails = [failing] →
      displayable (failing.find? "name") = true ∧ displayable (failing.find? "state") = true

theorem returns_servicesSummary {services : List (String × Json)} {units : List Json}
    (found : (Json.object top).find? "services" = some (.object services))
    (named : (Json.object services).find? "units" = some (.array units)) :
    Returns (servicesSummary builtins (.object top)) ↔
      UnitsRenderable (listed (member (.object top) ["services", "units"])) := by
  simp only [servicesSummary, property_object, found, ok_bind, member_section found, named, items,
    listed]
  by_cases empty : units.length = 0
  · obtain rfl := List.eq_nil_of_length_eq_zero empty
    simp [returns_pure, UnitsRenderable]
  · rw [if_neg empty]
    by_cases present : ∀ unit ∈ units, unit ≠ .null
    · rw [filter_eq_ok fun unit member => needsAttention_eq (present unit member), ok_bind]
      rw [UnitsRenderable, and_iff_right present]
      cases failing : units.filter unitFails with
      | nil =>
          have counted : Returns (plural builtins (some (.integer units.length)) "unit") :=
            (returns_plural builtins _ _).mpr rfl
          simpa using (returns_bind_of_total fun _ => returns_pure _).mpr counted
      | cons first rest =>
          cases rest with
          | cons second more => simp [returns_pure]
          | nil =>
              have member : first ∈ units := by
                have kept : first ∈ units.filter unitFails := by simp [failing]
                exact (List.mem_filter.mp kept).1
              simp only [property_present (present first member), ok_bind, List.cons.injEq,
                and_true, forall_eq']
              rw [returns_bind_and fun _ => returns_bind_of_total fun _ => returns_pure _,
                returns_display, returns_display]
    · have thrown : ¬Returns (filter needsAttention units) := by
        simpa only [returns_filter, returns_needsAttention] using present
      refine iff_of_false ?_ fun renderable => present renderable.1
      intro returned
      obtain ⟨failing, kept, _⟩ := (returns_bind _ _).mp returned
      exact thrown ⟨failing, kept⟩

theorem toNumber_of_asNumber {value : JsValue} {number : Double}
    (numeric : asNumber value = some number) : toNumber builtins value = .ok number := by
  cases value with
  | none => cases numeric
  | some json =>
      cases json with
      | integer | float => exact congrArg Except.ok (Option.some.inj numeric)
      | null | boolean | string | array | object => cases numeric

theorem itemsOrEmpty_eq {value : JsValue} (list : value.isNone = true ∨ isArray value = true) :
    itemsOrEmpty value = .ok (listed value) := by
  rcases list with absent | present
  · rw [Option.isNone_iff_eq_none] at absent
    subst absent
    rfl
  · obtain ⟨items, rfl⟩ := isArray_iff.mp present
    rfl

theorem returns_hasTemperature (sensor : Json) :
    Returns (hasTemperature sensor) ↔ sensor ≠ .null := by
  rw [hasTemperature, returns_bind_and fun _ => returns_bind_of_total fun _ => returns_pure _,
    returns_property, returns_property, and_self]

theorem returns_isUnavailable (reading : Json) :
    Returns (isUnavailable reading) ↔ reading ≠ .null := by
  rw [isUnavailable, returns_bind_of_total (fun _ => returns_pure _), returns_property]

theorem returns_memoryPart {memory : List (String × Json)} {total : Double}
    (size : asNumber ((Json.object memory).find? "mem_total_mb") = some total) :
    Returns (memoryPart builtins (some (.object memory))) ↔
      (Double.gt total (.finite 0) = true →
        displayable ((Json.object memory).find? "mem_used_mb") = true) := by
  simp only [memoryPart, property_object, ok_bind, toNumber_of_asNumber builtins size]
  cases Double.gt total (.finite 0) with
  | false => simp [returns_pure]
  | true =>
      simp only [Bool.not_true, Bool.false_eq_true, if_false, forall_const]
      rw [returns_bind_of_total (fun _ => returns_pure _), returns_toNumber]

theorem returns_blindPart (blind : Nat) : Returns (blindPart builtins blind) := by
  rw [blindPart, returns_ite]
  refine ⟨fun _ => ?_, fun _ => returns_ok _⟩
  rw [returns_map, returns_plural]
  rfl

theorem returns_resourcesSummary {resources cpu memory : List (String × Json)}
    (found : (Json.object top).find? "resources" = some (.object resources))
    (processor : (Json.object resources).find? "cpu" = some (.object cpu))
    (used : (Json.object resources).find? "memory" = some (.object memory))
    {load total : Double} (measured : asNumber ((Json.object cpu).find? "load1") = some load)
    (size : asNumber ((Json.object memory).find? "mem_total_mb") = some total)
    (lists : ∀ key ∈ ["storage", "thermal"], ((Json.object resources).find? key).isNone = true ∨
      isArray ((Json.object resources).find? key) = true) :
    Returns (resourcesSummary builtins (.object top)) ↔
      (Double.gt total (.finite 0) = true →
        displayable (member (.object top) ["resources", "memory", "mem_used_mb"]) = true) ∧
      (∀ sensor ∈ listed (member (.object top) ["resources", "thermal"]), sensor ≠ .null) ∧
      ∀ mount ∈ listed (member (.object top) ["resources", "storage"]), mount ≠ .null := by
  have loaded : loadPart builtins (some (.object cpu)) =
      .ok ("Load " ++ builtins.toFixed load 2) := by
    simp only [loadPart, property_object, ok_bind, measured]
    rfl
  simp only [resourcesSummary, property_object, found, processor, used, ok_bind, loaded,
    itemsOrEmpty_eq (lists "storage" (by decide)), itemsOrEmpty_eq (lists "thermal" (by decide)),
    member_section found, member_of_section found, optionalProperty, Option.bind_some]
  rw [returns_bind_and fun _ => returns_bind_and fun _ => returns_bind_and fun _ =>
      returns_bind_of_total fun _ => (returns_bind_of_total fun _ => returns_pure _).mpr
        (returns_blindPart builtins _),
    returns_memoryPart builtins size, returns_filter, returns_filter, returns_filter]
  simp only [returns_hasTemperature, returns_isUnavailable]
  constructor
  · rintro ⟨memory, sensors, mounts, _⟩
    exact ⟨memory, sensors, mounts⟩
  · rintro ⟨memory, sensors, mounts⟩
    exact ⟨memory, sensors, mounts, sensors⟩

theorem returns_textMethod (value : JsValue) :
    Returns (textMethod value) ↔ isString value = true := by
  cases value with
  | none => simp [textMethod, isString, not_returns_error]
  | some json => cases json <;> simp [textMethod, isString, returns_ok, not_returns_error]

def clockOf (source : JsValue) : String := if isText source "ptp" then "ptp" else "ntp"

theorem returns_timeSyncSummary {timeSync : List (String × Json)}
    (found : (Json.object top).find? "time_sync" = some (.object timeSync)) :
    Returns (timeSyncSummary builtins (.object top)) ↔
      (isText (member (.object top) ["time_sync", "source"]) "none" = false →
        isString (member (.object top) ["time_sync", "source"]) = true ∧
          isString (orElse (member (.object top)
            ["time_sync", clockOf (member (.object top) ["time_sync", "source"]), "state"])
              (some (.string "unknown"))) = true) := by
  simp only [timeSyncSummary, property_object, found, ok_bind, member_section found,
    member_of_section found]
  cases isText ((Json.object timeSync).find? "source") "none" with
  | true => simp [returns_pure]
  | false =>
      simp only [Bool.false_eq_true, if_false, forall_const]
      rw [returns_bind_and fun _ => returns_bind_of_total fun _ => returns_pure _,
        returns_textMethod, returns_textMethod]
      rfl

theorem returns_updateSummary {update : List (String × Json)}
    (found : (Json.object top).find? "update" = some (.object update)) :
    Returns (updateSummary builtins (.object top)) ↔
      (truthy (member (.object top) ["update", "active_slot"]) = true →
        displayable (member (.object top) ["update", "active_slot"]) = true) ∧
      (truthy (member (.object top) ["update", "last_update"]) = true →
        displayable (member (.object top) ["update", "last_update", "result"]) = true) := by
  simp only [updateSummary, property_object, found, ok_bind, member_section found,
    member_of_section found]
  rw [returns_bind_and, returns_optionalText]
  intro slot
  cases given : (Json.object update).find? "last_update" with
  | none => simp [truthy, returns_pure]
  | some json =>
      by_cases null : json = .null
      · subst null
        simp [truthy, returns_pure]
      · rw [property_present null, ok_bind]
        cases truthy (some json) with
        | false => simp [returns_pure]
        | true =>
            simp only [Bool.not_true, Bool.false_eq_true, if_false, forall_const]
            rw [returns_bind_of_total (fun _ => returns_pure _), returns_display]
            rfl

theorem returns_journalSummary {journal : List (String × Json)}
    (found : (Json.object top).find? "journal" = some (.object journal)) :
    Returns (journalSummary builtins (.object top)) ↔
      displayable (member (.object top) ["journal", "error_count"]) = true := by
  simp only [journalSummary, property_object, found, ok_bind, member_section found]
  rw [returns_ite, returns_bind_of_total (fun _ => returns_pure _), returns_plural,
    and_iff_right fun _ => returns_pure _]
  constructor
  · intro displayed
    by_cases zero : asNumber ((Json.object journal).find? "error_count") = some (.finite 0)
    · rw [← returns_toNumber builtins]
      exact ⟨_, toNumber_of_asNumber builtins zero⟩
    · exact displayed zero
  · intro displayed _
    exact displayed

theorem returns_crashSummary (known : (Json.object top).find? "crash" = none ∨
      isObj ((Json.object top).find? "crash") = true) :
    Returns (crashSummary builtins (.object top)) ↔
      (truthy (member (.object top) ["crash", "present"]) = true →
        displayable (member (.object top) ["crash", "artifact_count"]) = true) := by
  rw [crashSummary, property_object, ok_bind]
  rcases known with absent | object
  · simp [absent, truthy, member, optionalProperty, returns_pure]
  · obtain ⟨crash, found⟩ := isObj_iff.mp object
    have there : truthy (some (.object crash)) = true := rfl
    simp only [found, property_object, ok_bind, there, Bool.not_true, Bool.false_eq_true, if_false,
      member_section found]
    cases truthy ((Json.object crash).find? "present") with
    | false => simp [returns_pure]
    | true =>
        simp only [Bool.not_true, Bool.false_eq_true, if_false, forall_const]
        rw [returns_bind_of_total (fun _ => returns_pure _), returns_plural]

end Summaries

section Document

variable {top : List (String × Json)} (accepted : Accepted (.object top))
include accepted

theorem Accepted.found (key : String) (member : key ∈ WebUi.sections) :
    ∃ members, (Json.object top).find? key = some (.object members) :=
  isObj_iff.mp (accepted.sections key member)

theorem returns_sectionSeverity (domain : Domain) :
    Returns (sectionSeverity (.object top) domain) := by
  have overall : ∀ key ∈ sections, Returns (do
      let reported ← property key (some (.object top))
      return normalizeSeverity (← property "overall" reported)) := by
    intro key member
    obtain ⟨members, found⟩ := accepted.found key member
    rw [property_object, ok_bind, found, property_object, ok_bind]
    exact returns_pure _
  cases domain with
  | boot =>
      obtain ⟨boot, found⟩ := accepted.found "boot" (by decide)
      rw [sectionSeverity, property_object, ok_bind, found, property_object, ok_bind]
      exact returns_pure _
  | services => exact overall "services" (by decide)
  | resources => exact returns_ok _
  | timeSync => exact overall "time_sync" (by decide)
  | update => exact overall "update" (by decide)
  | journal => exact overall "journal" (by decide)
  | crash =>
      rw [sectionSeverity, property_object, ok_bind]
      rcases accepted.crash with absent | object
      · rw [absent]
        exact returns_pure _
      · obtain ⟨crash, found⟩ := isObj_iff.mp object
        rw [found, property_object, ok_bind, property_object, ok_bind]
        exact returns_pure _

theorem returns_domainSeverities : Returns (domainSeverities (.object top)) := by
  refine returns_mapM fun domain _ => ?_
  rw [returns_bind_of_total (fun _ => returns_pure _)]
  obtain ⟨summary, found⟩ := accepted.found "summary" (by decide)
  rw [domainSeverity, property_object, ok_bind, found, property_object, ok_bind]
  cases optionalProperty (domainKey domain) ((Json.object summary).find? "domains") with
  | some reported => exact returns_pure _
  | none => exact returns_sectionSeverity accepted domain

end Document

theorem returns_parseReason (raw : Json) :
    Returns (parseReason raw) ↔ isString (some raw) = true ∨ isArray (some raw) = true := by
  cases raw with
  | string raw =>
      rw [parseReason]
      split <;> simp [returns_ok, isString]
  | array items =>
      rw [parseReason]
      split <;> simp [returns_ok, isArray]
  | null | boolean | integer | float | object =>
      simp [parseReason, not_returns_error, isString, isArray]

theorem not_matches_colon {raw : Json} {reason : Reason} (parsed : parseReason raw = .ok reason)
    (subject : Option String) : reason.matches ":" subject = false := by
  have code : isText (some reason.code) ":" = false := by
    cases raw with
    | string raw =>
        rw [parseReason] at parsed
        split at parsed
        · rename_i noColon
          obtain rfl := Except.ok.inj parsed
          rw [List.dropWhile_eq_nil_iff] at noColon
          have other : raw ≠ ":" := by
            rintro rfl
            simpa using noColon ':' (by decide)
          simpa [isText] using other
        · obtain rfl := Except.ok.inj parsed
          have other : String.ofList (raw.toList.takeWhile (· ≠ ':')) ≠ ":" := by
            intro same
            have colon : ':' ∈ raw.toList.takeWhile (· ≠ ':') := by
              rw [← String.toList_ofList (l := raw.toList.takeWhile (· ≠ ':')), same]
              decide
            simpa using List.mem_takeWhile_imp colon
          simpa [isText] using other
    | array items =>
        rw [parseReason] at parsed
        split at parsed <;> obtain rfl := Except.ok.inj parsed <;> rfl
    | null | boolean | integer | float | object => cases parsed
  simp [Reason.matches, code]

theorem hasReason_eq {top summary : List (String × Json)} {reasons : List Json}
    (found : (Json.object top).find? "summary" = some (.object summary))
    (named : (Json.object summary).find? "reasons" = some (.array reasons))
    (code : String) (subject : Option String) :
    hasReason (.object top) code subject =
      any (fun raw => do return (← parseReason raw).matches code subject) reasons := by
  simp only [hasReason, property_object, ok_bind, found, named, items]

theorem returns_hasReason {top summary : List (String × Json)} {reasons : List Json}
    (found : (Json.object top).find? "summary" = some (.object summary))
    (named : (Json.object summary).find? "reasons" = some (.array reasons)) :
    (∀ code subject, Returns (hasReason (.object top) code subject)) ↔
      ∀ raw ∈ listed (member (.object top) ["summary", "reasons"]),
        isString (some raw) = true ∨ isArray (some raw) = true := by
  rw [member_section found, named, listed]
  constructor
  · intro returned
    have visited := returned ":" none
    rw [hasReason_eq found named, returns_any_of_none] at visited
    · intro raw member
      have parsed := visited raw member
      rw [returns_bind_of_total (fun _ => returns_pure _)] at parsed
      exact (returns_parseReason raw).mp parsed
    · intro raw _ matched
      obtain ⟨reason, parsed, same⟩ := bind_eq_ok.mp matched
      have never := not_matches_colon parsed none
      rw [Except.ok.inj same] at never
      cases never
  · intro texts code subject
    rw [hasReason_eq found named]
    have parse : ∀ raw ∈ reasons, ∃ reason, parseReason raw = .ok reason :=
      fun raw member => (returns_parseReason raw).mpr (texts raw member)
    have decided : ∀ raw ∈ reasons, (do return (← parseReason raw).matches code subject) =
        Except.ok (((parseReason raw).toOption.map fun reason =>
          reason.matches code subject).getD false) := by
      intro raw member
      obtain ⟨reason, parsed⟩ := parse raw member
      rw [parsed, ok_bind]
      rfl
    rw [any_eq_ok decided]
    exact returns_ok _

/-- What the summaries and the reasons read of a document beyond the validator's checks. -/
structure Renderable (state : Json) : Prop where
  boot : truthy (member state ["boot", "boot_ok"]) = false →
    (truthy (member state ["boot", "last_reboot_reason"]) = true →
      displayable (member state ["boot", "last_reboot_reason"]) = true) ∧
    displayable (member state ["boot", "boot_fail_count"]) = true
  units : UnitsRenderable (listed (member state ["services", "units"]))
  memory : ∀ total, asNumber (member state ["resources", "memory", "mem_total_mb"]) = some total →
    Double.gt total (.finite 0) = true →
      displayable (member state ["resources", "memory", "mem_used_mb"]) = true
  sensors : ∀ sensor ∈ listed (member state ["resources", "thermal"]), sensor ≠ .null
  mounts : ∀ mount ∈ listed (member state ["resources", "storage"]), mount ≠ .null
  clock : isText (member state ["time_sync", "source"]) "none" = false →
    isString (member state ["time_sync", "source"]) = true ∧
      isString (orElse (member state
        ["time_sync", clockOf (member state ["time_sync", "source"]), "state"])
          (some (.string "unknown"))) = true
  slot : truthy (member state ["update", "active_slot"]) = true →
    displayable (member state ["update", "active_slot"]) = true
  lastUpdate : truthy (member state ["update", "last_update"]) = true →
    displayable (member state ["update", "last_update", "result"]) = true
  errors : displayable (member state ["journal", "error_count"]) = true
  crash : truthy (member state ["crash", "present"]) = true →
    displayable (member state ["crash", "artifact_count"]) = true
  reasons : ∀ raw ∈ listed (member state ["summary", "reasons"]),
    isString (some raw) = true ∨ isArray (some raw) = true

section Page

variable (builtins : Builtins) {top : List (String × Json)} (accepted : Accepted (.object top))
include accepted

theorem Accepted.returns_services :
    Returns (servicesSummary builtins (.object top)) ↔
      UnitsRenderable (listed (member (.object top) ["services", "units"])) := by
  obtain ⟨services, found⟩ := accepted.found "services" (by decide)
  have units := accepted.units
  rw [member_section found] at units
  obtain ⟨units, named⟩ := isArray_iff.mp units
  exact returns_servicesSummary builtins found named

theorem Accepted.returns_resources :
    Returns (resourcesSummary builtins (.object top)) ↔
      (∀ total, asNumber (member (.object top) ["resources", "memory", "mem_total_mb"]) =
          some total → Double.gt total (.finite 0) = true →
        displayable (member (.object top) ["resources", "memory", "mem_used_mb"]) = true) ∧
      (∀ sensor ∈ listed (member (.object top) ["resources", "thermal"]), sensor ≠ .null) ∧
      ∀ mount ∈ listed (member (.object top) ["resources", "storage"]), mount ≠ .null := by
  obtain ⟨resources, found⟩ := accepted.found "resources" (by decide)
  have cpu := accepted.cpu
  have memory := accepted.memory
  have load := accepted.load
  have total := accepted.total
  have lists := accepted.lists
  simp only [member_section found] at cpu memory lists
  obtain ⟨cpu, processor⟩ := isObj_iff.mp cpu
  obtain ⟨memory, used⟩ := isObj_iff.mp memory
  rw [member_of_section found, processor] at load
  rw [member_of_section found, used] at total
  obtain ⟨load, measured⟩ := isNumber_iff.mp load
  obtain ⟨total, size⟩ := isNumber_iff.mp total
  have same : asNumber (member (.object top) ["resources", "memory", "mem_total_mb"]) =
      some total := by
    rw [member_of_section found, used, size]
  rw [returns_resourcesSummary builtins found processor used measured size lists, same]
  simp only [Option.some.injEq, forall_eq']

theorem Accepted.returns_reasons :
    (∀ code subject, Returns (hasReason (.object top) code subject)) ↔
      ∀ raw ∈ listed (member (.object top) ["summary", "reasons"]),
        isString (some raw) = true ∨ isArray (some raw) = true := by
  obtain ⟨summary, found⟩ := accepted.found "summary" (by decide)
  have reasons := accepted.reasons
  rw [member_section found] at reasons
  obtain ⟨reasons, named⟩ := isArray_iff.mp reasons
  exact returns_hasReason found named

theorem Accepted.renders_iff :
    ((∀ domain, Returns (domainSummary builtins (.object top) domain)) ∧
      ∀ code subject, Returns (hasReason (.object top) code subject)) ↔
      Renderable (.object top) := by
  obtain ⟨boot, bootFound⟩ := accepted.found "boot" (by decide)
  obtain ⟨timeSync, timeSyncFound⟩ := accepted.found "time_sync" (by decide)
  obtain ⟨update, updateFound⟩ := accepted.found "update" (by decide)
  obtain ⟨journal, journalFound⟩ := accepted.found "journal" (by decide)
  rw [accepted.returns_reasons]
  constructor
  · rintro ⟨summaries, reasons⟩
    obtain ⟨memory, sensors, mounts⟩ :=
      (accepted.returns_resources builtins).mp (summaries .resources)
    obtain ⟨slot, lastUpdate⟩ :=
      (returns_updateSummary builtins updateFound).mp (summaries .update)
    exact {
      boot := (returns_bootSummary builtins bootFound).mp (summaries .boot)
      units := (accepted.returns_services builtins).mp (summaries .services)
      memory := memory
      sensors := sensors
      mounts := mounts
      clock := (returns_timeSyncSummary builtins timeSyncFound).mp (summaries .timeSync)
      slot := slot
      lastUpdate := lastUpdate
      errors := (returns_journalSummary builtins journalFound).mp (summaries .journal)
      crash := (returns_crashSummary builtins accepted.crash).mp (summaries .crash)
      reasons := reasons }
  · intro renderable
    refine ⟨fun domain => ?_, renderable.reasons⟩
    cases domain with
    | boot => exact (returns_bootSummary builtins bootFound).mpr renderable.boot
    | services => exact (accepted.returns_services builtins).mpr renderable.units
    | resources =>
        exact (accepted.returns_resources builtins).mpr
          ⟨renderable.memory, renderable.sensors, renderable.mounts⟩
    | timeSync => exact (returns_timeSyncSummary builtins timeSyncFound).mpr renderable.clock
    | update =>
        exact (returns_updateSummary builtins updateFound).mpr
          ⟨renderable.slot, renderable.lastUpdate⟩
    | journal => exact (returns_journalSummary builtins journalFound).mpr renderable.errors
    | crash => exact (returns_crashSummary builtins accepted.crash).mpr renderable.crash

end Page

/-- An accepted document is rendered without a type error exactly when the members
that the validator does not look at can be read as the page reads them. -/
theorem accepted_renders_iff (builtins : Builtins) (input state : Json)
    (parsed : parseHealthState builtins input = .ok state) :
    (Returns (domainSeverities state) ∧
      (∀ domain, Returns (domainSummary builtins state domain)) ∧
      ∀ code subject, Returns (hasReason state code subject)) ↔ Renderable state := by
  obtain ⟨rfl, accepted⟩ := parseHealthState_accepts parsed
  obtain ⟨top, same⟩ := isObj_iff.mp accepted.object
  obtain rfl := Option.some.inj same
  rw [and_iff_right (returns_domainSeverities accepted), accepted.renders_iff builtins]

def versionOnly : Builtins where
  ofText text := if text = "1" then .finite 1 else .nan
  text _ := "0"
  toFixed _ _ := "0.00"
  div _ _ := .finite 0
  mul _ _ := .finite 0
  rem _ _ := .finite 0
  floor _ := .finite 0
  round _ := .finite 0
  toUpperCase text := text
  inherited _ := none
  stringify _ := "null"

def document (timeSync : List (String × Json)) (reasons : List Json) : Json :=
  .object [
    ("schema", .string "edge.health.state"),
    ("schema_version", .string "1.0.0"),
    ("generated_at", .string "2025-01-01T00:00:00Z"),
    ("device", .object []),
    ("boot", .object [("boot_ok", .boolean true)]),
    ("services", .object [("units", .array [])]),
    ("resources", .object [
      ("cpu", .object [("load1", .integer 0)]),
      ("memory", .object [("mem_total_mb", .integer 0)]),
      ("network", .array [])]),
    ("time_sync", .object timeSync),
    ("update", .object []),
    ("journal", .object [("error_count", .integer 0), ("recent_errors", .array [])]),
    ("summary", .object [("severity", .string "ok"), ("reasons", .array reasons)])]

theorem document_renderable : Renderable (document [("source", .string "ntp")] []) where
  boot impossible := absurd impossible (by decide)
  units := ⟨fun _ member => absurd member List.not_mem_nil,
    fun _ impossible => absurd impossible.symm (List.cons_ne_nil _ _)⟩
  memory total size large := by
    obtain rfl := Option.some.inj size
    exact absurd large (by decide +kernel)
  sensors _ member := absurd member List.not_mem_nil
  mounts _ member := absurd member List.not_mem_nil
  clock _ := ⟨rfl, rfl⟩
  slot _ := rfl
  lastUpdate _ := rfl
  errors := rfl
  crash _ := rfl
  reasons _ member := absurd member List.not_mem_nil

theorem sourced_document_renders :
    parseHealthState versionOnly (document [("source", .string "ntp")] []) =
        .ok (document [("source", .string "ntp")] []) ∧
      ∀ domain,
        Returns (domainSummary versionOnly (document [("source", .string "ntp")] []) domain) := by
  have parsed : parseHealthState versionOnly (document [("source", .string "ntp")] []) =
      .ok (document [("source", .string "ntp")] []) := rfl
  exact ⟨parsed, ((accepted_renders_iff versionOnly _ _ parsed).mpr document_renderable).2.1⟩

/-- A time section without a source is accepted, and its summary calls a method of
`undefined`. -/
theorem accepted_document_not_rendered :
    parseHealthState versionOnly (document [] []) = .ok (document [] []) ∧
      domainSummary versionOnly (document [] []) .timeSync = .error .noProperties := by
  exact ⟨rfl, rfl⟩

end EdgeHealthd.WebUi
