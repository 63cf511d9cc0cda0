import EdgeHealthd.ConfigFileCore
import EdgeHealthd.Library.Throwing
import Mathlib

/-!
`Config::load` reads back what `Config::to_json_string` writes. The integers a
file can put into a duration are those of an `int`, a loaded priority is one of
the eight, and a loaded level is in lower case; on such configurations every key
that is written is the key that is read, in the same unit and form.
-/

namespace EdgeHealthd

open Throwing

/-- The values the library's parser produces: integers of 64 bits, signed or
unsigned, and finite floating-point numbers. -/
inductive Json.Parsed : Json → Prop
  | null : Parsed .null
  | boolean (value : Bool) : Parsed (.boolean value)
  | integer (value : Int) : -9223372036854775808 ≤ value → value < 18446744073709551616 →
      Parsed (.integer value)
  | float (value : Rat) : Parsed (.float (.finite value))
  | string (value : String) : Parsed (.string value)
  | array (items : List Json) : (∀ item ∈ items, Parsed item) → Parsed (.array items)
  | object (members : List (String × Json)) : (∀ member ∈ members, Parsed member.2) →
      Parsed (.object members)

theorem Json.Parsed.find? {json member : Json} (parsed : json.Parsed) {key : String}
    (found : json.find? key = some member) : member.Parsed := by
  cases parsed with
  | object members all =>
      obtain ⟨before, after, rfl, _⟩ := List.lookup_eq_some_iff.mp found
      exact all (key, member) (by simp)
  | null | boolean | integer | float | string | array => cases found

theorem fieldOr_eq_ok {Value : Type} {json : Json} {key : String} {get : Json → Option Value}
    {default value : Value} (loaded : json.fieldOr key get default = .ok value) :
    value = default ∨ ∃ member, json.find? key = some member ∧ get member = some value := by
  unfold Json.fieldOr Json.field at loaded
  cases found : json.find? key with
  | none =>
      simp only [found, Except.map, Option.getD_none, Except.ok.injEq] at loaded
      exact Or.inl loaded.symm
  | some member =>
      cases converted : get member with
      | none => simp [found, converted, Except.map] at loaded
      | some other =>
          simp only [found, converted, Except.map, Option.getD_some, Except.ok.injEq] at loaded
          exact Or.inr ⟨member, rfl, loaded ▸ converted⟩

theorem fieldOr_holds {Value : Type} {json : Json} {key : String} {get : Json → Option Value}
    {default value : Value} (property : Value → Prop)
    (loaded : json.fieldOr key get default = .ok value) (initial : property default)
    (converted : ∀ member, json.find? key = some member → ∀ result, get member = some result →
      property result) : property value := by
  rcases fieldOr_eq_ok loaded with rfl | ⟨member, found, result⟩
  · exact initial
  · exact converted member found value result

theorem narrowInt_idem (value : Int) : narrowInt (narrowInt value) = narrowInt value := by
  simp only [narrowInt, Int32.ofInt_toInt]

theorem getArithmetic_eq_some {Value : Type} {convert : Int → Value} {json : Json} {value : Value}
    (found : json.getArithmetic convert = some value) : ∃ integer, value = convert integer := by
  cases json with
  | boolean truth => exact ⟨_, (Option.some.inj found).symm⟩
  | integer integer => exact ⟨_, (Option.some.inj found).symm⟩
  | float double => exact ⟨_, (Option.some.inj found).symm⟩
  | null | string | array | object => cases found

theorem getInt_narrow {json : Json} {value : Int} (found : json.getInt = some value) :
    narrowInt value = value := by
  obtain ⟨integer, rfl⟩ := getArithmetic_eq_some found
  exact narrowInt_idem integer

theorem getDouble_finite {json : Json} (parsed : json.Parsed) {value : Double}
    (found : json.getDouble = some value) : ∃ rational, value = .finite rational := by
  cases parsed with
  | integer integer _ _ => exact ⟨_, (Option.some.inj found).symm⟩
  | float rational => exact ⟨rational, (Option.some.inj found).symm⟩
  | null | boolean | string | array | object => cases found

theorem range_of_ite_some {condition : Prop} [Decidable condition] {value priority : Int}
    {rest : Option Int} (first : 0 ≤ value ∧ value ≤ 7)
    (later : rest = some priority → 0 ≤ priority ∧ priority ≤ 7)
    (found : (if condition then some value else rest) = some priority) :
    0 ≤ priority ∧ priority ≤ 7 := by
  by_cases holds : condition
  · rw [if_pos holds] at found
    exact Option.some.inj found ▸ first
  · rw [if_neg holds] at found
    exact later found

theorem priorityFromString_range {name : String} {priority : Int}
    (found : priorityFromString name = some priority) : 0 ≤ priority ∧ priority ≤ 7 := by
  revert found
  refine range_of_ite_some (by decide) ?_
  refine range_of_ite_some (by decide) ?_
  refine range_of_ite_some (by decide) ?_
  refine range_of_ite_some (by decide) ?_
  refine range_of_ite_some (by decide) ?_
  refine range_of_ite_some (by decide) ?_
  refine range_of_ite_some (by decide) ?_
  refine range_of_ite_some (by decide) ?_
  intro found
  cases found

theorem getPriority_range {json : Json} {priority : Int} (found : json.getPriority = some priority) :
    0 ≤ priority ∧ priority ≤ 7 := by
  cases json with
  | string name => exact priorityFromString_range found
  | integer value =>
      simp only [Json.getPriority, ge_iff_le, Bool.and_eq_true, decide_eq_true_eq,
        Option.ite_none_right_eq_some, Option.some.injEq] at found
      obtain ⟨range, rfl⟩ := found
      exact range
  | null | boolean | float | array | object => cases found

theorem normalizeLogLevel_idem (level : String) :
    normalizeLogLevel (normalizeLogLevel level) = normalizeLogLevel level := by
  simp only [normalizeLogLevel, String.toList_ofList, List.map_map]
  congr 1
  apply List.map_congr_left
  intro ch _
  exact Char.toLower_toLower_eq_toLower ch

theorem normalizeLogLevel_of_valid {level : String} (valid : isValidLogLevel level = true) :
    normalizeLogLevel level = level := by
  simp only [isValidLogLevel, Bool.or_eq_true, beq_iff_eq] at valid
  rcases valid with ((rfl | rfl) | rfl) | rfl <;> decide

/-- What holds of every configuration that comes out of a file. -/
structure Config.Representable (config : Config) : Prop where
  collectInterval : narrowInt config.collectInterval = config.collectInterval
  timeSyncInterval : narrowInt config.timeSyncInterval = config.timeSyncInterval
  updateCheckInterval : narrowInt config.updateCheckInterval = config.updateCheckInterval
  triggerMinInterval : narrowInt config.triggerMinInterval = config.triggerMinInterval
  dbusTimeout : narrowInt config.dbusTimeout = config.dbusTimeout
  journalScanTimeout : narrowInt config.journalScanTimeout = config.journalScanTimeout
  logLevel : normalizeLogLevel config.logLevel = config.logLevel
  minPriority : ∀ priority, config.logExcerptMinPriority = some priority →
    0 ≤ priority ∧ priority ≤ 7
  tempWarnC : ∃ rational, config.thresholds.tempWarnC = .finite rational
  tempCritC : ∃ rational, config.thresholds.tempCritC = .finite rational

theorem fieldOr_getInt {json : Json} {key : String} {default value : Int}
    (initial : narrowInt default = default)
    (loaded : json.fieldOr key Json.getInt default = .ok value) : narrowInt value = value :=
  fieldOr_holds (fun value => narrowInt value = value) loaded initial
    (fun _ _ _ found => getInt_narrow found)

theorem representable_defaults : ({} : Config).Representable where
  collectInterval := by decide
  timeSyncInterval := by decide
  updateCheckInterval := by decide
  triggerMinInterval := by decide
  dbusTimeout := by decide
  journalScanTimeout := by decide
  logLevel := by decide
  minPriority := by
    intro priority given
    cases given
  tempWarnC := ⟨70, rfl⟩
  tempCritC := ⟨85, rfl⟩

theorem loadTopLevel_representable {json : Json} {start config : Config}
    (initial : start.Representable) (loaded : start.loadTopLevel json = .ok config) :
    config.Representable := by
  simp only [Config.loadTopLevel, bind_eq_ok, pure_eq_ok] at loaded
  obtain ⟨deviceId, _, platform, _, snapshotFile, _, stateDir, _, collectInterval, collect,
    sampleWindowSec, _, timeSyncInterval, timeSync, updateCheckInterval, update,
    triggerMinInterval, trigger, services, _, mounts, _, interfaces, _, ntp, _, ptp, _, rtc, _,
    rtcDevice, _, thermal, _, tracking, _, logLevel, level, dbusTimeout, dbus, rfl⟩ := loaded
  have lower := fieldOr_holds (fun level => normalizeLogLevel level = level) level initial.logLevel
    (by
      intro member _ result converted
      obtain ⟨text, _, rfl⟩ := Option.map_eq_some_iff.mp converted
      exact normalizeLogLevel_idem text)
  exact { initial with
    collectInterval := fieldOr_getInt initial.collectInterval collect
    timeSyncInterval := fieldOr_getInt initial.timeSyncInterval timeSync
    updateCheckInterval := fieldOr_getInt initial.updateCheckInterval update
    triggerMinInterval := fieldOr_getInt initial.triggerMinInterval trigger
    dbusTimeout := fieldOr_getInt initial.dbusTimeout dbus
    logLevel := lower }

theorem loadLogExcerpt_representable {le : Json} {start config : Config}
    (initial : start.Representable) (loaded : start.loadLogExcerpt le = .ok config) :
    config.Representable := by
  simp only [Config.loadLogExcerpt, bind_eq_ok, pure_eq_ok] at loaded
  obtain ⟨maxLines, _, windowSec, _, scanTimeout, scan, bufferMaxEntries, _, rfl⟩ := loaded
  exact { initial with
    journalScanTimeout := fieldOr_getInt initial.journalScanTimeout scan
    minPriority := by
      intro priority given
      rcases Option.or_eq_some_iff.mp given with found | ⟨_, kept⟩
      · obtain ⟨member, _, converted⟩ := Option.bind_eq_some_iff.mp found
        exact getPriority_range converted
      · exact initial.minPriority priority kept }

theorem Thresholds.load_finite {t : Json} (parsed : t.Parsed) {start thresholds : Thresholds}
    (warn : ∃ rational, start.tempWarnC = .finite rational)
    (crit : ∃ rational, start.tempCritC = .finite rational)
    (loaded : start.load t = .ok thresholds) :
    (∃ rational, thresholds.tempWarnC = .finite rational) ∧
      ∃ rational, thresholds.tempCritC = .finite rational := by
  simp only [Thresholds.load, bind_eq_ok, pure_eq_ok] at loaded
  obtain ⟨_, _, _, _, _, _, _, _, _, _, _, _, tempWarnC, warnLoaded, tempCritC, critLoaded,
    _, _, _, _, _, _, _, _, _, _, _, _, _, _, _, _, rfl⟩ := loaded
  constructor
  · exact fieldOr_holds (fun value => ∃ rational, value = .finite rational) warnLoaded warn
      (fun _ found _ converted => getDouble_finite (parsed.find? found) converted)
  · exact fieldOr_holds (fun value => ∃ rational, value = .finite rational) critLoaded crit
      (fun _ found _ converted => getDouble_finite (parsed.find? found) converted)

theorem block_eq_ok {Value : Type} {json : Json} {key : String}
    {load : Value → Json → Except Unit Value} {start value : Value}
    (loaded : json.block key load start = .ok value) :
    value = start ∨ ∃ member, json.find? key = some member ∧ load start member = .ok value := by
  unfold Json.block at loaded
  cases found : json.find? key with
  | none =>
      rw [found] at loaded
      exact Or.inl (Except.ok.inj loaded).symm
  | some member =>
      rw [found] at loaded
      exact Or.inr ⟨member, rfl, loaded⟩

theorem load_representable {document : Json} (parsed : document.Parsed) {config : Config}
    (loaded : Config.load (.json document) = .ok config) : config.Representable := by
  simp only [Config.load, Config.loadJson, bind_eq_ok, pure_eq_ok] at loaded
  obtain ⟨top, topLoaded, excerpt, excerptLoaded, thresholds, thresholdsLoaded, rfl⟩ := loaded
  have first := loadTopLevel_representable representable_defaults topLoaded
  have second : excerpt.Representable := by
    rcases block_eq_ok excerptLoaded with rfl | ⟨member, _, inner⟩
    · exact first
    · exact loadLogExcerpt_representable first inner
  have finite : (∃ rational, thresholds.tempWarnC = .finite rational) ∧
      ∃ rational, thresholds.tempCritC = .finite rational := by
    rcases block_eq_ok thresholdsLoaded with rfl | ⟨member, found, inner⟩
    · exact ⟨second.tempWarnC, second.tempCritC⟩
    · exact Thresholds.load_finite (parsed.find? found) second.tempWarnC second.tempCritC inner
  exact { second with tempWarnC := finite.1, tempCritC := finite.2 }

section Written

variable {Value : Type}

def Json.converted : Option Value → Except Unit Value
  | some value => .ok value
  | none => .error ()

theorem converted_some (value : Value) : Json.converted (some value) = .ok value := rfl

theorem fieldOr_object_nil (key : String) (get : Json → Option Value) (default : Value) :
    (Json.object []).fieldOr key get default = .ok default := rfl

theorem fieldOr_object_cons (name key : String) (member : Json) (rest : List (String × Json))
    (get : Json → Option Value) (default : Value) :
    (Json.object ((name, member) :: rest)).fieldOr key get default =
      if key = name then Json.converted (get member)
      else (Json.object rest).fieldOr key get default := by
  simp only [Json.fieldOr, Json.field, find?_object_cons]
  by_cases same : key = name
  · simp only [same, if_true]
    cases get member with
    | none => rfl
    | some value => rfl
  · simp only [same, if_false]

end Written

theorem getUint8_toNat (value : UInt8) : Json.getUint8 (.integer value.toNat) = some value := by
  have bound := value.toNat_lt
  have same : UInt8.ofInt value.toNat = value := by
    rw [UInt8.ofInt, Int.emod_eq_of_lt (by omega) (by omega), Int.toNat_natCast,
      UInt8.ofNat_toNat]
  exact congrArg some same

theorem getUint64_toNat (value : UInt64) :
    Json.getUint64 (.integer value.toNat) = some value := by
  have bound := value.toNat_lt
  have same : UInt64.ofInt value.toNat = value := by
    rw [UInt64.ofInt, Int.emod_eq_of_lt (by omega) (by omega), Int.toNat_natCast,
      UInt64.ofNat_toNat]
  exact congrArg some same

theorem getInt_integer (value : Int) : Json.getInt (.integer value) = some (narrowInt value) := rfl

theorem getDouble_ofDouble (value : Rat) :
    Json.getDouble (.ofDouble (.finite value)) = some (.finite value) := rfl

theorem getStrings_ofStrings (strings : List String) :
    Json.getStrings (.ofStrings strings) = some strings := by
  rw [Json.ofStrings, Json.getStrings]
  induction strings with
  | nil => rfl
  | cons first rest ih => simp [List.mapM_cons, getString_string, ih]

theorem Thresholds.load_toJson (start thresholds : Thresholds)
    (warn : ∃ rational, thresholds.tempWarnC = .finite rational)
    (crit : ∃ rational, thresholds.tempCritC = .finite rational) :
    start.load thresholds.toJson = .ok thresholds := by
  obtain ⟨warn, warnEq⟩ := warn
  obtain ⟨crit, critEq⟩ := crit
  simp only [Thresholds.load, Thresholds.toJson, fieldOr_object_cons, String.reduceEq, if_true,
    if_false, getUint8_toNat, getUint32_toNat, warnEq, critEq, getDouble_ofDouble,
    converted_some, ok_bind]
  rw [← warnEq, ← critEq]
  rfl

theorem loadTopLevel_toJson (start config : Config) (representable : config.Representable) :
    start.loadTopLevel config.toJson = .ok { config with
      thresholds := start.thresholds
      logExcerptMaxLines := start.logExcerptMaxLines
      logExcerptMinPriority := start.logExcerptMinPriority
      logExcerptWindowSec := start.logExcerptWindowSec
      journalScanTimeout := start.journalScanTimeout
      journalBufferMaxEntries := start.journalBufferMaxEntries } := by
  simp only [Config.loadTopLevel, Config.toJson, fieldOr_object_cons, String.reduceEq, if_true,
    if_false, getString_string, getBool_boolean, getStrings_ofStrings, getUint32_toNat,
    getInt_integer, representable.collectInterval, representable.timeSyncInterval,
    representable.updateCheckInterval, representable.triggerMinInterval,
    representable.dbusTimeout, representable.logLevel, Option.map_some, converted_some, ok_bind]
  rfl

theorem getPriority_integer {priority : Int} (range : 0 ≤ priority ∧ priority ≤ 7) :
    Json.getPriority (.integer priority) = some priority := by
  have same : narrowInt priority = priority :=
    Int32.toInt_ofInt_of_le (by omega) (by omega)
  simp only [Json.getPriority, same, ge_iff_le, range.1, range.2, decide_true, Bool.and_self,
    if_true]

theorem loadLogExcerpt_toJson (start config : Config) (representable : config.Representable)
    (priority : start.logExcerptMinPriority = none) (window : start.logExcerptWindowSec = none) :
    start.loadLogExcerpt config.logExcerptJson = .ok { start with
      logExcerptMaxLines := config.logExcerptMaxLines
      logExcerptMinPriority := config.logExcerptMinPriority
      logExcerptWindowSec := config.logExcerptWindowSec
      journalScanTimeout := config.journalScanTimeout
      journalBufferMaxEntries := config.journalBufferMaxEntries } := by
  have kept : ∀ least, config.logExcerptMinPriority = some least →
      Json.getPriority (.integer least) = some least :=
    fun least given => getPriority_integer (representable.minPriority least given)
  cases minPriority : config.logExcerptMinPriority <;>
    cases windowSec : config.logExcerptWindowSec <;>
    simp only [Config.loadLogExcerpt, Config.logExcerptJson, Json.optionalMember, minPriority,
      windowSec, priority, window, Option.map_none, Option.map_some, List.append_nil,
      List.cons_append, List.nil_append, find?_object_cons, find?_object_nil,
      fieldOr_object_cons, fieldOr_object_nil, String.reduceEq, if_true, if_false,
      getUint32_toNat, getUint64_toNat, getInt_integer, kept, representable.journalScanTimeout,
      converted_some, ok_bind, Option.bind_none, Option.bind_some, Option.none_or,
      Option.some_or] <;>
    rfl

/-- Loading what a loaded configuration writes gives the configuration back. -/
theorem load_toJson {config : Config} (representable : config.Representable) :
    Config.load (.json config.toJson) = .ok config := by
  have thresholds : config.toJson.find? "thresholds" = some config.thresholds.toJson := by
    simp only [Config.toJson, find?_object_cons, String.reduceEq, if_true, if_false]
  have logExcerpt : config.toJson.find? "log_excerpt" = some config.logExcerptJson := by
    simp only [Config.toJson, find?_object_cons, String.reduceEq, if_true, if_false]
  rw [Config.load, Config.loadJson, loadTopLevel_toJson {} config representable, ok_bind,
    Json.block, logExcerpt]
  simp only
  rw [loadLogExcerpt_toJson _ config representable rfl rfl, ok_bind, Json.block, thresholds]
  simp only
  rw [Thresholds.load_toJson _ _ representable.tempWarnC representable.tempCritC, ok_bind]
  rfl

/-- Whatever a file loads as, with its level or any accepted one, is written so
that it loads as the same configuration. -/
theorem load_toJson_of_load (document : Json) (parsed : document.Parsed) (config : Config)
    (loaded : Config.load (.json document) = .ok config) (level : String)
    (accepted : level = config.logLevel ∨ isValidLogLevel level = true) :
    Config.load (.json { config with logLevel := level }.toJson) =
      .ok { config with logLevel := level } := by
  have representable := load_representable parsed loaded
  have lower : normalizeLogLevel level = level := by
    rcases accepted with rfl | valid
    · exact representable.logLevel
    · exact normalizeLogLevel_of_valid valid
  exact load_toJson { representable with logLevel := lower }

def operatorDocument : Json :=
  .object [("log_level", .string "WARN"), ("collect_interval_sec", .integer 30),
    ("thresholds", .object [("temp_warn_c", .integer 65)]),
    ("log_excerpt", .object [("min_priority", .string "Err"), ("window_sec", .integer 600)])]

def operatorConfig : Config where
  logLevel := "warn"
  collectInterval := 30
  thresholds := { tempWarnC := .finite 65 }
  logExcerptMinPriority := some 3
  logExcerptWindowSec := some 600

theorem operatorDocument_parsed : operatorDocument.Parsed := by
  refine .object _ ?_
  simp only [List.mem_cons, List.not_mem_nil, or_false, forall_eq_or_imp, forall_eq]
  refine ⟨.string _, .integer _ (by decide) (by decide), .object _ ?_, .object _ ?_⟩
  · simp only [List.mem_singleton, forall_eq]
    exact .integer _ (by decide) (by decide)
  · simp only [List.mem_cons, List.not_mem_nil, or_false, forall_eq_or_imp, forall_eq]
    exact ⟨.string _, .integer _ (by decide) (by decide)⟩

theorem operatorDocument_loads : Config.load (.json operatorDocument) = .ok operatorConfig := by
  have found : (Config.load (.json operatorDocument)).toOption = some operatorConfig := by
    decide +kernel
  cases loaded : Config.load (.json operatorDocument) with
  | error failure =>
      rw [loaded] at found
      cases found
  | ok config =>
      rw [loaded] at found
      exact congrArg Except.ok (Option.some.inj found)

theorem load_toJson_operatorConfig :
    Config.load (.json { operatorConfig with logLevel := "debug" }.toJson) =
      .ok { operatorConfig with logLevel := "debug" } :=
  load_toJson_of_load operatorDocument operatorDocument_parsed operatorConfig
    operatorDocument_loads "debug" (Or.inr (by decide))

end EdgeHealthd
