import EdgeHealthd.ConfigFile

/-!
The integers of a configuration file. Each field has its own width, and
`nlohmann::json::get<T>` narrows to it without a check, so a field holds what was
written exactly when that number fits the width; `Config::validate` runs after the
narrowing and cannot tell.
-/

namespace EdgeHealthd

open Throwing

inductive IntegerWidth
  | uint8
  | uint32
  | int
  | uint64
  deriving DecidableEq

def IntegerWidth.low : IntegerWidth → Int
  | .uint8 | .uint32 | .uint64 => 0
  | .int => -2147483648

def IntegerWidth.high : IntegerWidth → Int
  | .uint8 => 255
  | .uint32 => 4294967295
  | .int => 2147483647
  | .uint64 => 18446744073709551615

/-- The C++ narrowing conversion, as the integer the field then holds. -/
def IntegerWidth.narrow : IntegerWidth → Int → Int
  | .uint8, value => (UInt8.ofInt value).toNat
  | .uint32, value => (UInt32.ofInt value).toNat
  | .int, value => narrowInt value
  | .uint64, value => (UInt64.ofInt value).toNat

def IntegerWidth.Fits (width : IntegerWidth) (value : Int) : Prop :=
  width.low ≤ value ∧ value ≤ width.high

theorem narrow_eq_iff (width : IntegerWidth) (value : Int) :
    width.narrow value = value ↔ width.Fits value := by
  cases width with
  | uint8 =>
      simp only [IntegerWidth.narrow, IntegerWidth.Fits, IntegerWidth.low, IntegerWidth.high,
        UInt8.ofInt, UInt8.toNat_ofNat']
      omega
  | uint32 =>
      simp only [IntegerWidth.narrow, IntegerWidth.Fits, IntegerWidth.low, IntegerWidth.high,
        UInt32.ofInt, UInt32.toNat_ofNat']
      omega
  | int =>
      simp only [IntegerWidth.narrow, IntegerWidth.Fits, IntegerWidth.low, IntegerWidth.high,
        narrowInt, Int32.toInt_ofInt, Int32.size, Int.bmod]
      omega
  | uint64 =>
      simp only [IntegerWidth.narrow, IntegerWidth.Fits, IntegerWidth.low, IntegerWidth.high,
        UInt64.ofInt, UInt64.toNat_ofNat']
      omega

/-- A field that is read from an integer: where it stands in the document, how wide
it is, and what it holds. -/
structure IntegerField where
  block : Option String
  key : String
  width : IntegerWidth
  value : Config → Option Int

def topLevelIntegers : List IntegerField := [
  ⟨none, "collect_interval_sec", .int, fun config => some config.collectInterval⟩,
  ⟨none, "sample_window_sec", .uint32, fun config => some config.sampleWindowSec.toNat⟩,
  ⟨none, "time_sync_interval_sec", .int, fun config => some config.timeSyncInterval⟩,
  ⟨none, "update_check_interval_sec", .int, fun config => some config.updateCheckInterval⟩,
  ⟨none, "trigger_min_interval_sec", .int, fun config => some config.triggerMinInterval⟩,
  ⟨none, "dbus_timeout_ms", .int, fun config => some config.dbusTimeout⟩]

def logExcerptIntegers : List IntegerField := [
  ⟨"log_excerpt", "max_lines", .uint32, fun config => some config.logExcerptMaxLines.toNat⟩,
  ⟨"log_excerpt", "window_sec", .uint64,
    fun config => config.logExcerptWindowSec.map fun window => (window.toNat : Int)⟩,
  ⟨"log_excerpt", "scan_timeout_ms", .int, fun config => some config.journalScanTimeout⟩,
  ⟨"log_excerpt", "buffer_max_entries", .uint32,
    fun config => some config.journalBufferMaxEntries.toNat⟩]

def thresholdInteger (key : String) (width : IntegerWidth) (value : Thresholds → Nat) :
    IntegerField :=
  ⟨"thresholds", key, width, fun config => some (value config.thresholds)⟩

def thresholdIntegers : List IntegerField := [
  thresholdInteger "cpu_load_warn" .uint8 (·.cpuLoadWarn.toNat),
  thresholdInteger "cpu_load_crit" .uint8 (·.cpuLoadCrit.toNat),
  thresholdInteger "mem_used_warn" .uint8 (·.memUsedWarn.toNat),
  thresholdInteger "mem_used_crit" .uint8 (·.memUsedCrit.toNat),
  thresholdInteger "disk_used_warn" .uint8 (·.diskUsedWarn.toNat),
  thresholdInteger "disk_used_crit" .uint8 (·.diskUsedCrit.toNat),
  thresholdInteger "service_restart_warn" .uint32 (·.serviceRestartWarn.toNat),
  thresholdInteger "service_restart_crit" .uint32 (·.serviceRestartCrit.toNat),
  thresholdInteger "boot_fail_warn" .uint32 (·.bootFailWarn.toNat),
  thresholdInteger "boot_fail_crit" .uint32 (·.bootFailCrit.toNat),
  thresholdInteger "ptp_offset_warn_ns" .uint32 (·.ptpOffsetWarnNs.toNat),
  thresholdInteger "ptp_offset_crit_ns" .uint32 (·.ptpOffsetCritNs.toNat),
  thresholdInteger "rtc_voltage_warn_mv" .uint32 (·.rtcVoltageWarnMv.toNat),
  thresholdInteger "rtc_voltage_crit_mv" .uint32 (·.rtcVoltageCritMv.toNat)]

/-- Every integer field but `log_excerpt.min_priority`, which has a range of its own. -/
def integerFields : List IntegerField :=
  topLevelIntegers ++ logExcerptIntegers ++ thresholdIntegers

def Json.integer? : Json → Option Int
  | .integer value => some value
  | _ => none

def IntegerField.written (field : IntegerField) (document : Json) : Option Int :=
  let block := match field.block with
    | none => some document
    | some name => document.find? name
  (block.bind fun block => block.find? field.key).bind Json.integer?

theorem integer?_eq_some {json : Json} {value : Int} :
    json.integer? = some value ↔ json = .integer value := by
  cases json <;> simp [Json.integer?]

theorem fieldOr_integer {Value : Type} {json : Json} {key : String} {get : Json → Option Value}
    {default result : Value} {value : Int} (convert : Int → Value)
    (converts : ∀ integer, get (.integer integer) = some (convert integer))
    (loaded : json.fieldOr key get default = .ok result)
    (found : json.find? key = some (.integer value)) : result = convert value := by
  rw [Json.fieldOr, Json.field, found] at loaded
  simp only [converts, Except.map, Option.getD_some, Except.ok.injEq] at loaded
  exact loaded.symm

/-- A field set from a member of `json` holds the narrowed integer of that member. -/
def SetsNarrowed (json : Json) (config : Config) (field : IntegerField) : Prop :=
  ∀ value, json.find? field.key = some (.integer value) →
    field.value config = some (field.width.narrow value)

theorem loadTopLevel_narrows {json : Json} {start config : Config}
    (loaded : start.loadTopLevel json = .ok config) :
    ∀ field ∈ topLevelIntegers, SetsNarrowed json config field := by
  simp only [Config.loadTopLevel, bind_eq_ok, pure_eq_ok] at loaded
  obtain ⟨deviceId, _, platform, _, snapshotFile, _, stateDir, _, collectInterval, collect,
    sampleWindowSec, sample, timeSyncInterval, timeSync, updateCheckInterval, update,
    triggerMinInterval, trigger, services, _, mounts, _, interfaces, _, ntp, _, ptp, _, rtc, _,
    rtcDevice, _, thermal, _, tracking, _, logLevel, _, dbusTimeout, dbus, rfl⟩ := loaded
  have int : ∀ {key : String} {default result value : Int},
      json.fieldOr key Json.getInt default = .ok result →
      json.find? key = some (.integer value) → some result = some (narrowInt value) :=
    fun loaded found => congrArg some (fieldOr_integer narrowInt (fun _ => rfl) loaded found)
  simp only [topLevelIntegers, List.mem_cons, List.not_mem_nil, or_false, forall_eq_or_imp,
    forall_eq]
  refine ⟨fun value found => int collect found, fun value found => ?_,
    fun value found => int timeSync found, fun value found => int update found,
    fun value found => int trigger found, fun value found => int dbus found⟩
  obtain rfl := fieldOr_integer UInt32.ofInt (fun _ => rfl) sample found
  rfl

theorem loadLogExcerpt_narrows {json : Json} {start config : Config}
    (loaded : start.loadLogExcerpt json = .ok config) :
    (∀ field ∈ logExcerptIntegers, SetsNarrowed json config field) ∧
      ∀ field ∈ topLevelIntegers, field.value config = field.value start := by
  simp only [Config.loadLogExcerpt, bind_eq_ok, pure_eq_ok] at loaded
  obtain ⟨maxLines, lines, windowSec, window, scanTimeout, scan, bufferMaxEntries, entries,
    rfl⟩ := loaded
  constructor
  · simp only [logExcerptIntegers, List.mem_cons, List.not_mem_nil, or_false, forall_eq_or_imp,
      forall_eq]
    refine ⟨fun value found => ?_, fun value found => ?_, fun value found => ?_,
      fun value found => ?_⟩
    · obtain rfl := fieldOr_integer UInt32.ofInt (fun _ => rfl) lines found
      rfl
    · obtain rfl := fieldOr_integer (fun integer => some (UInt64.ofInt integer)) (fun _ => rfl)
        window found
      rfl
    · obtain rfl := fieldOr_integer narrowInt (fun _ => rfl) scan found
      rfl
    · obtain rfl := fieldOr_integer UInt32.ofInt (fun _ => rfl) entries found
      rfl
  · simp only [topLevelIntegers, List.mem_cons, List.not_mem_nil, or_false, forall_eq_or_imp,
      forall_eq, and_self]

theorem Thresholds.load_narrows {json : Json} {start thresholds : Thresholds}
    (loaded : start.load json = .ok thresholds) (config : Config) :
    ∀ field ∈ thresholdIntegers, SetsNarrowed json { config with thresholds } field := by
  simp only [Thresholds.load, bind_eq_ok, pure_eq_ok] at loaded
  obtain ⟨_, cpuWarn, _, cpuCrit, _, memWarn, _, memCrit, _, diskWarn, _, diskCrit, _, _, _, _,
    _, restartWarn, _, restartCrit, _, bootWarn, _, bootCrit, _, ptpWarn, _, ptpCrit,
    _, rtcWarn, _, rtcCrit, rfl⟩ := loaded
  have uint8 : ∀ {key : String} {default result : UInt8} {value : Int},
      json.fieldOr key Json.getUint8 default = .ok result →
      json.find? key = some (.integer value) →
      some (result.toNat : Int) = some ((UInt8.ofInt value).toNat : Int) := by
    intro key default result value loaded found
    rw [fieldOr_integer UInt8.ofInt (fun _ => rfl) loaded found]
  have uint32 : ∀ {key : String} {default result : UInt32} {value : Int},
      json.fieldOr key Json.getUint32 default = .ok result →
      json.find? key = some (.integer value) →
      some (result.toNat : Int) = some ((UInt32.ofInt value).toNat : Int) := by
    intro key default result value loaded found
    rw [fieldOr_integer UInt32.ofInt (fun _ => rfl) loaded found]
  simp only [thresholdIntegers, thresholdInteger, List.mem_cons, List.not_mem_nil, or_false,
    forall_eq_or_imp, forall_eq]
  exact ⟨fun _ found => uint8 cpuWarn found, fun _ found => uint8 cpuCrit found,
    fun _ found => uint8 memWarn found, fun _ found => uint8 memCrit found,
    fun _ found => uint8 diskWarn found, fun _ found => uint8 diskCrit found,
    fun _ found => uint32 restartWarn found, fun _ found => uint32 restartCrit found,
    fun _ found => uint32 bootWarn found, fun _ found => uint32 bootCrit found,
    fun _ found => uint32 ptpWarn found, fun _ found => uint32 ptpCrit found,
    fun _ found => uint32 rtcWarn found, fun _ found => uint32 rtcCrit found⟩

theorem block_of_find {Value : Type} {json member : Json} {key : String}
    {load : Value → Json → Except Unit Value} {start value : Value}
    (loaded : json.block key load start = .ok value) (found : json.find? key = some member) :
    load start member = .ok value := by
  rwa [Json.block, found] at loaded

theorem value_with_thresholds (config : Config) (thresholds : Thresholds) :
    ∀ field ∈ topLevelIntegers ++ logExcerptIntegers,
      field.value { config with thresholds } = field.value config := by
  simp [topLevelIntegers, logExcerptIntegers]

theorem integers_block :
    (∀ field ∈ topLevelIntegers, field.block = none) ∧
      (∀ field ∈ logExcerptIntegers, field.block = some "log_excerpt") ∧
      ∀ field ∈ thresholdIntegers, field.block = some "thresholds" := by
  simp [topLevelIntegers, logExcerptIntegers, thresholdIntegers, thresholdInteger]

theorem written_topLevel {field : IntegerField} (member : field ∈ topLevelIntegers)
    {document : Json} {value : Int} (written : field.written document = some value) :
    document.find? field.key = some (.integer value) := by
  rw [IntegerField.written, integers_block.1 field member] at written
  obtain ⟨json, found, integer⟩ := Option.bind_eq_some_iff.mp written
  rw [Option.bind_some] at found
  rw [found, integer?_eq_some.mp integer]

theorem written_block {field : IntegerField} {name : String} (block : field.block = some name)
    {document : Json} {value : Int} (written : field.written document = some value) :
    ∃ json, document.find? name = some json ∧ json.find? field.key = some (.integer value) := by
  rw [IntegerField.written, block] at written
  obtain ⟨json, found, integer⟩ := Option.bind_eq_some_iff.mp written
  obtain ⟨inner, present, found⟩ := Option.bind_eq_some_iff.mp found
  exact ⟨inner, present, by rw [found, integer?_eq_some.mp integer]⟩

theorem load_narrows {document : Json} {config : Config}
    (loaded : Config.load (.json document) = .ok config) :
    ∀ field ∈ integerFields, ∀ value, field.written document = some value →
      field.value config = some (field.width.narrow value) := by
  simp only [Config.load, Config.loadJson, bind_eq_ok, pure_eq_ok] at loaded
  obtain ⟨top, topLoaded, excerpt, excerptLoaded, thresholds, thresholdsLoaded, rfl⟩ := loaded
  intro field member value written
  simp only [integerFields, List.mem_append] at member
  rcases member with (member | member) | member
  · have kept : field.value excerpt = field.value top := by
      rcases block_eq_ok excerptLoaded with rfl | ⟨block, _, inner⟩
      · rfl
      · exact (loadLogExcerpt_narrows inner).2 field member
    rw [value_with_thresholds excerpt thresholds field (List.mem_append_left _ member), kept]
    exact loadTopLevel_narrows topLoaded field member value (written_topLevel member written)
  · obtain ⟨json, present, found⟩ := written_block (integers_block.2.1 field member) written
    rw [value_with_thresholds excerpt thresholds field (List.mem_append_right _ member)]
    exact (loadLogExcerpt_narrows (block_of_find excerptLoaded present)).1 field member value found
  · obtain ⟨json, present, found⟩ := written_block (integers_block.2.2 field member) written
    exact Thresholds.load_narrows (block_of_find thresholdsLoaded present) excerpt field member
      value found

def HoldsWrittenIntegers (document : Json) (config : Config) : Prop :=
  ∀ field ∈ integerFields, ∀ value, field.written document = some value →
    field.value config = some value

def WrittenIntegersFit (document : Json) : Prop :=
  ∀ field ∈ integerFields, ∀ value, field.written document = some value → field.width.Fits value

/-- A document that loads and is accepted keeps its integers exactly when each of
them fits the type of its field. -/
theorem holdsWrittenIntegers_iff (document : Json) (config : Config)
    (loaded : Config.load (.json document) = .ok config) (_accepted : config.validate = none) :
    HoldsWrittenIntegers document config ↔ WrittenIntegersFit document := by
  refine forall_congr' fun field => forall_congr' fun member => forall_congr' fun value =>
    forall_congr' fun written => ?_
  rw [load_narrows loaded field member value written, Option.some.injEq, narrow_eq_iff]

theorem holdsWrittenIntegers_operatorDocument :
    HoldsWrittenIntegers operatorDocument operatorConfig := by
  refine (holdsWrittenIntegers_iff operatorDocument operatorConfig operatorDocument_loads
    (by decide)).mpr ?_
  have checked : ∀ field ∈ integerFields, (field.written operatorDocument).all
      (fun value => decide (field.width.low ≤ value ∧ value ≤ field.width.high)) = true := by
    decide +kernel
  intro field member value written
  have fits := checked field member
  simpa only [written, Option.all_some, decide_eq_true_eq, IntegerWidth.Fits] using fits

-- The value is 80 + 256.
def oversizedDocument : Json :=
  .object [("thresholds", .object [("cpu_load_warn", .integer 336)])]

theorem oversized_threshold_accepted :
    ∃ config, Config.load (.json oversizedDocument) = .ok config ∧ config.validate = none ∧
      ¬HoldsWrittenIntegers oversizedDocument config := by
  refine ⟨{}, by rfl, by decide, ?_⟩
  intro holds
  have wrong := holds (thresholdInteger "cpu_load_warn" .uint8 (·.cpuLoadWarn.toNat))
    (by simp [integerFields, thresholdIntegers]) 336 (by decide +kernel)
  exact absurd wrong (by decide)

end EdgeHealthd
