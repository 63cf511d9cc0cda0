import EdgeHealthd.Reasons

/-!
The resource reasons against the resource classes. `generate_reasons` compares
each reading with the warn threshold only; the evaluators test availability first
and then both thresholds. `Config::validate` keeps the thresholds in an order in
which the two agree on every element.
-/

namespace EdgeHealthd

def withCode (code : String) (reasons : List String) : List String :=
  reasons.filter fun reason => reasonCode reason == code.toList

theorem reasonCode_subject (code subject : String) (plain : ':' ∉ code.toList) :
    reasonCode (code ++ ":" ++ subject) = code.toList := by
  rw [reasonCode, String.append_assoc, String.toList_append,
    takeWhile_code (":" ++ subject).toList plain, String.toList_append]
  simp

theorem reasonCode_tempHigh (sensor : String) :
    reasonCode (if sensor != "" then "temp_high:" ++ sensor else "temp_high") =
      "temp_high".toList := by
  split
  · exact reasonCode_subject "temp_high" sensor (by decide)
  · decide

theorem withCode_append (code : String) (first second : List String) :
    withCode code (first ++ second) = withCode code first ++ withCode code second :=
  List.filter_append ..

theorem withCode_if (code reason : String) (condition : Prop) [Decidable condition]
    (rest : List String) :
    withCode code (if condition then [reason] else rest) =
      if condition then (if reasonCode reason == code.toList then [reason] else [])
      else withCode code rest := by
  by_cases holds : condition
  · simp only [holds, ↓reduceIte]
    exact List.filter_cons
  · simp only [holds, ↓reduceIte]

theorem withCode_nil (code : String) : withCode code [] = [] := rfl

/-- All reasons of one loop have the same code: they are kept or dropped together. -/
theorem withCode_filterMap {Item : Type} (code own : String) (flagged : Item → Bool)
    (reason : Item → String) (owned : ∀ item, reasonCode (reason item) = own.toList)
    (items : List Item) :
    withCode code (items.filterMap fun item =>
        if flagged item = true then some (reason item) else none) =
      if own = code then (items.filter flagged).map reason else [] := by
  induction items with
  | nil => simp [withCode]
  | cons item rest ih =>
      rw [List.filterMap_cons, List.filter_cons]
      by_cases flag : flagged item = true
      · simp only [flag, ↓reduceIte]
        rw [withCode, List.filter_cons, owned]
        by_cases same : own = code
        · simp only [same, ↓reduceIte] at ih
          simp only [same, ↓reduceIte, beq_self_eq_true, List.map_cons]
          rw [← ih, withCode]
        · have differs : (own.toList == code.toList) = false := by
            rw [beq_eq_false_iff_ne]
            intro equal
            exact same (String.toList_inj.mp equal)
          simp only [same, ↓reduceIte] at ih
          simp only [same, differs, ↓reduceIte, Bool.false_eq_true]
          exact ih
      · simp only [flag, ↓reduceIte, Bool.false_eq_true]
        exact ih

theorem validate_temperatures (config : Config) (valid : config.validate = none) :
    config.thresholds.tempWarnC.ge config.thresholds.tempCritC = false := by
  simp only [Config.validate, ite_some_eq_none_iff] at valid
  obtain ⟨_, _, _, _, _, _, _, _, _, _, _, _, temperature, _⟩ := valid
  simpa using temperature

theorem Double.ge_trans_not_ge {value low high : Double} (above : value.ge high = true)
    (ordered : low.ge high = false) (number : low ≠ .nan) : value.ge low = true := by
  cases value <;> cases high <;> cases low <;>
    simp_all only [Double.ge, decide_eq_true_eq, decide_eq_false_iff_not, ne_eq,
      not_true_eq_false, reduceCtorEq, Bool.true_eq_false, Bool.false_eq_true]
  rename_i value high low
  exact Rat.le_trans (Rat.le_of_lt (Rat.not_le.mp ordered)) above

section Elements

variable (config : Config)

/-- A reading is present exactly where the element is available. -/
structure ReadingsMatch (resources : ResourcesStatus) : Prop where
  storage : ∀ mount ∈ resources.storage, mount.available = mount.usedPct.isSome
  thermal : ∀ sensor ∈ resources.thermal, sensor.available = sensor.tempC.isSome

theorem collectMount_readings (replies : MountReplies) (path : String) :
    (ResourcesProbe.collectMount replies path).available =
      (ResourcesProbe.collectMount replies path).usedPct.isSome := by
  unfold ResourcesProbe.collectMount
  cases replies.statvfs with
  | none => rfl
  | some stat =>
      dsimp only
      split
      · rfl
      · rfl

theorem collectZone_readings (celsius : Int → Double) (zone : ThermalZone) :
    (ResourcesProbe.collectZone celsius zone).available =
      (ResourcesProbe.collectZone celsius zone).tempC.isSome := by
  unfold ResourcesProbe.collectZone
  cases zone.millidegrees with
  | none => rfl
  | some millidegrees =>
      dsimp only
      split
      · rfl
      · rfl

theorem collect_readingsMatch {celsius : Int → Double} {replies : ResourceReplies}
    {resources : ResourcesStatus}
    (returned : ResourcesProbe.collect config celsius replies = .ok resources) :
    ReadingsMatch resources := by
  unfold ResourcesProbe.collect at returned
  split at returned
  · cases returned
  · cases returned
    constructor
    · intro mount member
      obtain ⟨⟨path, index⟩, _, rfl⟩ := List.mem_map.mp member
      exact collectMount_readings (replies.mounts index) path
    · intro sensor member
      dsimp only at member
      split at member
      · obtain ⟨zone, _, rfl⟩ := List.mem_map.mp member
        exact collectZone_readings celsius zone
      · cases member

theorem mountFlagged_eq (valid : config.validate = none) {mount : StorageMount}
    (matched : mount.available = mount.usedPct.isSome) :
    mountFlagged config mount = (mountClass config mount).isDegraded := by
  rw [Bool.eq_iff_iff, mountClass_degraded_iff config valid]
  refine ⟨fun flag => ⟨?_, flag⟩, And.right⟩
  obtain ⟨usedPct, reading, _⟩ := Option.any_eq_true _ _ |>.mp flag
  rw [matched, reading, Option.isSome_some]

theorem sensorFlagged_eq (valid : config.validate = none)
    (number : config.thresholds.tempWarnC ≠ .nan) {sensor : ThermalSensor}
    (matched : sensor.available = sensor.tempC.isSome) :
    sensorFlagged config sensor = (sensorClass config sensor).isDegraded := by
  have ordered := validate_temperatures config valid
  rw [Bool.eq_iff_iff, sensorClass_degraded_iff, matched]
  cases reading : sensor.tempC with
  | none => simp [sensorFlagged, sensorCritical, reading]
  | some tempC =>
      simp only [sensorFlagged, sensorCritical, reading, Option.any_some, Option.isSome_some,
        true_and]
      constructor
      · exact Or.inr
      · rintro (crit | warn)
        · exact Double.ge_trans_not_ge crit ordered number
        · exact warn

theorem degraded_of_isGreatest {Item : Type} {grade : Item → Severity} {items : List Item}
    {overall : Severity} (greatest : IsGreatest (insert .ok (Rollup.grades grade items)) overall) :
    overall.isDegraded = true ↔ ∃ item ∈ items, (grade item).isDegraded = true := by
  constructor
  · intro degraded
    rcases Set.mem_insert_iff.mp greatest.1 with calm | graded
    · rw [calm] at degraded
      cases degraded
    · obtain ⟨item, member, rfl⟩ := graded
      exact ⟨item, member, degraded⟩
  · rintro ⟨item, member, degraded⟩
    rw [isDegraded_iff] at degraded ⊢
    exact degraded.trans (greatest.2 (Set.mem_insert_of_mem _ ⟨item, member, rfl⟩))

theorem evaluateDisk_degraded_iff (storage : List StorageMount) :
    (evaluateDisk config storage).isDegraded = true ↔
      ∃ mount ∈ storage, (mountClass config mount).isDegraded = true :=
  degraded_of_isGreatest (evaluateDisk_isGreatest config storage)

theorem evaluateThermal_degraded_iff (thermal : List ThermalSensor) :
    (evaluateThermal config thermal).isDegraded = true ↔
      ∃ sensor ∈ thermal, (sensorClass config sensor).isDegraded = true :=
  degraded_of_isGreatest (evaluateThermal_isGreatest config thermal)

end Elements

section Sections

variable (config : Config) (sections : SnapshotState)

/-- A code that only the resource part of `generate_reasons` writes. -/
def isResourceCode (code : String) : Bool :=
  ["mem_used_high", "disk_used_high", "temp_high"].contains code

def foreignReasons : List String :=
  ["boot_failures", "time_unsynced", "rtc_battery_low", "update_failed", "journal_errors",
    "kernel_panic_detected", "historical_crash_artifacts", "pstore_records_present"]

theorem foreignReasons_code {code : String} (resource : isResourceCode code = true) :
    foreignReasons.all (fun reason => reasonCode reason != code.toList) = true := by
  simp only [isResourceCode, List.contains_iff_mem, List.mem_cons, List.not_mem_nil, or_false]
    at resource
  obtain rfl | rfl | rfl := resource
  · decide
  · decide
  · decide

theorem withCode_resources {code : String} (resource : isResourceCode code = true) :
    withCode code (sections.reasons config) =
      (if memoryFlagged config sections.resources.memory = true then
        withCode code ["mem_used_high"] else []) ++
      (if "disk_used_high" = code then
        (sections.resources.storage.filter (mountFlagged config)).map fun mount =>
          "disk_used_high:" ++ mount.mount else []) ++
      (if "temp_high" = code then
        (sections.resources.thermal.filter (sensorFlagged config)).map fun sensor =>
          if sensor.sensor != "" then "temp_high:" ++ sensor.sensor else "temp_high" else []) := by
  have foreign := foreignReasons_code resource
  simp only [foreignReasons, List.all_cons, List.all_nil, Bool.and_true, Bool.and_eq_true,
    bne_iff_ne, ne_eq, ← beq_eq_false_iff_ne] at foreign
  obtain ⟨boot, unsynced, battery, update, journal, panic, historical, pstore⟩ := foreign
  have services : "svc_failed" ≠ code := by
    rintro rfl
    revert resource
    decide
  have units := withCode_filterMap code "svc_failed"
    (fun unit : ServiceUnit => unit.state == .failed) (fun unit => "svc_failed:" ++ unit.name)
    (fun unit => reasonCode_subject "svc_failed" unit.name (by decide)) sections.services.units
  have mounts := withCode_filterMap code "disk_used_high" (mountFlagged config)
    (fun mount : StorageMount => "disk_used_high:" ++ mount.mount)
    (fun mount => reasonCode_subject "disk_used_high" mount.mount (by decide))
    sections.resources.storage
  have sensors := withCode_filterMap code "temp_high" (sensorFlagged config)
    (fun sensor : ThermalSensor =>
      if sensor.sensor != "" then "temp_high:" ++ sensor.sensor else "temp_high")
    (fun sensor => reasonCode_tempHigh sensor.sensor) sections.resources.thermal
  have single : ∀ reason, withCode code [reason] =
      if reasonCode reason == code.toList then [reason] else [] := fun _ => List.filter_cons
  simp only [reasons_eq, withCode_append, units, mounts, sensors, withCode_if, withCode_nil, boot,
    unsynced, battery, update, journal, panic, historical, pstore, services, single, ite_self,
    Bool.false_eq_true, ↓reduceIte, List.append_nil, List.nil_append]

variable (valid : config.validate = none) (matched : ReadingsMatch sections.resources)

include valid matched

theorem diskReasons_eq :
    withCode "disk_used_high" (sections.reasons config) =
      (sections.resources.storage.filter fun mount =>
        (mountClass config mount).isDegraded).map fun mount =>
          "disk_used_high:" ++ mount.mount := by
  have flagged : sections.resources.storage.filter (mountFlagged config) =
      sections.resources.storage.filter fun mount => (mountClass config mount).isDegraded :=
    List.filter_congr fun mount member =>
      mountFlagged_eq config valid (matched.storage mount member)
  rw [withCode_resources config sections (by decide), flagged, if_pos rfl,
    if_neg (show "temp_high" ≠ "disk_used_high" by decide)]
  have memory : withCode "disk_used_high" ["mem_used_high"] = [] := by decide
  rw [memory, ite_self, List.nil_append, List.append_nil]

theorem temperatureReasons_eq (number : config.thresholds.tempWarnC ≠ .nan) :
    withCode "temp_high" (sections.reasons config) =
      (sections.resources.thermal.filter fun sensor =>
        (sensorClass config sensor).isDegraded).map fun sensor =>
          if sensor.sensor != "" then "temp_high:" ++ sensor.sensor else "temp_high" := by
  have flagged : sections.resources.thermal.filter (sensorFlagged config) =
      sections.resources.thermal.filter fun sensor => (sensorClass config sensor).isDegraded :=
    List.filter_congr fun sensor member =>
      sensorFlagged_eq config valid number (matched.thermal sensor member)
  rw [withCode_resources config sections (by decide), flagged, if_pos rfl,
    if_neg (show "disk_used_high" ≠ "temp_high" by decide)]
  have memory : withCode "temp_high" ["mem_used_high"] = [] := by decide
  rw [memory, ite_self, List.nil_append, List.nil_append]

omit matched in
theorem memoryReasons_eq :
    withCode "mem_used_high" (sections.reasons config) =
      if (evaluateMemory config sections.resources.memory).isDegraded = true then
        ["mem_used_high"] else [] := by
  have kept : withCode "mem_used_high" ["mem_used_high"] = ["mem_used_high"] := by decide
  rw [withCode_resources config sections (by decide),
    if_neg (show "disk_used_high" ≠ "mem_used_high" by decide),
    if_neg (show "temp_high" ≠ "mem_used_high" by decide), kept, List.append_nil, List.append_nil]
  simp only [evaluateMemory_degraded_iff config valid]

/-- The reasons of each kind are those of the degraded elements, one for each and
in their order, so the resources are degraded by memory, storage or temperature
exactly when a reason of these kinds is present. -/
theorem resource_reasons_eq_classes (number : config.thresholds.tempWarnC ≠ .nan) :
    withCode "disk_used_high" (sections.reasons config) =
      (sections.resources.storage.filter fun mount =>
        (mountClass config mount).isDegraded).map (fun mount =>
          "disk_used_high:" ++ mount.mount) ∧
    withCode "temp_high" (sections.reasons config) =
      (sections.resources.thermal.filter fun sensor =>
        (sensorClass config sensor).isDegraded).map (fun sensor =>
          if sensor.sensor != "" then "temp_high:" ++ sensor.sensor else "temp_high") ∧
    withCode "mem_used_high" (sections.reasons config) =
      (if (evaluateMemory config sections.resources.memory).isDegraded = true then
        ["mem_used_high"] else []) ∧
    ((evaluateMemory config sections.resources.memory).isDegraded = true ∨
        (evaluateDisk config sections.resources.storage).isDegraded = true ∨
        (evaluateThermal config sections.resources.thermal).isDegraded = true ↔
      withCode "mem_used_high" (sections.reasons config) ≠ [] ∨
        withCode "disk_used_high" (sections.reasons config) ≠ [] ∨
        withCode "temp_high" (sections.reasons config) ≠ []) := by
  have disk := diskReasons_eq config sections valid matched
  have temperature := temperatureReasons_eq config sections valid matched number
  have memory := memoryReasons_eq config sections valid
  refine ⟨disk, temperature, memory, or_congr ?_ (or_congr ?_ ?_)⟩
  · rw [memory]
    by_cases degraded : (evaluateMemory config sections.resources.memory).isDegraded = true
    · simp [degraded]
    · simp [degraded]
  · rw [disk, evaluateDisk_degraded_iff, ne_eq, List.map_eq_nil_iff, List.filter_eq_nil_iff]
    simp
  · rw [temperature, evaluateThermal_degraded_iff, ne_eq, List.map_eq_nil_iff,
      List.filter_eq_nil_iff]
    simp

end Sections

def hotSections : SnapshotState where
  resources := {
    memory := { memTotalMb := 1000, memUsedMb := 990 }
    storage := [{ mount := "/", usedPct := some 99 }, { mount := "/data", available := false }]
    thermal := [{ sensor := "", tempC := some (.finite 200) }] }

theorem hotSections_reasons :
    withCode "disk_used_high" (hotSections.reasons {}) = ["disk_used_high:/"] ∧
      withCode "temp_high" (hotSections.reasons {}) = ["temp_high"] := by
  have matched : ReadingsMatch hotSections.resources := by
    constructor
    · simp [hotSections]
    · simp [hotSections]
  obtain ⟨disk, temperature, _, _⟩ :=
    resource_reasons_eq_classes {} hotSections (by decide) matched (by decide)
  refine ⟨disk.trans ?_, temperature.trans ?_⟩
  · decide
  · decide

end EdgeHealthd
