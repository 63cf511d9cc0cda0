import EdgeHealthd.WebUi
import EdgeHealthd.SnapshotJsonCore
import EdgeHealthd.Aggregator
import EdgeHealthd.Reasons
import EdgeHealthd.ResourcesProbeCore

/-!
The readings that the page colours. The daemon names a flagged reading in a reason
`code:subject`, the page looks a reading up by its name, so the two agree exactly where
the names tell the readings apart.
-/

namespace EdgeHealthd.WebUi

open Throwing

theorem colon_split (code subject : String) (plain : ':' ∉ code.toList) :
    (code ++ ":" ++ subject).toList.takeWhile (· ≠ ':') = code.toList ∧
      (code ++ ":" ++ subject).toList.dropWhile (· ≠ ':') = ':' :: subject.toList := by
  have letters : (code ++ ":" ++ subject).toList = code.toList ++ (':' :: subject.toList) := by
    simp [String.toList_append]
  have before : ∀ ch ∈ code.toList, decide (ch ≠ ':') = true := by
    intro ch member
    rw [decide_eq_true_eq]
    rintro rfl
    exact plain member
  rw [letters, List.takeWhile_append_of_pos before, List.dropWhile_append_of_pos before]
  simp

theorem no_colon (code : String) (plain : ':' ∉ code.toList) :
    code.toList.dropWhile (· ≠ ':') = [] := by
  rw [List.dropWhile_eq_nil_iff]
  intro ch member
  rw [decide_eq_true_eq]
  rintro rfl
  exact plain member

theorem parseReason_subject (code subject : String) (plain : ':' ∉ code.toList) :
    parseReason (.string (code ++ ":" ++ subject)) =
      .ok ⟨.string code, some (.string subject)⟩ := by
  obtain ⟨before, after⟩ := colon_split code subject plain
  simp only [parseReason, after, before, String.ofList_toList]

theorem parseReason_plain (code : String) (plain : ':' ∉ code.toList) :
    parseReason (.string code) = .ok ⟨.string code, none⟩ := by
  simp only [parseReason, no_colon code plain]

def points (code subject raw : String) : Bool :=
  match parseReason (.string raw) with
  | .ok reason => reason.matches code (some subject)
  | .error _ => false

theorem points_subject (code subject given name : String)
    (plain : ':' ∉ given.toList) :
    points code subject (given ++ ":" ++ name) = true ↔ given = code ∧ name = subject := by
  simp [points, parseReason_subject _ _ plain, Reason.matches, isText]

theorem points_plain (code subject raw : String) (plain : ':' ∉ raw.toList) :
    points code subject raw = false := by
  simp [points, parseReason_plain _ plain, Reason.matches, isText]

section Reasons

variable (code subject : String)

theorem exists_points_append (first second : List String) :
    (∃ raw ∈ first ++ second, points code subject raw = true) ↔
      (∃ raw ∈ first, points code subject raw = true) ∨
        ∃ raw ∈ second, points code subject raw = true := by
  simp only [List.mem_append, or_and_right, exists_or]

theorem exists_points_if {condition : Prop} [Decidable condition] (reason : String)
    (rest : List String) :
    (∃ raw ∈ if condition then [reason] else rest, points code subject raw = true) ↔
      condition ∧ points code subject reason = true ∨
        ¬condition ∧ ∃ raw ∈ rest, points code subject raw = true := by
  by_cases holds : condition
  · simp [holds]
  · simp [holds]

theorem exists_points_filterMap {Item : Type} (flagged : Item → Bool) (reason : Item → String)
    (items : List Item) :
    (∃ raw ∈ items.filterMap fun item =>
        if flagged item = true then some (reason item) else none,
      points code subject raw = true) ↔
      ∃ item ∈ items, flagged item = true ∧ points code subject (reason item) = true := by
  simp only [mem_filterMap_if]
  constructor
  · rintro ⟨_, ⟨item, member, flag, rfl⟩, pointed⟩
    exact ⟨item, member, flag, pointed⟩
  · rintro ⟨item, member, flag, pointed⟩
    exact ⟨_, ⟨item, member, flag, rfl⟩, pointed⟩

theorem points_svcFailed (name : String) :
    points code subject ("svc_failed:" ++ name) = true ↔ "svc_failed" = code ∧ name = subject :=
  points_subject code subject "svc_failed" name (by decide)

theorem points_diskUsedHigh (mount : String) :
    points code subject ("disk_used_high:" ++ mount) = true ↔
      "disk_used_high" = code ∧ mount = subject :=
  points_subject code subject "disk_used_high" mount (by decide)

theorem points_tempHigh (sensor : String) :
    points code subject (if sensor != "" then "temp_high:" ++ sensor else "temp_high") = true ↔
      sensor ≠ "" ∧ "temp_high" = code ∧ sensor = subject := by
  by_cases unnamed : sensor = ""
  · simp [unnamed, points_plain code subject "temp_high" (by decide)]
  · simp only [bne_iff_ne, ne_eq, unnamed, not_false_eq_true, if_true, true_and]
    exact points_subject code subject "temp_high" sensor (by decide)

variable (config : Config) (sections : SnapshotState)

theorem exists_points_reasons :
    (∃ raw ∈ sections.reasons config, points code subject raw = true) ↔
      (∃ unit ∈ sections.services.units, (unit.state == .failed) = true ∧
        "svc_failed" = code ∧ unit.name = subject) ∨
      (∃ mount ∈ sections.resources.storage, mountFlagged config mount = true ∧
        "disk_used_high" = code ∧ mount.mount = subject) ∨
      ∃ sensor ∈ sections.resources.thermal, sensorFlagged config sensor = true ∧
        sensor.sensor ≠ "" ∧ "temp_high" = code ∧ sensor.sensor = subject := by
  have silent : ¬∃ raw ∈ ([] : List String), points code subject raw = true := by simp
  have plain : ∀ raw ∈ ["boot_failures", "mem_used_high", "time_unsynced", "rtc_battery_low",
      "update_failed", "journal_errors", "kernel_panic_detected", "historical_crash_artifacts",
      "pstore_records_present"], points code subject raw = false := by
    intro raw member
    refine points_plain code subject raw ?_
    revert raw
    decide
  simp only [List.mem_cons, List.not_mem_nil, or_false, forall_eq_or_imp, forall_eq] at plain
  obtain ⟨boot, memory, unsynced, battery, update, journal, panic, historical, pstore⟩ := plain
  simp only [reasons_eq, exists_points_append, exists_points_if, silent, boot, memory, unsynced,
    battery, update, journal, panic, historical, pstore, exists_points_filterMap,
    points_svcFailed, points_diskUsedHigh, points_tempHigh, Bool.false_eq_true, and_false, or_false,
    false_or, or_assoc]

end Reasons

section Document

variable (builtins : Builtins) (text : ByteString → String) (config : Config)
  (loadPct : CpuLoad → Double) (sections : SnapshotState)

def writtenDocument : Json :=
  SnapshotState.toJson text
    { aggregateSections config loadPct sections.generatedAt sections with cycle := sections.cycle }

theorem writtenDocument_summary :
    ∃ top summary domains,
      writtenDocument text config loadPct sections = .object top ∧
      (Json.object top).find? "summary" = some (.object summary) ∧
      (Json.object summary).find? "reasons" =
        some (.array ((sections.reasons config).map .string)) ∧
      (Json.object summary).find? "domains" = some (.object domains) :=
  ⟨_, _, _, rfl, rfl, rfl, rfl⟩

theorem writtenDocument_accepted (digit : builtins.ofText "1" = .finite 1) :
    parseHealthState builtins (writtenDocument text config loadPct sections) =
      .ok (writtenDocument text config loadPct sections) := by
  have version : schemaVersion (writtenDocument text config loadPct sections) = "1.1" := rfl
  have first : String.ofList ("1.1".toList.takeWhile (· ≠ '.')) = "1" := by decide
  have major : schemaMajor builtins
      (schemaVersion (writtenDocument text config loadPct sections)) = .finite 1 := by
    rw [version, schemaMajor, first, digit]
  simp only [parseHealthState, require_bind_eq_ok, requireAll_bind_eq_ok, major]
  refine ⟨rfl, rfl, rfl, rfl, ?_, rfl, rfl, rfl, rfl, ?_, rfl, rfl, rfl, rfl, rfl⟩
  · intro key member
    simp only [WebUi.sections, List.mem_cons, List.not_mem_nil, or_false] at member
    rcases member with rfl | rfl | rfl | rfl | rfl | rfl | rfl | rfl <;> rfl
  · intro key member
    simp only [List.mem_cons, List.not_mem_nil, or_false] at member
    rcases member with rfl | rfl <;> rfl

theorem hasReason_writtenDocument (code subject : String) :
    hasReason (writtenDocument text config loadPct sections) code (some subject) =
      .ok ((sections.reasons config).any (points code subject)) := by
  obtain ⟨top, summary, domains, same, found, named, _⟩ :=
    writtenDocument_summary text config loadPct sections
  have decided : ∀ raw ∈ (sections.reasons config).map Json.string,
      (do return (← parseReason raw).matches code (some subject)) =
        Except.ok ((raw.getString.map (points code subject)).getD false) := by
    intro raw member
    obtain ⟨reason, _, rfl⟩ := List.mem_map.mp member
    obtain ⟨parsed, found⟩ := (returns_parseReason (.string reason)).mpr (Or.inl rfl)
    simp only [found, ok_bind, Json.getString, Option.map_some, Option.getD_some, points]
    rfl
  rw [same, hasReason_eq found named, any_eq_ok decided, List.any_map]
  rfl

theorem resourceFlag_writtenDocument (code subject : String) :
    (∃ level, resourceFlag (writtenDocument text config loadPct sections) code (some subject) =
        .ok (some level)) ↔
      ∃ raw ∈ sections.reasons config, points code subject raw = true := by
  obtain ⟨top, summary, domains, same, found, _, graded⟩ :=
    writtenDocument_summary text config loadPct sections
  rw [resourceFlag, hasReason_writtenDocument, ok_bind, ← List.any_eq_true, same]
  simp only [property_object, found, graded, ok_bind]
  cases (sections.reasons config).any (points code subject) with
  | false => simp [pure, Except.pure]
  | true => simp [pure, Except.pure]

theorem mountFlag_iff (mount : StorageMount) :
    (∃ level, mountFlag (writtenDocument text config loadPct sections) mount.toJson =
        .ok (some level)) ↔
      ∃ other ∈ sections.resources.storage,
        other.mount = mount.mount ∧ mountFlagged config other = true := by
  have name : (mount.toJson.find? "mount").bind Json.getString = some mount.mount := rfl
  rw [mountFlag, name, resourceFlag_writtenDocument, exists_points_reasons]
  constructor
  · rintro (⟨_, _, _, other, _⟩ | ⟨other, inside, flagged, _, same⟩ | ⟨_, _, _, _, other, _⟩)
    · exact absurd other (by decide)
    · exact ⟨other, inside, same, flagged⟩
    · exact absurd other (by decide)
  · rintro ⟨other, inside, same, flagged⟩
    exact Or.inr (Or.inl ⟨other, inside, flagged, rfl, same⟩)

theorem sensorFlag_iff (sensor : ThermalSensor) :
    (∃ level, sensorFlag (writtenDocument text config loadPct sections) sensor.toJson =
        .ok (some level)) ↔
      ∃ other ∈ sections.resources.thermal,
        other.sensor ≠ "" ∧ other.sensor = sensor.sensor ∧ sensorFlagged config other = true := by
  have name : (sensor.toJson.find? "sensor").bind Json.getString = some sensor.sensor := rfl
  rw [sensorFlag, name, resourceFlag_writtenDocument, exists_points_reasons]
  constructor
  · rintro (⟨_, _, _, other, _⟩ | ⟨_, _, _, other, _⟩ | ⟨other, inside, flagged, named, _, same⟩)
    · exact absurd other (by decide)
    · exact absurd other (by decide)
    · exact ⟨other, inside, named, same, flagged⟩
  · rintro ⟨other, inside, named, same, flagged⟩
    exact Or.inr (Or.inr ⟨other, inside, flagged, named, rfl, same⟩)

end Document

theorem mountFlagged_iff (config : Config) (mount : StorageMount) :
    mountFlagged config mount = true ↔
      ∃ usedPct, mount.usedPct = some usedPct ∧ config.thresholds.diskUsedWarn ≤ usedPct := by
  simp [mountFlagged, Option.any_eq_true]

theorem sensorFlagged_iff (config : Config) (sensor : ThermalSensor) :
    sensorFlagged config sensor = true ↔
      ∃ tempC, sensor.tempC = some tempC ∧ tempC.ge config.thresholds.tempWarnC = true := by
  simp [sensorFlagged, Option.any_eq_true]

/-- No shown reading below its threshold shares its name with one at or above it, and no
shown sensor at or above it has an empty name. -/
structure NamesTellApart (config : Config) (resources : ResourcesStatus) : Prop where
  mounts : ∀ mount ∈ resources.storage, shownMount mount.toJson = true →
    ∀ other ∈ resources.storage, other.mount = mount.mount →
      mountFlagged config other = true → mountFlagged config mount = true
  named : ∀ sensor ∈ resources.thermal, shownSensor sensor.toJson = true →
    sensorFlagged config sensor = true → sensor.sensor ≠ ""
  sensors : ∀ sensor ∈ resources.thermal, shownSensor sensor.toJson = true →
    ∀ other ∈ resources.thermal, other.sensor ≠ "" → other.sensor = sensor.sensor →
      sensorFlagged config other = true → sensorFlagged config sensor = true

/-- The page accepts the document, and colours exactly the shown readings at or above their
thresholds where the names tell the readings apart. -/
theorem flags_match_readings_iff (builtins : Builtins) (digit : builtins.ofText "1" = .finite 1)
    (text : ByteString → String) (config : Config) (loadPct : CpuLoad → Double)
    (sections : SnapshotState) :
    parseHealthState builtins (writtenDocument text config loadPct sections) =
        .ok (writtenDocument text config loadPct sections) ∧
      (((∀ mount ∈ sections.resources.storage, shownMount mount.toJson = true →
          ((∃ level, mountFlag (writtenDocument text config loadPct sections) mount.toJson =
              .ok (some level)) ↔
            ∃ usedPct, mount.usedPct = some usedPct ∧
              config.thresholds.diskUsedWarn ≤ usedPct)) ∧
        ∀ sensor ∈ sections.resources.thermal, shownSensor sensor.toJson = true →
          ((∃ level, sensorFlag (writtenDocument text config loadPct sections) sensor.toJson =
              .ok (some level)) ↔
            ∃ tempC, sensor.tempC = some tempC ∧
              tempC.ge config.thresholds.tempWarnC = true)) ↔
        NamesTellApart config sections.resources) := by
  refine ⟨writtenDocument_accepted builtins text config loadPct sections digit, ?_⟩
  simp only [mountFlag_iff, sensorFlag_iff, ← mountFlagged_iff, ← sensorFlagged_iff]
  constructor
  · rintro ⟨mounts, sensors⟩
    refine ⟨?_, ?_, ?_⟩
    · intro mount member shown other inside same flagged
      exact (mounts mount member shown).mp ⟨other, inside, same, flagged⟩
    · intro sensor member shown flagged
      obtain ⟨other, _, named, same, _⟩ := (sensors sensor member shown).mpr flagged
      exact same ▸ named
    · intro sensor member shown other inside named same flagged
      exact (sensors sensor member shown).mp ⟨other, inside, named, same, flagged⟩
  · intro apart
    constructor
    · intro mount member shown
      constructor
      · rintro ⟨other, inside, same, flagged⟩
        exact apart.mounts mount member shown other inside same flagged
      · intro flagged
        exact ⟨mount, member, rfl, flagged⟩
    · intro sensor member shown
      constructor
      · rintro ⟨other, inside, named, same, flagged⟩
        exact apart.sensors sensor member shown other inside named same flagged
      · intro flagged
        exact ⟨sensor, member, apart.named sensor member shown flagged, rfl, flagged⟩

def zoneSections (zones : List (String × Int)) : SnapshotState where
  resources := {
    thermal := ResourcesProbe.collectThermal (fun millidegrees => .finite (millidegrees / 1000))
      (zones.map fun zone =>
        { name := "thermal_zone", typeLine := some zone.1, millidegrees := some zone.2 }) }

theorem distinct_zones_coloured :
    NamesTellApart {} (zoneSections [("cpu", 95000), ("gpu", 45000)]).resources ∧
      ∀ sensor ∈ (zoneSections [("cpu", 95000), ("gpu", 45000)]).resources.thermal,
        shownSensor sensor.toJson = true →
          ((∃ level, sensorFlag (writtenDocument (fun _ => "") {} (fun _ => .finite 0)
              (zoneSections [("cpu", 95000), ("gpu", 45000)])) sensor.toJson = .ok (some level)) ↔
            ∃ tempC, sensor.tempC = some tempC ∧ tempC.ge (.finite 70) = true) := by
  have apart : NamesTellApart {} (zoneSections [("cpu", 95000), ("gpu", 45000)]).resources := by
    refine ⟨?_, ?_, ?_⟩
    · decide
    · decide +kernel
    · decide +kernel
  exact ⟨apart, ((flags_match_readings_iff versionOnly rfl (fun _ => "") {} (fun _ => .finite 0)
    (zoneSections [("cpu", 95000), ("gpu", 45000)])).2.mpr apart).2⟩

/-- A hot zone without a type is not coloured, and a cool zone is where a hot one has the
same type. -/
theorem zones_wrongly_coloured :
    (∃ sensor ∈ (zoneSections [("", 95000)]).resources.thermal,
      shownSensor sensor.toJson = true ∧ sensorFlagged {} sensor = true ∧
        ¬∃ level, sensorFlag (writtenDocument (fun _ => "") {} (fun _ => .finite 0)
          (zoneSections [("", 95000)])) sensor.toJson = .ok (some level)) ∧
    ∃ sensor ∈ (zoneSections [("cpu", 95000), ("cpu", 45000)]).resources.thermal,
      shownSensor sensor.toJson = true ∧ sensorFlagged {} sensor = false ∧
        ∃ level, sensorFlag (writtenDocument (fun _ => "") {} (fun _ => .finite 0)
          (zoneSections [("cpu", 95000), ("cpu", 45000)])) sensor.toJson = .ok (some level) := by
  simp only [sensorFlag_iff]
  constructor
  · decide +kernel
  · decide +kernel

end EdgeHealthd.WebUi
