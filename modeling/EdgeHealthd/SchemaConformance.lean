import Mathlib.Algebra.Order.Ring.Int
import Mathlib.Data.Nat.Cast.Order.Ring
import EdgeHealthd.SchemaCore
import EdgeHealthd.SnapshotJson

/-!
Which snapshots have a document that conforms to the schema. Most of the schema holds of
everything `src/json.cpp` writes: the types, the enumerations, the required members. What is
left are the bounds on a few values, and these are the condition, exactly.
-/

namespace EdgeHealthd.JsonSchema

section Values

@[simp] theorem string_string (value : String) : string (.string value) = true := rfl
@[simp] theorem dateTime_time (value : WallTime) : dateTime (.time value) = true := rfl
@[simp] theorem dateTimeOrNull_time (value : WallTime) : dateTimeOrNull (.time value) = true := rfl
@[simp] theorem stringOrNull_string (value : String) : stringOrNull (.string value) = true := rfl
@[simp] theorem boolean_boolean (value : Bool) : boolean (.boolean value) = true := rfl

@[simp] theorem natural_natural (value : Nat) : natural (.natural value) = true := by
  simp [natural, allOf, type, hasType, minimum, Json.natural]

@[simp] theorem severity_severity (value : Severity) : severity (.severity value) = true := by
  cases value <;> rfl

@[simp] theorem serviceState_toString (value : ServiceState) :
    serviceState (.string value.toString) = true := by
  cases value <;> rfl

@[simp] theorem linkState_toString (value : LinkState) :
    linkState (.string value.toString) = true := by
  cases value <;> rfl

@[simp] theorem timeSyncSource_toString (value : TimeSyncSource) :
    timeSyncSource (.string value.toString) = true := by
  cases value <;> rfl

@[simp] theorem timeSyncState_toString (value : TimeSyncState) :
    timeSyncState (.string value.toString) = true := by
  cases value <;> rfl

@[simp] theorem updateResult_toString (value : UpdateResult) :
    updateResult (.string value.toString) = true := by
  cases value <;> rfl

end Values

section Objects

variable (members : List (String × Json))

theorem object_iff (properties : List (Json → Bool)) (keys : List String) :
    object properties keys (.object members) = true ↔
      (∀ key ∈ keys, ((Json.object members).find? key).isSome = true) ∧
        ∀ check ∈ properties, check (.object members) = true := by
  simp [object, allOf, type, hasType, required, Json.find?]

end Objects

theorem all_map {Value : Type} {schema : Json → Bool} {json : Value → Json}
    (conforms : ∀ value, schema (json value) = true) (value : Option Value) :
    (value.map json).all schema = true := by
  cases value with
  | none => rfl
  | some found => exact conforms found

theorem freshness_all (status : SectionFreshness) :
    (status.collectedAt.map Json.time).all dateTime = true := all_map dateTime_time _

section Sections

theorem osInfo_toJson (os : OsInfo) : osInfo os.toJson = true := by
  simp [osInfo, object_iff, OsInfo.toJson, property, find?_object_cons]

theorem device_iff (info : DeviceInfo) : device info.toJson = true ↔ info.deviceId ≠ "" := by
  have length : 1 ≤ info.deviceId.length ↔ info.deviceId ≠ "" := by
    rw [Nat.one_le_iff_ne_zero, ne_eq, String.length_eq_zero_iff]
  simp [device, object_iff, DeviceInfo.toJson, property, find?_object_cons, osInfo_toJson, allOf,
    minLength, length]

theorem boot_iff (status : BootStatus) : boot status.toJson = true ↔ 0 ≤ status.uptime := by
  have reason : (status.lastRebootReason.map Json.string).all stringOrNull = true :=
    all_map stringOrNull_string _
  have uptime : natural (.integer status.uptime) = true ↔ 0 ≤ status.uptime := by
    simp [natural, allOf, type, hasType, minimum]
  simp [boot, object_iff, BootStatus.toJson, property, freshness, find?_object_append,
    find?_object_cons, find?_object_optionalMember, find?_object_emitFreshness, reason, uptime,
    freshness_all]

variable (text : ByteString → String)

theorem lines_iff (lines : List ByteString) :
    (∀ line ∈ lines, logLine (.string (text line)) = true) ↔
      ∀ line ∈ lines, (text line).length ≤ 512 := by
  simp [logLine, allOf, maxLength]

theorem excerpt_iff (lines : List ByteString) :
    (if lines = [] then none else some (Json.texts (lines.map text))).all
        (allOf [type [.array], items logLine, maxItems 20]) = true ↔
      lines.length ≤ 20 ∧ ∀ line ∈ lines, (text line).length ≤ 512 := by
  rw [← lines_iff]
  cases lines with
  | nil => simp
  | cons line rest => simp [allOf, type, hasType, items, maxItems, Json.texts, and_comm]

theorem unit_iff (status : ServiceUnit) : unit (status.toJson text) = true ↔
    status.logExcerpt.length ≤ 20 ∧ ∀ line ∈ status.logExcerpt, (text line).length ≤ 512 := by
  have since : (status.since.map Json.time).all dateTimeOrNull = true :=
    all_map dateTimeOrNull_time _
  have result : (status.result.map Json.string).all stringOrNull = true :=
    all_map stringOrNull_string _
  have detail : (status.detail.map Json.string).all stringOrNull = true :=
    all_map stringOrNull_string _
  simp [unit, object_iff, ServiceUnit.toJson, property, find?_object_append, find?_object_cons,
    find?_object_optionalMember, find?_object_memberIf, since, result, detail, excerpt_iff]

theorem services_iff (status : ServicesStatus) : services (status.toJson text) = true ↔
    ∀ unit ∈ status.units, unit.logExcerpt.length ≤ 20 ∧
      ∀ line ∈ unit.logExcerpt, (text line).length ≤ 512 := by
  simp [services, object_iff, ServicesStatus.toJson, property, freshness, find?_object_cons,
    find?_object_emitFreshness, freshness_all, allOf, type, hasType, items, unit_iff]

theorem journal_iff (status : JournalStatus) : journal (status.toJson text) = true ↔
    ∀ line ∈ status.recentErrors, (text line).length ≤ 512 := by
  rw [← lines_iff]
  simp [journal, object_iff, JournalStatus.toJson, property, freshness, find?_object_cons,
    find?_object_emitFreshness, freshness_all, list, allOf, type, hasType, items, Json.texts]

/-- A load that is not finite is written as zero. -/
def Nonnegative : Double → Prop
  | .finite value => 0 ≤ value
  | .nan | .negInfinity | .posInfinity => True

theorem load_iff (value : Double) :
    load (.float (finiteOrZero value)) = true ↔ Nonnegative value := by
  cases value <;> simp [load, allOf, type, hasType, minimum, finiteOrZero, Nonnegative]

theorem cpu_iff (status : CpuLoad) : cpu status.toJson = true ↔
    Nonnegative status.load1 ∧ Nonnegative status.load5 ∧ Nonnegative status.load15 := by
  simp [cpu, object_iff, CpuLoad.toJson, property, find?_object_cons, load_iff]

theorem memory_toJson (status : MemoryUsage) : memory status.toJson = true := by
  simp [memory, object_iff, MemoryUsage.toJson, property, find?_object_cons]

theorem mount_iff (status : StorageMount) : mount status.toJson = true ↔
    ∀ percent, status.usedPct = some percent → percent ≤ 100 := by
  have available : (status.availMb.map fun value => Json.natural value.toNat).all natural = true :=
    all_map (fun value : UInt64 => natural_natural value.toNat) _
  have used : (status.usedPct.map fun value => Json.natural value.toNat).all
      (allOf [type [.integer], minimum 0, maximum 100]) = true ↔
        ∀ percent, status.usedPct = some percent → percent ≤ 100 := by
    cases status.usedPct with
    | none => simp
    | some percent =>
        simp [allOf, type, hasType, minimum, maximum, Json.natural, UInt8.le_iff_toNat_le]
  simp [mount, object_iff, StorageMount.toJson, property, find?_object_append, find?_object_cons,
    find?_object_optionalMember, available, used]

theorem sensor_toJson (status : ThermalSensor) : sensor status.toJson = true := by
  have temperature : (status.tempC.map fun value => Json.float (finiteOrZero value)).all
      (type [.number]) = true := all_map (fun value => by cases value <;> rfl) _
  simp [sensor, object_iff, ThermalSensor.toJson, property, find?_object_cons,
    find?_object_optionalMember, temperature]

theorem interface_toJson (status : NetworkInterface) : interface status.toJson = true := by
  have address : (status.ip.map Json.string).all stringOrNull = true :=
    all_map stringOrNull_string _
  have speed : (status.speedMbps.map fun value => Json.natural value.toNat).all
      (anyOf [natural, type [.null]]) = true :=
    all_map (fun value => by simp [anyOf]) _
  have duplex : (status.duplex.map fun value => Json.string value.toString).all
      (anyOf [allOf [string, enum ["full", "half", "unknown"]], type [.null]]) = true :=
    all_map (fun value => by cases value <;> rfl) _
  have carrier : type [.boolean, .null] (.boolean status.carrier) = true := rfl
  simp [interface, object_iff, NetworkInterface.toJson, property, counters, find?_object_append,
    find?_object_cons, find?_object_optionalMember, find?_object_memberIf, address, speed, duplex,
    carrier]

theorem resources_iff (status : ResourcesStatus) : resources status.toJson = true ↔
    1 ≤ status.sampleWindowSec ∧
      (Nonnegative status.cpu.load1 ∧ Nonnegative status.cpu.load5 ∧
        Nonnegative status.cpu.load15) ∧
      ∀ mount ∈ status.storage, ∀ percent, mount.usedPct = some percent → percent ≤ 100 := by
  have window : allOf [type [.integer], minimum 1] (.natural status.sampleWindowSec.toNat) = true ↔
      1 ≤ status.sampleWindowSec := by
    simp [allOf, type, hasType, minimum, Json.natural, UInt32.le_iff_toNat_le]
  have mounts : list mount (.array (status.storage.map StorageMount.toJson)) = true ↔
      ∀ mount ∈ status.storage, ∀ percent, mount.usedPct = some percent → percent ≤ 100 := by
    simp [list, allOf, type, hasType, items, mount_iff]
  have sensors : list sensor (.array (status.thermal.map ThermalSensor.toJson)) = true := by
    simp [list, allOf, type, hasType, items, sensor_toJson]
  have interfaces : list interface (.array (status.network.map NetworkInterface.toJson)) = true := by
    simp [list, allOf, type, hasType, items, interface_toJson]
  simp [resources, object_iff, ResourcesStatus.toJson, property, freshness, find?_object_cons,
    find?_object_emitFreshness, freshness_all, window, mounts, sensors, interfaces, cpu_iff,
    memory_toJson]
theorem ntp_toJson (status : NtpStatus) : ntp status.toJson = true := by
  have clock : (status.state.map fun value => Json.string value.toString).all timeSyncState =
      true := all_map timeSyncState_toString _
  have sync : (status.lastSyncAt.map Json.time).all dateTimeOrNull = true :=
    all_map dateTimeOrNull_time _
  simp [ntp, object_iff, NtpStatus.toJson, property, find?_object_append, find?_object_cons,
    find?_object_optionalMember, clock, sync]

theorem ptp_toJson (status : PtpStatus) : ptp status.toJson = true := by
  have name : (status.interface.map Json.string).all stringOrNull = true :=
    all_map stringOrNull_string _
  have offset : (status.offsetNs.map Json.integer).all (type [.integer, .null]) = true :=
    all_map (fun _ => rfl) _
  have rms : (status.rmsNs.map fun value => Json.natural value.toNat).all
      (allOf [type [.integer, .null], minimum 0]) = true :=
    all_map (fun value => by simp [allOf, type, hasType, minimum, Json.natural]) _
  have clock : (status.state.map fun value => Json.string value.toString).all timeSyncState =
      true := all_map timeSyncState_toString _
  have sync : (status.lastSyncAt.map Json.time).all dateTimeOrNull = true :=
    all_map dateTimeOrNull_time _
  have role : (status.role.map Json.string).all stringOrNull = true :=
    all_map stringOrNull_string _
  simp [ptp, object_iff, PtpStatus.toJson, property, find?_object_append, find?_object_cons,
    find?_object_optionalMember, name, offset, rms, clock, sync, role]

theorem timeSync_toJson (status : TimeSyncStatus) : timeSync status.toJson = true := by
  simp [timeSync, object_iff, TimeSyncStatus.toJson, property, freshness, find?_object_cons,
    find?_object_emitFreshness, freshness_all, ntp_toJson, ptp_toJson]

theorem lastUpdate_toJson (status : LastUpdate) : lastUpdate status.toJson = true := by
  have installed : (status.installedAt.map Json.time).all dateTimeOrNull = true :=
    all_map dateTimeOrNull_time _
  have detail : (status.detail.map Json.string).all stringOrNull = true :=
    all_map stringOrNull_string _
  simp [lastUpdate, object_iff, LastUpdate.toJson, property, find?_object_append,
    find?_object_cons, find?_object_optionalMember, installed, detail]

theorem update_toJson (status : UpdateStatus) : update status.toJson = true := by
  have slot : (status.activeSlot.map Json.string).all stringOrNull = true :=
    all_map stringOrNull_string _
  have last : (status.lastUpdate.map LastUpdate.toJson).all
      (anyOf [lastUpdate, type [.null]]) = true :=
    all_map (fun value => by simp [anyOf, lastUpdate_toJson]) _
  simp [update, object_iff, UpdateStatus.toJson, property, freshness, find?_object_append,
    find?_object_cons, find?_object_optionalMember, find?_object_emitFreshness, freshness_all,
    slot, last]

theorem artifact_toJson (status : CrashArtifact) : artifact status.toJson = true := by
  have modified : (status.mtime.map Json.time).all dateTimeOrNull = true :=
    all_map dateTimeOrNull_time _
  simp [artifact, object_iff, CrashArtifact.toJson, property, find?_object_append,
    find?_object_cons, find?_object_optionalMember, find?_object_memberIf, modified]

theorem crash_iff (status : CrashStatus) : crash status.toJson = true ↔
    ∀ source, status.source = some source → source = "pstore" := by
  have source : (status.source.map Json.string).all
      (anyOf [allOf [string, enum ["pstore"]], type [.null]]) = true ↔
        ∀ source, status.source = some source → source = "pstore" := by
    cases status.source with
    | none => simp
    | some source => simp [anyOf, allOf, enum, type, hasType]
  have panicked : (status.lastPanicAt.map Json.time).all dateTimeOrNull = true :=
    all_map dateTimeOrNull_time _
  have fingerprint : (status.fingerprint.map Json.string).all stringOrNull = true :=
    all_map stringOrNull_string _
  have artifacts : list artifact (.array (status.artifacts.map CrashArtifact.toJson)) = true := by
    simp [list, allOf, type, hasType, items, artifact_toJson]
  simp [crash, object_iff, CrashStatus.toJson, property, freshness, find?_object_append,
    find?_object_cons, find?_object_optionalMember, find?_object_emitFreshness, freshness_all,
    source, panicked, fingerprint, artifacts]

theorem domains_toJson (status : DomainSeverities) : domains status.toJson = true := by
  simp [domains, allOf, type, hasType, onlyProperties, domainKeys, property,
    DomainSeverities.toJson, find?_object_cons]

theorem dropWhile_code {code : List Char} (rest : List Char) (plain : ':' ∉ code) :
    (code ++ rest).dropWhile (· != ':') = rest.dropWhile (· != ':') := by
  apply List.dropWhile_append_of_pos
  intro ch member
  rw [bne_iff_ne]
  rintro rfl
  exact plain member

theorem reasonPattern_iff (reason : String) :
    reasonPattern reason = true ↔ MatchesPattern reason := by
  constructor
  · intro accepted
    have whole := List.takeWhile_append_dropWhile (p := (· != ':')) (l := reason.toList)
    simp only [reasonPattern, Bool.and_eq_true] at accepted
    obtain ⟨code, subject⟩ := accepted
    cases behind : reason.toList.dropWhile (· != ':') with
    | nil =>
        rw [behind, List.append_nil] at whole
        exact Or.inl (whole ▸ code)
    | cons mark rest =>
        have colon : mark = ':' := by
          have stop := List.head?_dropWhile_not (· != ':') reason.toList
          simpa [behind] using stop
        rw [behind] at subject
        rw [behind, colon] at whole
        exact Or.inr ⟨_, rest, whole.symm, code, subject⟩
  · rintro (code | ⟨code, subject, split, codeValid, subjectValid⟩)
    · have plain := colon_not_mem_of_isCode code
      have before := takeWhile_code [] plain
      have behind := dropWhile_code [] plain
      rw [List.append_nil] at before behind
      simp [reasonPattern, before, behind, code]
    · have plain := colon_not_mem_of_isCode codeValid
      simp [reasonPattern, split, takeWhile_code _ plain, dropWhile_code _ plain, codeValid,
        subjectValid]

theorem summary_iff (status : SnapshotSummary) : summary status.toJson = true ↔
    ∀ reason ∈ status.reasons, MatchesPattern reason := by
  have notes : (status.notes.map Json.string).all stringOrNull = true :=
    all_map stringOrNull_string _
  have reasons : list (allOf [string, pattern reasonPattern]) (.texts status.reasons) = true ↔
      ∀ reason ∈ status.reasons, MatchesPattern reason := by
    simp [list, allOf, type, hasType, items, Json.texts, pattern, reasonPattern_iff]
  simp [summary, object_iff, SnapshotSummary.toJson, property, find?_object_cons,
    find?_object_optionalMember, domains_toJson, notes, reasons]

end Sections

/-- The bounds of the schema that the types of the code do not imply. -/
structure Conforming (text : ByteString → String) (state : SnapshotState) : Prop where
  deviceId : state.device.deviceId ≠ ""
  uptime : 0 ≤ state.boot.uptime
  excerpts : ∀ unit ∈ state.services.units, unit.logExcerpt.length ≤ 20 ∧
    ∀ line ∈ unit.logExcerpt, (text line).length ≤ 512
  window : 1 ≤ state.resources.sampleWindowSec
  loads : Nonnegative state.resources.cpu.load1 ∧ Nonnegative state.resources.cpu.load5 ∧
    Nonnegative state.resources.cpu.load15
  mounts : ∀ mount ∈ state.resources.storage, ∀ percent, mount.usedPct = some percent →
    percent ≤ 100
  errors : ∀ line ∈ state.journal.recentErrors, (text line).length ≤ 512
  source : ∀ source, state.crash.source = some source → source = "pstore"
  reasons : ∀ reason ∈ state.summary.reasons, MatchesPattern reason

theorem snapshot_sections (text : ByteString → String) (state : SnapshotState) :
    snapshot (state.toJson text) = true ↔
      device state.device.toJson = true ∧ boot state.boot.toJson = true ∧
        services (state.services.toJson text) = true ∧ resources state.resources.toJson = true ∧
        journal (state.journal.toJson text) = true ∧ crash state.crash.toJson = true ∧
        summary state.summary.toJson = true := by
  have named : const "edge.health.state" (.string "edge.health.state") = true := rfl
  have version : const "1.1" (.string "1.1") = true := rfl
  simp [snapshot, object_iff, SnapshotState.toJson, property, find?_object_cons, named, version,
    timeSync_toJson, update_toJson]

/-- A document conforms exactly when the bounds hold: everything else that the schema asks
is true of every snapshot. -/
theorem document_conforms_iff (text : ByteString → String) (state : SnapshotState) :
    snapshot (state.toJson text) = true ↔ Conforming text state := by
  rw [snapshot_sections, device_iff, boot_iff, services_iff, resources_iff, journal_iff, crash_iff,
    summary_iff]
  constructor
  · rintro ⟨deviceId, uptime, excerpts, ⟨window, loads, mounts⟩, errors, source, reasons⟩
    exact ⟨deviceId, uptime, excerpts, window, loads, mounts, errors, source, reasons⟩
  · intro conforming
    exact ⟨conforming.deviceId, conforming.uptime, conforming.excerpts,
      ⟨conforming.window, conforming.loads, conforming.mounts⟩, conforming.errors,
      conforming.source, conforming.reasons⟩

end EdgeHealthd.JsonSchema
