import EdgeHealthd.DeviceProbe
import EdgeHealthd.SchemaBounds
import EdgeHealthd.SchemaConformance

/-!
The schema over whole runs. The probes keep most of the bounds by themselves; the others are
bounds on what they read, and a run that reads within them publishes conforming documents only.
-/

namespace EdgeHealthd.JsonSchema

def FromDevice (config : Config) (input : CycleInput) : Prop :=
  ∃ replies, input.device.result = DeviceProbe.collect config replies

section Probes

variable {config : Config}

theorem servicesReturned_lines {status : ServicesStatus}
    (returned : ProbeReturns config .services status) :
    ∀ unit ∈ status.units, ∀ line ∈ unit.logExcerpt, line.length ≤ 512 := by
  obtain ⟨journal, bus, collected⟩ := returned
  intro unit member line inside
  cases bus with
  | none =>
      obtain rfl := Except.ok.inj collected
      obtain ⟨name, _, rfl⟩ := List.mem_map.mp member
      cases inside
  | some replies =>
      obtain rfl := Except.ok.inj collected
      obtain ⟨⟨name, index⟩, _, rfl⟩ := List.mem_map.mp member
      simp only [queryAndEvaluate_excerpt] at inside
      split at inside
      · cases journal with
        | none => cases inside
        | some reader =>
            exact unitLines_length_le config (replies index) name reader line
              (List.mem_of_mem_take inside)
      · cases inside

theorem filterJournalEntries_length {now : UInt64} {entries : List JournalEntry} :
    ∀ line ∈ filterJournalEntries config now entries, line.length ≤ 512 := by
  intro line member
  have kept := (List.mem_filter.mp (List.mem_of_mem_take member)).1
  obtain ⟨entry, _, rfl⟩ := List.mem_map.mp kept
  exact List.length_take_le _ _

theorem journalReturned_lines {status : JournalStatus}
    (returned : ProbeReturns config .journal status) :
    ∀ line ∈ status.recentErrors, line.length ≤ 512 := by
  obtain ⟨clocks, reader, collected⟩ := returned
  intro line member
  cases reader with
  | none =>
      obtain rfl := Except.ok.inj collected
      cases member
  | some reader =>
      obtain rfl := Except.ok.inj collected
      exact filterJournalEntries_length line member

theorem crashReturned_source {status : CrashStatus} (returned : ProbeReturns config .crash status) :
    ∀ source, status.source = some source → source = "pstore" := by
  obtain ⟨clocks, pstore, file, collected⟩ := returned
  obtain rfl := Except.ok.inj collected
  intro source found
  simp only [CrashStatus.compareAcknowledged, CrashProbe.scan] at found
  split at found
  · cases found
  · exact (Option.some.inj found).symm

theorem resourcesReturned_window {status : ResourcesStatus}
    (returned : ProbeReturns config .resources status) :
    status.sampleWindowSec = config.sampleWindowSec := by
  obtain ⟨celsius, replies, collected⟩ := returned
  unfold ResourcesProbe.collect at collected
  split at collected
  · cases collected
  · rw [← Except.ok.inj collected]

end Probes

section Runs

variable (config : Config) (loadPct : CpuLoad → Double) (healthManager : Option HealthManager)
  (inputs : List CycleInput)

theorem runCycles_deviceId (identified : ∀ input ∈ inputs, FromDevice config input) :
    ∀ report ∈ (runCycles config loadPct healthManager inputs).2,
      report.snapshot.device.deviceId ≠ "" := by
  have shown := runCycles_payloads_iff config loadPct healthManager .device
    (fun info => info.deviceId ≠ "") (fun _ => Iff.rfl) (by decide) inputs
  refine shown.mpr ?_
  intro report member success found
  obtain ⟨past, input, rest, shape, rfl⟩ := mem_runCycles config loadPct healthManager member
  obtain ⟨replies, result⟩ := identified input (by simp [shape])
  rw [collectionCycle_success] at found
  have called := successOf_eq_some found
  simp only [Slot.call] at called
  split at called
  · exact DeviceProbe.collect_deviceId_ne_empty (result.symm.trans (Option.some.inj called))
  · cases called

theorem runCycles_journal_lines (probed : ∀ input ∈ inputs, input.FromProbes config) :
    ∀ report ∈ (runCycles config loadPct healthManager inputs).2,
      ∀ line ∈ report.snapshot.journal.recentErrors, line.length ≤ 512 := by
  have shown := runCycles_payloads_iff config loadPct healthManager .journal
    (fun status => ∀ line ∈ status.recentErrors, line.length ≤ 512) (fun _ => Iff.rfl)
    (by simp [Section.initial]) inputs
  refine shown.mpr ?_
  intro report member success found
  exact journalReturned_lines (runCycles_success_returns config loadPct healthManager inputs probed
    .journal report member success found)

theorem runCycles_crash_source (probed : ∀ input ∈ inputs, input.FromProbes config) :
    ∀ report ∈ (runCycles config loadPct healthManager inputs).2,
      ∀ source, report.snapshot.crash.source = some source → source = "pstore" := by
  have shown := runCycles_payloads_iff config loadPct healthManager .crash
    (fun status => ∀ source, status.source = some source → source = "pstore") (fun _ => Iff.rfl)
    (by simp [Section.initial]) inputs
  refine shown.mpr ?_
  intro report member success found
  exact crashReturned_source (runCycles_success_returns config loadPct healthManager inputs probed
    .crash report member success found)

/-- The bounds that the readings of a cycle have to keep. -/
structure ReadsWithin (config : Config) (report : CycleReport) : Prop where
  uptime : ∀ success, report.success .boot = some success → 0 ≤ success.payload.uptime
  excerpts : ∀ success, report.success .services = some success →
    ∀ unit ∈ success.payload.units, unit.logExcerpt.length ≤ 20
  failed : ∀ success, report.success .services = some success →
    ∀ unit ∈ success.payload.units, unit.state = .failed → '@' ∉ unit.name.toList
  resources : ∀ success, report.success .resources = some success →
    1 ≤ config.sampleWindowSec ∧
      (Nonnegative success.payload.cpu.load1 ∧ Nonnegative success.payload.cpu.load5 ∧
        Nonnegative success.payload.cpu.load15) ∧
      (∀ mount ∈ success.payload.storage, ∀ percent, mount.usedPct = some percent →
        percent ≤ 100) ∧
      ResourceNamesMatch config success.payload

theorem runCycles_uptime_iff :
    (∀ report ∈ (runCycles config loadPct healthManager inputs).2,
        0 ≤ report.snapshot.boot.uptime) ↔
      ∀ report ∈ (runCycles config loadPct healthManager inputs).2, ∀ success,
        report.success .boot = some success → 0 ≤ success.payload.uptime :=
  runCycles_payloads_iff config loadPct healthManager .boot (fun status => 0 ≤ status.uptime)
    (fun _ => Iff.rfl) (by decide) inputs

theorem runCycles_units_iff (probed : ∀ input ∈ inputs, input.FromProbes config)
    {text : ByteString → String} (shorter : ∀ line, (text line).length ≤ line.length) :
    (∀ report ∈ (runCycles config loadPct healthManager inputs).2,
        (∀ unit ∈ report.snapshot.services.units, unit.logExcerpt.length ≤ 20 ∧
          ∀ line ∈ unit.logExcerpt, (text line).length ≤ 512) ∧
        UnitNamesMatch report.snapshot.services) ↔
      ∀ report ∈ (runCycles config loadPct healthManager inputs).2, ∀ success,
        report.success .services = some success →
          (∀ unit ∈ success.payload.units, unit.logExcerpt.length ≤ 20) ∧
          ∀ unit ∈ success.payload.units, unit.state = .failed → '@' ∉ unit.name.toList := by
  have shown := runCycles_payloads_iff config loadPct healthManager .services
    (fun status => (∀ unit ∈ status.units, unit.logExcerpt.length ≤ 20 ∧
      ∀ line ∈ unit.logExcerpt, (text line).length ≤ 512) ∧ UnitNamesMatch status)
    (fun _ => Iff.rfl) (by simp [Section.initial, UnitNamesMatch]) inputs
  refine shown.trans ?_
  have returned := runCycles_success_returns config loadPct healthManager inputs probed .services
  constructor
  · intro within report member success found
    obtain ⟨excerpts, names⟩ := within report member success found
    refine ⟨fun unit inside => (excerpts unit inside).1, ?_⟩
    exact (unitNamesMatch_iff config (returned report member success found)).mp names
  · intro within report member success found
    obtain ⟨excerpts, names⟩ := within report member success found
    have origin := returned report member success found
    refine ⟨?_, (unitNamesMatch_iff config origin).mpr names⟩
    intro unit inside
    refine ⟨excerpts unit inside, ?_⟩
    intro line shows
    exact (shorter line).trans (servicesReturned_lines origin unit inside line shows)

theorem runCycles_resources_iff (probed : ∀ input ∈ inputs, input.FromProbes config) :
    (∀ report ∈ (runCycles config loadPct healthManager inputs).2,
        1 ≤ report.snapshot.resources.sampleWindowSec ∧
        (Nonnegative report.snapshot.resources.cpu.load1 ∧
          Nonnegative report.snapshot.resources.cpu.load5 ∧
          Nonnegative report.snapshot.resources.cpu.load15) ∧
        (∀ mount ∈ report.snapshot.resources.storage, ∀ percent, mount.usedPct = some percent →
          percent ≤ 100) ∧
        ResourceNamesMatch config report.snapshot.resources) ↔
      ∀ report ∈ (runCycles config loadPct healthManager inputs).2, ∀ success,
        report.success .resources = some success →
          1 ≤ config.sampleWindowSec ∧
          (Nonnegative success.payload.cpu.load1 ∧ Nonnegative success.payload.cpu.load5 ∧
            Nonnegative success.payload.cpu.load15) ∧
          (∀ mount ∈ success.payload.storage, ∀ percent, mount.usedPct = some percent →
            percent ≤ 100) ∧
          ResourceNamesMatch config success.payload := by
  have shown := runCycles_payloads_iff config loadPct healthManager .resources
    (fun status => 1 ≤ status.sampleWindowSec ∧
      (Nonnegative status.cpu.load1 ∧ Nonnegative status.cpu.load5 ∧
        Nonnegative status.cpu.load15) ∧
      (∀ mount ∈ status.storage, ∀ percent, mount.usedPct = some percent → percent ≤ 100) ∧
      ResourceNamesMatch config status)
    (fun _ => Iff.rfl) (by simp [Section.initial, ResourceNamesMatch, Nonnegative]) inputs
  refine shown.trans ?_
  have returned := runCycles_success_returns config loadPct healthManager inputs probed .resources
  refine forall_congr' fun report => forall_congr' fun member => forall_congr' fun success =>
    forall_congr' fun found => ?_
  rw [resourcesReturned_window (returned report member success found)]

/-- Every document of a run conforms exactly when the run reads within the bounds: the
device, the clock, the update, the journal and the crash section conform by themselves. -/
theorem run_conforms_iff (text : ByteString → String)
    (shorter : ∀ line, (text line).length ≤ line.length)
    (probed : ∀ input ∈ inputs, input.FromProbes config)
    (identified : ∀ input ∈ inputs, FromDevice config input) :
    (∀ report ∈ (runCycles config loadPct healthManager inputs).2,
        snapshot (report.snapshot.toJson text) = true) ↔
      ∀ report ∈ (runCycles config loadPct healthManager inputs).2, ReadsWithin config report := by
  have device := runCycles_deviceId config loadPct healthManager inputs identified
  have lines := runCycles_journal_lines config loadPct healthManager inputs probed
  have source := runCycles_crash_source config loadPct healthManager inputs probed
  have uptime := runCycles_uptime_iff config loadPct healthManager inputs
  have units := runCycles_units_iff config loadPct healthManager inputs probed shorter
  have resources := runCycles_resources_iff config loadPct healthManager inputs probed
  have reasons {report : CycleReport}
      (member : report ∈ (runCycles config loadPct healthManager inputs).2) :
      (∀ reason ∈ report.snapshot.summary.reasons, MatchesPattern reason) ↔
        UnitNamesMatch report.snapshot.services ∧
          ResourceNamesMatch config report.snapshot.resources := by
    rw [runCycles_reasons config loadPct healthManager member, reasons_match_iff]
  constructor
  · intro conform report member
    have conforming {report : CycleReport}
        (member : report ∈ (runCycles config loadPct healthManager inputs).2) :
        Conforming text report.snapshot := (document_conforms_iff _ _).mp (conform report member)
    have inUnits := units.mp fun report member =>
      ⟨(conforming member).excerpts, ((reasons member).mp (conforming member).reasons).1⟩
    have inResources := resources.mp fun report member =>
      ⟨(conforming member).window, (conforming member).loads, (conforming member).mounts,
        ((reasons member).mp (conforming member).reasons).2⟩
    exact {
      uptime := uptime.mp (fun report member => (conforming member).uptime) report member
      excerpts := fun success found => (inUnits report member success found).1
      failed := fun success found => (inUnits report member success found).2
      resources := inResources report member }
  · intro within report member
    obtain ⟨excerpts, unitNames⟩ := units.mpr (fun report member success found =>
      ⟨(within report member).excerpts success found,
        (within report member).failed success found⟩) report member
    obtain ⟨window, loads, mounts, resourceNames⟩ :=
      resources.mpr (fun report member => (within report member).resources) report member
    refine (document_conforms_iff _ _).mpr {
      deviceId := device report member
      uptime := uptime.mpr (fun report member => (within report member).uptime) report member
      excerpts, window, loads, mounts
      errors := ?_
      source := source report member
      reasons := (reasons member).mpr ⟨unitNames, resourceNames⟩ }
    intro line shows
    exact (shorter line).trans (lines report member line shows)

end Runs

/-! The cycle of a device with full disks: its unit is failed and one mount is flagged. -/

def identity : DeviceReplies :=
  { machineId := some "4c4c4544\n", uname := some ⟨"aarch64", "6.6.0"⟩ }

def identifiedInput : CycleInput :=
  { oneUnitInput "cron.service" "failed" with
    device := ⟨DeviceProbe.collect (oneUnitConfig "cron.service") identity, 0⟩ }

theorem identifiedInput_fromProbes :
    identifiedInput.FromProbes (oneUnitConfig "cron.service") := by
  intro kind payload collected
  cases kind with
  | device => trivial
  | boot | services | resources | timeSync | update | journal | crash =>
      exact oneUnitInput_fromProbes "cron.service" "failed" _ payload collected

theorem full_disk_document_conforms :
    snapshot ((collectionCycle (oneUnitConfig "cron.service") (fun _ => .finite 0)
      (initializeDaemon (oneUnitConfig "cron.service") none) identifiedInput).2.snapshot.toJson
        dumpedText) = true := by
  refine (run_conforms_iff (oneUnitConfig "cron.service") (fun _ => .finite 0) none
    [identifiedInput] dumpedText (fun line => (dumpedText_length line).le) ?_ ?_).mpr ?_ _
      (List.mem_singleton.mpr rfl)
  · intro input member
    rw [List.mem_singleton.mp member]
    exact identifiedInput_fromProbes
  · intro input member
    rw [List.mem_singleton.mp member]
    exact ⟨identity, rfl⟩
  · intro report member
    obtain rfl := List.mem_singleton.mp member
    constructor
    · intro success found
      obtain rfl := Option.some.inj found
      decide
    · intro success found
      obtain rfl := Option.some.inj found
      decide
    · intro success found unit inside _
      obtain rfl := Option.some.inj found
      obtain rfl := List.mem_singleton.mp inside
      decide
    · intro success found
      obtain rfl := Option.some.inj found
      refine ⟨by decide, ⟨Rat.le_refl, Rat.le_refl, Rat.le_refl⟩, ?_, ?_⟩
      · have used : ∀ mount ∈ ResourcesProbe.collectStorage (oneUnitConfig "cron.service")
            fullDiskReplies.mounts, mount.usedPct = some 90 := by decide +kernel
        intro mount inside percent reads
        obtain rfl := Option.some.inj ((used mount inside).symm.trans reads)
        decide
      · unfold ResourceNamesMatch
        decide +kernel

end EdgeHealthd.JsonSchema
