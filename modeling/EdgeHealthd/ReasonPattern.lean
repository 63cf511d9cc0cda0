import EdgeHealthd.Reasons

/-!
The grammar of `schemas/edge.health.state.v1.1.json` for the strings of
`summary.reasons`, and which names keep the reasons of a run inside it.
-/

namespace EdgeHealthd

def isCodeChar (ch : Char) : Bool := ch.isLower || ch.isDigit || ch == '_'

def isSubjectChar (ch : Char) : Bool :=
  ch.isAlphanum || ch == '_' || ch == '.' || ch == ':' || ch == '/' || ch == '-'

def isCode : List Char → Bool
  | [] => false
  | first :: rest => first.isLower && rest.all isCodeChar

def isSubject (subject : List Char) : Bool := subject != [] && subject.all isSubjectChar

/-- The schema's pattern: a code over `[a-z][a-z0-9_]*`, then either nothing or a
colon and a subject of letters, digits and `_ . : / -`. -/
def MatchesPattern (reason : String) : Prop :=
  isCode reason.toList = true ∨
    ∃ code subject, reason.toList = code ++ ':' :: subject ∧
      isCode code = true ∧ isSubject subject = true

theorem colon_not_mem_of_isCode {code : List Char} (valid : isCode code = true) :
    ':' ∉ code := by
  cases code with
  | nil => exact List.not_mem_nil
  | cons first rest =>
      simp only [isCode, Bool.and_eq_true, List.all_eq_true] at valid
      intro member
      rcases List.mem_cons.mp member with rfl | later
      · exact absurd valid.1 (by decide)
      · exact absurd (valid.2 ':' later) (by decide)

theorem matchesPattern_subject_iff (code subject : String) (valid : isCode code.toList = true) :
    MatchesPattern (code ++ ":" ++ subject) ↔ isSubject subject.toList = true := by
  have shape : (code ++ ":" ++ subject).toList = code.toList ++ ':' :: subject.toList := by
    simp [String.toList_append]
  constructor
  · rintro (whole | ⟨other, rest, split, otherValid, restValid⟩)
    · refine absurd ?_ (colon_not_mem_of_isCode whole)
      rw [shape]
      simp
    · rw [shape] at split
      have before := congrArg (List.takeWhile (· != ':')) split
      rw [takeWhile_code _ (colon_not_mem_of_isCode valid),
        takeWhile_code _ (colon_not_mem_of_isCode otherValid)] at before
      obtain rfl : code.toList = other := by simpa using before
      have same : subject.toList = rest := by simpa using split
      rw [same]
      exact restValid
  · intro subjectValid
    exact Or.inr ⟨code.toList, subject.toList, shape, valid, subjectValid⟩

theorem forall_match_if {condition : Prop} [Decidable condition] {reason : String}
    {rest : List String} (valid : isCode reason.toList = true)
    (others : ∀ other ∈ rest, MatchesPattern other) :
    ∀ other ∈ if condition then [reason] else rest, MatchesPattern other := by
  split
  · intro other member
    rw [List.mem_singleton.mp member]
    exact Or.inl valid
  · exact others

theorem forall_match_nil : ∀ other ∈ ([] : List String), MatchesPattern other := by
  intro other member
  cases member

theorem forall_mem_filterMap_if {Item : Type} (property : String → Prop) (flagged : Item → Bool)
    (reason : Item → String) (items : List Item) :
    (∀ other ∈ items.filterMap fun item =>
        if flagged item = true then some (reason item) else none, property other) ↔
      ∀ item ∈ items, flagged item = true → property (reason item) := by
  simp only [mem_filterMap_if]
  constructor
  · intro every item member flag
    exact every _ ⟨item, member, flag, rfl⟩
  · rintro every _ ⟨item, member, flag, rfl⟩
    exact every item member flag

section Sections

variable (config : Config)

def UnitNamesMatch (services : ServicesStatus) : Prop :=
  ∀ unit ∈ services.units, unit.state = .failed → isSubject unit.name.toList = true

/-- A sensor without a name gets a reason without a subject. -/
def ResourceNamesMatch (resources : ResourcesStatus) : Prop :=
  (∀ mount ∈ resources.storage, mountFlagged config mount = true →
      isSubject mount.mount.toList = true) ∧
    ∀ sensor ∈ resources.thermal, sensorFlagged config sensor = true → sensor.sensor ≠ "" →
      isSubject sensor.sensor.toList = true

theorem matchesPattern_svcFailed (name : String) :
    MatchesPattern ("svc_failed:" ++ name) ↔ isSubject name.toList = true :=
  matchesPattern_subject_iff "svc_failed" name (by decide)

theorem matchesPattern_diskUsedHigh (mount : String) :
    MatchesPattern ("disk_used_high:" ++ mount) ↔ isSubject mount.toList = true :=
  matchesPattern_subject_iff "disk_used_high" mount (by decide)

theorem matchesPattern_tempHigh (sensor : String) :
    MatchesPattern (if sensor != "" then "temp_high:" ++ sensor else "temp_high") ↔
      (sensor ≠ "" → isSubject sensor.toList = true) := by
  by_cases unnamed : sensor = ""
  · simp only [unnamed, bne_self_eq_false, Bool.false_eq_true, if_false, ne_eq,
      not_true_eq_false, false_implies, iff_true]
    exact Or.inl (by decide)
  · simp only [bne_iff_ne, ne_eq, unnamed, not_false_eq_true, if_true, true_implies]
    exact matchesPattern_subject_iff "temp_high" sensor (by decide)

theorem reasons_match_iff (sections : SnapshotState) :
    (∀ reason ∈ sections.reasons config, MatchesPattern reason) ↔
      UnitNamesMatch sections.services ∧ ResourceNamesMatch config sections.resources := by
  have units := forall_mem_filterMap_if MatchesPattern (fun unit => unit.state == .failed)
    (fun unit : ServiceUnit => "svc_failed:" ++ unit.name) sections.services.units
  have mounts := forall_mem_filterMap_if MatchesPattern (mountFlagged config)
    (fun mount => "disk_used_high:" ++ mount.mount) sections.resources.storage
  have sensors := forall_mem_filterMap_if MatchesPattern (sensorFlagged config)
    (fun sensor => if sensor.sensor != "" then "temp_high:" ++ sensor.sensor else "temp_high")
    sections.resources.thermal
  simp only [matchesPattern_svcFailed, beq_iff_eq] at units
  simp only [matchesPattern_diskUsedHigh] at mounts
  simp only [matchesPattern_tempHigh] at sensors
  simp only [reasons_eq, List.forall_mem_append, beq_iff_eq, units, mounts, sensors]
  constructor
  · rintro ⟨⟨⟨⟨⟨⟨⟨⟨⟨⟨_, unitNames⟩, _⟩, mountNames⟩, sensorNames⟩, _⟩, _⟩, _⟩, _⟩, _⟩, _⟩
    exact ⟨unitNames, mountNames, sensorNames⟩
  · rintro ⟨unitNames, mountNames, sensorNames⟩
    have fixed {condition : Prop} [Decidable condition] {reason : String}
        (valid : isCode reason.toList = true) :
        ∀ other ∈ if condition then [reason] else [], MatchesPattern other :=
      forall_match_if valid forall_match_nil
    exact ⟨⟨⟨⟨⟨⟨⟨⟨⟨⟨fixed (by decide), unitNames⟩, fixed (by decide)⟩, mountNames⟩, sensorNames⟩,
      fixed (by decide)⟩, fixed (by decide)⟩, fixed (by decide)⟩, fixed (by decide)⟩,
      forall_match_if (by decide) (fixed (by decide))⟩, fixed (by decide)⟩

end Sections

/-! A monitored unit can be failed only under a safe name, and the one character
that a safe name may have outside the grammar is the sign of a template instance. -/

theorem isSubject_of_safe {name : String} (safe : isSafeUnitName name = true) :
    isSubject name.toList = true ↔ '@' ∉ name.toList := by
  simp only [isSafeUnitName, Bool.and_eq_true, bne_iff_ne, ne_eq, List.all_eq_true] at safe
  obtain ⟨nonempty, chars⟩ := safe
  have characters : name.toList ≠ [] := by
    intro empty
    exact nonempty (String.toList_eq_nil_iff.mp empty)
  simp only [isSubject, Bool.and_eq_true, bne_iff_ne, ne_eq, characters, not_false_eq_true,
    true_and, List.all_eq_true]
  constructor
  · intro allowed sign
    exact absurd (allowed '@' sign) (by decide)
  · intro plain ch member
    have allowed := chars ch member
    have other : ch ≠ '@' := by
      rintro rfl
      exact plain member
    simp only [Bool.or_eq_true, beq_iff_eq, other, or_false] at allowed
    simp only [isSubjectChar, Bool.or_eq_true, beq_iff_eq]
    tauto

def ReasonsMatch (reports : List CycleReport) : Prop :=
  ∀ report ∈ reports, ∀ reason ∈ report.snapshot.summary.reasons, MatchesPattern reason

section Runs

variable (config : Config) (loadPct : CpuLoad → Double) (healthManager : Option HealthManager)

theorem runCycles_reasons {inputs : List CycleInput} {report : CycleReport}
    (member : report ∈ (runCycles config loadPct healthManager inputs).2) :
    report.snapshot.summary.reasons = report.snapshot.reasons config := by
  obtain ⟨past, input, rest, _, rfl⟩ := mem_runCycles config loadPct healthManager member
  rw [collectionCycle_summary]
  rfl

theorem unitNamesMatch_iff {services : ServicesStatus}
    (returned : ProbeReturns config .services services) :
    UnitNamesMatch services ↔
      ∀ unit ∈ services.units, unit.state = .failed → '@' ∉ unit.name.toList := by
  constructor
  · intro matched unit member failed
    exact (isSubject_of_safe (servicesReturned_failed_safe config returned unit member
      failed)).mp (matched unit member failed)
  · intro plain unit member failed
    exact (isSubject_of_safe (servicesReturned_failed_safe config returned unit member
      failed)).mpr (plain unit member failed)

/-- The reasons of a run stay inside the grammar exactly when no unit the run
found failed is a template instance and every mount and sensor it found over a
threshold has a name within the subject's characters. -/
theorem runCycles_reasons_match_iff (inputs : List CycleInput)
    (probed : ∀ input ∈ inputs, input.FromProbes config) :
    ReasonsMatch (runCycles config loadPct healthManager inputs).2 ↔
      ∀ report ∈ (runCycles config loadPct healthManager inputs).2,
        (∀ success, report.success .services = some success →
          ∀ unit ∈ success.payload.units, unit.state = .failed → '@' ∉ unit.name.toList) ∧
        ∀ success, report.success .resources = some success →
          ResourceNamesMatch config success.payload := by
  have noUnits : UnitNamesMatch {} := by
    intro unit member
    cases member
  have noResources : ResourceNamesMatch config {} := by
    constructor <;> (intro item member; cases member)
  have services := runCycles_payloads_iff config loadPct healthManager .services UnitNamesMatch
    (fun _ => Iff.rfl) noUnits inputs
  have resources := runCycles_payloads_iff config loadPct healthManager .resources
    (ResourceNamesMatch config) (fun _ => Iff.rfl) noResources inputs
  have returned := runCycles_success_returns config loadPct healthManager inputs probed .services
  constructor
  · intro matched report member
    have shown : ∀ report ∈ (runCycles config loadPct healthManager inputs).2,
        UnitNamesMatch report.snapshot.services ∧
          ResourceNamesMatch config report.snapshot.resources := by
      intro report member
      have reasons := matched report member
      rw [runCycles_reasons config loadPct healthManager member] at reasons
      exact (reasons_match_iff config _).mp reasons
    refine ⟨?_, ?_⟩
    · intro success found
      exact (unitNamesMatch_iff config (returned report member success found)).mp
        (services.mp (fun report member => (shown report member).1) report member success found)
    · exact resources.mp (fun report member => (shown report member).2) report member
  · intro collected report member
    rw [runCycles_reasons config loadPct healthManager member]
    refine (reasons_match_iff config _).mpr ⟨?_, ?_⟩
    · refine services.mpr ?_ report member
      intro earlier inside success found
      exact (unitNamesMatch_iff config (returned earlier inside success found)).mpr
        ((collected earlier inside).1 success found)
    · exact resources.mpr (fun earlier inside => (collected earlier inside).2) report member

end Runs

/-! One cycle of a device with full disks, where systemd reports one unit. -/

def fullDiskReplies : ResourceReplies where
  meminfo := .ok [("MemTotal:", 1048576), ("MemAvailable:", 786432)]
  sysinfo := .error 38
  mounts := fun _ => { statvfs := some { blocks := 1000, bfree := 100, bavail := 50, frsize := 4096 } }
  zones := [{ name := "thermal_zone0", typeLine := some "cpu-thermal", millidegrees := some 45000 }]

def oneUnitInput (name activeState : String) : CycleInput where
  now := 0
  device := ⟨.ok {}, 0⟩
  boot := ⟨.ok (BootProbe.collect .missing "b1" 30 0 true).1, 0⟩
  services := ⟨ServicesProbe.collect (oneUnitConfig name) none
    (some fun _ => { activeState := .ok activeState }), 0⟩
  resources := ⟨ResourcesProbe.collect (oneUnitConfig name)
    (fun millidegrees => .finite (millidegrees / 1000)) fullDiskReplies, 0⟩
  timeSync := ⟨TimeSyncProbe.collect (oneUnitConfig name)
    (some { ntp := true, ntpSynchronized := true }) {}, 0⟩
  update := ⟨UpdateProbe.collect (fun _ => none) (oneUnitConfig name) none .missing, 0⟩
  journal := ⟨JournalProbe.collect (oneUnitConfig name)
    { severity := fun _ => 0, count := fun _ => 0, errors := 0 } none, 0⟩
  crash := ⟨CrashProbe.collect { now := 0 } {} .missing, 0⟩

theorem oneUnitInput_fromProbes (name activeState : String) :
    (oneUnitInput name activeState).FromProbes (oneUnitConfig name) := by
  intro kind payload collected
  cases kind with
  | device => trivial
  | boot => exact ⟨_, _, _, _, _, Except.ok.inj collected⟩
  | services => exact ⟨none, some fun _ => { activeState := .ok activeState }, collected⟩
  | resources =>
      exact ⟨fun millidegrees => .finite (millidegrees / 1000), fullDiskReplies, collected⟩
  | timeSync => exact ⟨_, _, collected⟩
  | update => exact ⟨fun _ => none, none, .missing, collected⟩
  | journal =>
      exact ⟨{ severity := fun _ => 0, count := fun _ => 0, errors := 0 }, none, collected⟩
  | crash => exact ⟨_, _, _, collected⟩

theorem oneUnitRun_fromProbes (name activeState : String) :
    ∀ input ∈ [oneUnitInput name activeState], input.FromProbes (oneUnitConfig name) := by
  intro input member
  obtain rfl := List.mem_singleton.mp member
  exact oneUnitInput_fromProbes name activeState

theorem runCycles_reasons_match_plainUnit :
    ReasonsMatch (runCycles (oneUnitConfig "cron.service") (fun _ => .finite 0) none
      [oneUnitInput "cron.service" "failed"]).2 := by
  refine (runCycles_reasons_match_iff _ _ _ _ (oneUnitRun_fromProbes _ _)).mpr ?_
  intro report member
  obtain rfl := List.mem_singleton.mp member
  refine ⟨?_, ?_⟩
  · intro success found unit inside _
    obtain rfl := Option.some.inj found
    obtain rfl := List.mem_singleton.mp inside
    decide
  · intro success found
    obtain rfl := Option.some.inj found
    unfold ResourceNamesMatch
    decide +kernel

theorem templateUnit_outside_pattern :
    (oneUnitConfig "getty@tty1.service").validate = none ∧
      isSafeUnitName "getty@tty1.service" = true ∧
      (∀ input ∈ [oneUnitInput "getty@tty1.service" "failed"],
        input.FromProbes (oneUnitConfig "getty@tty1.service")) ∧
      ¬ReasonsMatch (runCycles (oneUnitConfig "getty@tty1.service") (fun _ => .finite 0) none
        [oneUnitInput "getty@tty1.service" "failed"]).2 := by
  refine ⟨by decide, by decide, oneUnitRun_fromProbes _ _, ?_⟩
  intro matched
  have reason := matched _ (List.mem_singleton.mpr rfl) "svc_failed:getty@tty1.service"
    (by decide +kernel)
  exact absurd ((matchesPattern_svcFailed "getty@tty1.service").mp reason) (by decide)

end EdgeHealthd
