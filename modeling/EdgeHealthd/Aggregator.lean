import EdgeHealthd.AggregatorCore
import EdgeHealthd.Library.Rollup

/-!
The aggregator's roll-up is exact. `worst_of` becomes the maximum of the linear
order given by the source's ranking, and each of the three levels (elements,
domains, overall) is then the greatest of the classes below it.
-/

namespace EdgeHealthd

theorem severityRank_injective : Function.Injective severityRank := by
  intro left right same
  cases left <;> cases right <;> first | rfl | cases same

/-- `unknown < ok < stale < unavailable < warn < crit`. -/
instance : LinearOrder Severity := LinearOrder.lift' severityRank severityRank_injective

theorem severity_le_iff (left right : Severity) :
    left ≤ right ↔ severityRank left ≤ severityRank right := Iff.rfl

theorem severity_lt_iff (left right : Severity) :
    left < right ↔ severityRank left < severityRank right := by
  rw [lt_iff_not_ge, severity_le_iff]
  omega

theorem worstFrom_eq_foldl (severities : List Severity) (worst : Severity) :
    worstFrom severities worst (severityRank worst) = severities.foldl max worst := by
  induction severities generalizing worst with
  | nil => rfl
  | cons severity rest ih =>
      simp only [worstFrom, List.foldl_cons]
      by_cases higher : (severityRank severity : Int) > severityRank worst
      · have above : worst ≤ severity := by
          rw [severity_le_iff]
          omega
        rw [if_pos higher, ih, max_eq_right above]
      · have below : severity ≤ worst := by
          rw [severity_le_iff]
          omega
        rw [if_neg higher, ih, max_eq_left below]

theorem worstOf_cons (severity : Severity) (rest : List Severity) :
    worstOf (severity :: rest) = rest.foldl max severity := by
  have first : (severityRank severity : Int) > -1 := by omega
  rw [worstOf, worstFrom, if_pos first, worstFrom_eq_foldl]

theorem worstOf_isGreatest (severity : Severity) (rest : List Severity) :
    IsGreatest (insert severity (Rollup.grades id rest)) (worstOf (severity :: rest)) := by
  rw [worstOf_cons]
  exact Rollup.foldl_max_isGreatest id rest severity

theorem worstOf_pair (left right : Severity) : worstOf [left, right] = max left right := by
  rw [worstOf_cons]
  rfl

theorem raiseStale_eq (freshness : SectionFreshness) (severity : Severity) :
    raiseStale freshness severity =
      if freshness.stale then max severity .stale else severity := by
  simp only [raiseStale, worstOf_pair]

theorem le_raiseStale (freshness : SectionFreshness) (severity : Severity) :
    severity ≤ raiseStale freshness severity := by
  rw [raiseStale_eq]
  split
  · exact le_max_left _ _
  · exact le_refl _

/-- What one element says on its own: unavailable without a reading, else its
class by threshold. -/
def elementClass {Reading : Type} (atCrit atWarn : Reading → Bool)
    (available : Bool) (reading : Option Reading) : Severity :=
  match available, reading with
  | true, some value => if atCrit value then .crit else if atWarn value then .warn else .ok
  | _, _ => .unavailable

theorem escalate_eq_max {Reading : Type} (atCrit atWarn : Reading → Bool) (worst : Severity)
    (available : Bool) (reading : Option Reading) (observed : Severity.ok ≤ worst) :
    escalate atCrit atWarn worst available reading =
      max worst (elementClass atCrit atWarn available reading) := by
  cases available with
  | false => exact worstOf_pair worst .unavailable
  | true =>
      cases reading with
      | none => exact worstOf_pair worst .unavailable
      | some value =>
          simp only [escalate, elementClass]
          split
          · exact worstOf_pair worst .crit
          · split
            · exact worstOf_pair worst .warn
            · exact (max_eq_left observed).symm

theorem foldl_escalate_isGreatest {Item Reading : Type} (atCrit atWarn : Reading → Bool)
    (available : Item → Bool) (reading : Item → Option Reading) (items : List Item) :
    IsGreatest
      (insert .ok (Rollup.grades
        (fun item => elementClass atCrit atWarn (available item) (reading item)) items))
      (items.foldl (fun worst item =>
        escalate atCrit atWarn worst (available item) (reading item)) .ok) := by
  -- `escalate` leaves an `ok` element alone, which is `max` only above `ok`.
  have agrees : ∀ (items : List Item) (start : Severity), Severity.ok ≤ start →
      items.foldl (fun worst item =>
        escalate atCrit atWarn worst (available item) (reading item)) start =
      items.foldl (fun worst item =>
        max worst (elementClass atCrit atWarn (available item) (reading item))) start := by
    intro items
    induction items with
    | nil => intro start observed; rfl
    | cons item rest ih =>
        intro start observed
        simp only [List.foldl_cons]
        rw [escalate_eq_max _ _ _ _ _ observed]
        exact ih _ (le_trans observed (le_max_left _ _))
  rw [agrees items .ok (le_refl _)]
  exact Rollup.foldl_max_isGreatest _ _ _

section Elements

variable (config : Config) (loadPct : CpuLoad → Double)

def mountClass (mount : StorageMount) : Severity :=
  elementClass (fun usedPct => usedPct ≥ config.thresholds.diskUsedCrit)
    (fun usedPct => usedPct ≥ config.thresholds.diskUsedWarn) mount.available mount.usedPct

def sensorClass (sensor : ThermalSensor) : Severity :=
  elementClass (fun tempC => tempC.ge config.thresholds.tempCritC)
    (fun tempC => tempC.ge config.thresholds.tempWarnC) sensor.available sensor.tempC

theorem evaluateDisk_isGreatest (storage : List StorageMount) :
    IsGreatest (insert .ok (Rollup.grades (mountClass config) storage))
      (evaluateDisk config storage) :=
  foldl_escalate_isGreatest _ _ StorageMount.available StorageMount.usedPct storage

theorem evaluateThermal_isGreatest (thermal : List ThermalSensor) :
    IsGreatest (insert .ok (Rollup.grades (sensorClass config) thermal))
      (evaluateThermal config thermal) :=
  foldl_escalate_isGreatest _ _ ThermalSensor.available ThermalSensor.tempC thermal

def resourceClasses (resources : ResourcesStatus) : Set Severity :=
  {evaluateCpu config loadPct resources.cpu, evaluateMemory config resources.memory, .ok} ∪
    (Rollup.grades (mountClass config) resources.storage ∪
      Rollup.grades (sensorClass config) resources.thermal)

theorem evaluateResources_isGreatest (resources : ResourcesStatus) :
    IsGreatest (resourceClasses config loadPct resources)
      (evaluateResources config loadPct resources) := by
  have disk := evaluateDisk_isGreatest config resources.storage
  have thermal := evaluateThermal_isGreatest config resources.thermal
  have cpuMemory : IsGreatest
      ({evaluateCpu config loadPct resources.cpu, evaluateMemory config resources.memory} :
        Set Severity) _ := isGreatest_pair
  have joined := (cpuMemory.union disk).union thermal
  have same : evaluateResources config loadPct resources =
      max (max (max (evaluateCpu config loadPct resources.cpu)
        (evaluateMemory config resources.memory)) (evaluateDisk config resources.storage))
        (evaluateThermal config resources.thermal) := worstOf_cons _ _
  rw [same]
  convert joined using 1
  ext severity
  simp only [resourceClasses, Set.mem_union, Set.mem_insert_iff, Set.mem_singleton_iff]
  tauto

theorem ok_le_evaluateResources (resources : ResourcesStatus) :
    Severity.ok ≤ evaluateResources config loadPct resources :=
  (evaluateResources_isGreatest config loadPct resources).2 (by simp [resourceClasses])

end Elements

/-! The eight sections travel together: the daemon hands the aggregator the
sections of `last_known_good_`. -/

section Domains

variable (config : Config) (loadPct : CpuLoad → Double) (generatedAt : WallTime)

def aggregateSections (sections : SnapshotState) : SnapshotState :=
  aggregate config loadPct generatedAt sections.device sections.boot sections.services
    sections.resources sections.timeSync sections.update sections.journal sections.crash

def SnapshotState.freshness (sections : SnapshotState) : Domain → SectionFreshness
  | .boot => sections.boot.freshness
  | .services => sections.services.freshness
  | .resources => sections.resources.freshness
  | .timeSync => sections.timeSync.freshness
  | .update => sections.update.freshness
  | .journal => sections.journal.freshness
  | .crash => sections.crash.freshness

def SnapshotState.setStale (sections : SnapshotState) : Domain → SnapshotState
  | .boot => { sections with boot.freshness.stale := true }
  | .services => { sections with services.freshness.stale := true }
  | .resources => { sections with resources.freshness.stale := true }
  | .timeSync => { sections with timeSync.freshness.stale := true }
  | .update => { sections with update.freshness.stale := true }
  | .journal => { sections with journal.freshness.stale := true }
  | .crash => { sections with crash.freshness.stale := true }

def evaluateDomain (sections : SnapshotState) : Domain → Severity
  | .boot => evaluateBoot config sections.boot
  | .services => evaluateServices sections.services
  | .resources => evaluateResources config loadPct sections.resources
  | .timeSync => evaluateTimeSync sections.timeSync
  | .update => evaluateUpdate sections.update
  | .journal => evaluateJournal sections.journal
  | .crash => evaluateCrash sections.crash

theorem aggregate_domain (sections : SnapshotState) (domain : Domain) :
    (aggregateSections config loadPct generatedAt sections).summary.domains.get domain =
      raiseStale (sections.freshness domain) (evaluateDomain config loadPct sections domain) := by
  cases domain <;> rfl

def domainClasses (sections : SnapshotState) (domain : Domain) : Set Severity :=
  insert (evaluateDomain config loadPct sections domain)
    (fun severity => severity = .stale ∧ (sections.freshness domain).stale = true)

theorem raiseStale_isGreatest (sections : SnapshotState) (domain : Domain) :
    IsGreatest (domainClasses config loadPct sections domain)
      (raiseStale (sections.freshness domain) (evaluateDomain config loadPct sections domain)) := by
  rw [raiseStale_eq]
  split
  · rename_i marked
    constructor
    · rcases max_choice (evaluateDomain config loadPct sections domain) .stale with same | same
      · exact Or.inl same
      · exact Or.inr ⟨same, marked⟩
    · rintro severity (same | ⟨same, _⟩)
      · exact same ▸ le_max_left _ _
      · exact same ▸ le_max_right _ _
  · rename_i unmarked
    refine ⟨Or.inl rfl, ?_⟩
    rintro severity (same | ⟨_, marked⟩)
    · exact le_of_eq same
    · exact absurd marked unmarked

theorem computeOverall_isGreatest (domains : DomainSeverities) :
    IsGreatest (Set.range domains.get)
      (computeOverall domains.boot domains.services domains.resources domains.timeSync
        domains.update domains.journal domains.crash) := by
  have rolled := worstOf_isGreatest domains.boot [domains.services, domains.resources,
    domains.timeSync, domains.update, domains.journal, domains.crash]
  have same : Set.range domains.get = insert domains.boot (Rollup.grades id
      [domains.services, domains.resources, domains.timeSync, domains.update, domains.journal,
        domains.crash]) := by
    ext severity
    constructor
    · rintro ⟨domain, rfl⟩
      cases domain <;> simp [DomainSeverities.get]
    · simp only [Set.mem_insert_iff, Rollup.mem_grades, List.mem_cons, List.not_mem_nil,
        or_false, id_eq, exists_eq_or_imp, exists_eq_left]
      rintro (rfl | rfl | rfl | rfl | rfl | rfl | rfl)
      · exact ⟨.boot, rfl⟩
      · exact ⟨.services, rfl⟩
      · exact ⟨.resources, rfl⟩
      · exact ⟨.timeSync, rfl⟩
      · exact ⟨.update, rfl⟩
      · exact ⟨.journal, rfl⟩
      · exact ⟨.crash, rfl⟩
  rw [same]
  exact rolled

theorem aggregate_severity (sections : SnapshotState) :
    IsGreatest
      (Set.range (aggregateSections config loadPct generatedAt sections).summary.domains.get)
      (aggregateSections config loadPct generatedAt sections).summary.severity :=
  computeOverall_isGreatest _

theorem aggregate_severity_mono (first second : SnapshotState)
    (below : ∀ domain,
      (aggregateSections config loadPct generatedAt first).summary.domains.get domain ≤
        (aggregateSections config loadPct generatedAt second).summary.domains.get domain) :
    (aggregateSections config loadPct generatedAt first).summary.severity ≤
      (aggregateSections config loadPct generatedAt second).summary.severity := by
  obtain ⟨domain, worst⟩ := (aggregate_severity config loadPct generatedAt first).1
  rw [← worst]
  exact le_trans (below domain)
    ((aggregate_severity config loadPct generatedAt second).2 ⟨domain, rfl⟩)

theorem setStale_domain_le (sections : SnapshotState) (marked domain : Domain) :
    (aggregateSections config loadPct generatedAt sections).summary.domains.get domain ≤
      (aggregateSections config loadPct generatedAt
        (sections.setStale marked)).summary.domains.get domain := by
  rw [aggregate_domain, aggregate_domain]
  have evaluation : evaluateDomain config loadPct (sections.setStale marked) domain =
      evaluateDomain config loadPct sections domain := by
    cases marked <;> cases domain <;> rfl
  rw [evaluation, raiseStale_eq, raiseStale_eq]
  have kept : (sections.freshness domain).stale = true →
      ((sections.setStale marked).freshness domain).stale = true := by
    cases marked <;> cases domain <;> simp [SnapshotState.setStale, SnapshotState.freshness]
  by_cases stale : (sections.freshness domain).stale = true
  · rw [if_pos stale, if_pos (kept stale)]
  · rw [if_neg stale]
    split
    · exact le_max_left _ _
    · exact le_refl _

def SnapshotState.withElements (sections : SnapshotState) (storage : List StorageMount)
    (thermal : List ThermalSensor) : SnapshotState :=
  { sections with resources.storage := storage, resources.thermal := thermal }

theorem withElements_domain_le (sections : SnapshotState) (storage : List StorageMount)
    (thermal : List ThermalSensor) (moreStorage : sections.resources.storage ⊆ storage)
    (moreThermal : sections.resources.thermal ⊆ thermal) (domain : Domain) :
    (aggregateSections config loadPct generatedAt sections).summary.domains.get domain ≤
      (aggregateSections config loadPct generatedAt
        (sections.withElements storage thermal)).summary.domains.get domain := by
  rw [aggregate_domain, aggregate_domain]
  have raised : evaluateDomain config loadPct sections domain ≤
      evaluateDomain config loadPct (sections.withElements storage thermal) domain := by
    cases domain with
    | resources =>
        apply IsGreatest.mono (evaluateResources_isGreatest config loadPct sections.resources)
          (evaluateResources_isGreatest config loadPct _)
        apply Set.union_subset_union (Set.Subset.refl _)
        exact Set.union_subset_union (Rollup.grades_mono _ moreStorage)
          (Rollup.grades_mono _ moreThermal)
    | boot | services | timeSync | update | journal | crash => exact le_refl _
  have freshness : (sections.withElements storage thermal).freshness domain =
      sections.freshness domain := by
    cases domain <;> rfl
  rw [freshness, raiseStale_eq, raiseStale_eq]
  split
  · exact max_le_max_right _ raised
  · exact raised

section Order

variable {sections : SnapshotState} {storage : List StorageMount} {thermal : List ThermalSensor}
  (storagePerm : storage.Perm sections.resources.storage)
  (thermalPerm : thermal.Perm sections.resources.thermal)

include storagePerm thermalPerm

theorem evaluateResources_perm :
    evaluateResources config loadPct (sections.withElements storage thermal).resources =
      evaluateResources config loadPct sections.resources := by
  have greatest := evaluateResources_isGreatest config loadPct
    (sections.withElements storage thermal).resources
  have classes : resourceClasses config loadPct
      (sections.withElements storage thermal).resources =
        resourceClasses config loadPct sections.resources := by
    simp only [resourceClasses, SnapshotState.withElements,
      Rollup.grades_perm _ storagePerm, Rollup.grades_perm _ thermalPerm]
  rw [classes] at greatest
  exact greatest.unique (evaluateResources_isGreatest config loadPct sections.resources)

theorem aggregate_domains_perm :
    (aggregateSections config loadPct generatedAt
        (sections.withElements storage thermal)).summary.domains =
      (aggregateSections config loadPct generatedAt sections).summary.domains := by
  have same := evaluateResources_perm config loadPct storagePerm thermalPerm
  simp only [aggregateSections, aggregate, same]
  rfl

theorem aggregate_severity_perm :
    (aggregateSections config loadPct generatedAt
        (sections.withElements storage thermal)).summary.severity =
      (aggregateSections config loadPct generatedAt sections).summary.severity := by
  have greatest := aggregate_severity config loadPct generatedAt
    (sections.withElements storage thermal)
  rw [aggregate_domains_perm config loadPct generatedAt storagePerm thermalPerm] at greatest
  exact greatest.unique (aggregate_severity config loadPct generatedAt sections)

end Order

/-- The roll-up of `aggregate` is exact at every level: nothing is masked, the
order of mounts and sensors is irrelevant, and neither more elements nor a stale
mark can lower a severity. -/
theorem aggregate_rollup_exact (sections : SnapshotState) :
    let summary := fun given : SnapshotState =>
      (aggregateSections config loadPct generatedAt given).summary
    IsGreatest (resourceClasses config loadPct sections.resources)
        (evaluateDomain config loadPct sections .resources) ∧
      (∀ domain, IsGreatest (domainClasses config loadPct sections domain)
        ((summary sections).domains.get domain)) ∧
      IsGreatest (Set.range (summary sections).domains.get) (summary sections).severity ∧
      (∀ storage thermal, storage.Perm sections.resources.storage →
        thermal.Perm sections.resources.thermal →
        (summary (sections.withElements storage thermal)).domains =
            (summary sections).domains ∧
          (summary (sections.withElements storage thermal)).severity =
            (summary sections).severity) ∧
      (∀ mounts sensors,
        let extended := sections.withElements (sections.resources.storage ++ mounts)
          (sections.resources.thermal ++ sensors)
        (∀ domain, (summary sections).domains.get domain ≤
            (summary extended).domains.get domain) ∧
          (summary sections).severity ≤ (summary extended).severity) ∧
      (∀ marked,
        (∀ domain, (summary sections).domains.get domain ≤
            (summary (sections.setStale marked)).domains.get domain) ∧
          (summary sections).severity ≤ (summary (sections.setStale marked)).severity) := by
  intro summary
  refine ⟨evaluateResources_isGreatest config loadPct sections.resources, ?_,
    aggregate_severity config loadPct generatedAt sections, ?_, ?_, ?_⟩
  · intro domain
    rw [aggregate_domain]
    exact raiseStale_isGreatest config loadPct sections domain
  · intro storage thermal storagePerm thermalPerm
    exact ⟨aggregate_domains_perm config loadPct generatedAt storagePerm thermalPerm,
      aggregate_severity_perm config loadPct generatedAt storagePerm thermalPerm⟩
  · intro mounts sensors extended
    have raised := withElements_domain_le config loadPct generatedAt sections
      (sections.resources.storage ++ mounts) (sections.resources.thermal ++ sensors)
      (List.subset_append_left _ _) (List.subset_append_left _ _)
    exact ⟨raised, aggregate_severity_mono config loadPct generatedAt _ _ raised⟩
  · intro marked
    have raised := setStale_domain_le config loadPct generatedAt sections marked
    exact ⟨raised, aggregate_severity_mono config loadPct generatedAt _ _ raised⟩

end Domains

end EdgeHealthd
