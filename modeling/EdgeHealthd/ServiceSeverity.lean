import EdgeHealthd.Probes

/-!
The roll-up of `ServicesProbe::collect`. It is written out by hand and starts at
`ok`, so it is the worst of the units only where one of them is known to be ok or
worse.
-/

namespace EdgeHealthd

section Services

variable (config : Config)

/-- The unit's severity is not `unknown`: a threshold is zero, or the unit could be
queried and its state or its restarts say something. -/
def IsJudged (replies : UnitReplies) (name : String) : Prop :=
  config.thresholds.serviceRestartCrit = 0 ∨ config.thresholds.serviceRestartWarn = 0 ∨
    isSafeUnitName name = true ∧ ∃ activeState, replies.activeState = .ok activeState ∧
      (activeState = "active" ∨ activeState = "inactive" ∨ activeState = "failed" ∨
        config.thresholds.serviceRestartCrit ≤ replies.nRestarts.getD 0 ∨
        config.thresholds.serviceRestartWarn ≤ replies.nRestarts.getD 0)

theorem evaluateUnitSeverity_cases (unit : ServiceUnit) :
    ServicesProbe.evaluateUnitSeverity config unit = .unknown ∨
      ServicesProbe.evaluateUnitSeverity config unit = .ok ∨
      (ServicesProbe.evaluateUnitSeverity config unit).isDegraded = true := by
  unfold ServicesProbe.evaluateUnitSeverity
  repeat' split
  all_goals simp [Severity.isDegraded]

theorem updateOverall_eq_max {overall : Severity} {unit : ServiceUnit}
    (started : overall = .ok ∨ overall.isDegraded = true)
    (judged : unit.severity = .unknown ∨ unit.severity = .ok ∨ unit.severity.isDegraded = true) :
    ServicesProbe.updateOverall overall unit = max overall unit.severity := by
  rw [isDegraded_iff_eq] at started judged
  unfold ServicesProbe.updateOverall
  rcases started with rfl | rfl | rfl <;> rcases judged with same | same | same | same <;>
    rw [same] <;> rfl

theorem updateOverall_started {overall : Severity} (unit : ServiceUnit)
    (started : overall = .ok ∨ overall.isDegraded = true) :
    ServicesProbe.updateOverall overall unit = .ok ∨
      (ServicesProbe.updateOverall overall unit).isDegraded = true := by
  rw [isDegraded_iff_eq] at started
  unfold ServicesProbe.updateOverall
  rcases started with rfl | rfl | rfl <;> cases unit.severity <;> decide

theorem foldl_updateOverall_eq (units : List ServiceUnit) (overall : Severity)
    (started : overall = .ok ∨ overall.isDegraded = true)
    (judged : ∀ unit ∈ units, unit.severity = .unknown ∨ unit.severity = .ok ∨
      unit.severity.isDegraded = true) :
    units.foldl ServicesProbe.updateOverall overall =
      units.foldl (fun worst unit => max worst unit.severity) overall := by
  induction units generalizing overall with
  | nil => rfl
  | cons unit rest ih =>
      rw [List.foldl_cons, List.foldl_cons,
        ← updateOverall_eq_max started (judged unit List.mem_cons_self)]
      exact ih _ (updateOverall_started unit started)
        fun other member => judged other (List.mem_cons_of_mem _ member)

theorem collectUnits_isGreatest (journal : Option JournalReader) (replies : Nat → UnitReplies) :
    IsGreatest
      (insert .ok (Rollup.grades ServiceUnit.severity
        (ServicesProbe.collectUnits config journal replies)))
      ((ServicesProbe.collectUnits config journal replies).foldl
        ServicesProbe.updateOverall .ok) := by
  rw [foldl_updateOverall_eq _ _ (.inl rfl)]
  · exact Rollup.foldl_max_isGreatest _ _ _
  · intro unit member
    rw [collectUnits_severity config journal replies unit member]
    exact evaluateUnitSeverity_cases config unit

def ServiceUnit.Known (unit : ServiceUnit) : Prop :=
  unit.state = .active ∨ unit.state = .inactive ∨ unit.state = .failed

theorem evaluateUnitSeverity_known_iff (unit : ServiceUnit) :
    ServicesProbe.evaluateUnitSeverity config unit ≠ .unknown ↔
      unit.Known ∨ config.thresholds.serviceRestartCrit ≤ unit.restartCount ∨
        config.thresholds.serviceRestartWarn ≤ unit.restartCount := by
  unfold ServicesProbe.evaluateUnitSeverity ServiceUnit.Known
  by_cases crit : config.thresholds.serviceRestartCrit ≤ unit.restartCount
  · cases unit.state <;> simp [crit]
  by_cases warn : config.thresholds.serviceRestartWarn ≤ unit.restartCount
  · cases unit.state <;> simp [crit, warn]
  cases unit.state <;> simp [crit, warn]

theorem applyActiveState_known_iff (replies : UnitReplies) (activeState : String)
    {unit : ServiceUnit} (fresh : unit.state = .unknown) :
    (ServicesProbe.applyActiveState replies activeState unit).Known ↔
      activeState = "active" ∨ activeState = "inactive" ∨ activeState = "failed" := by
  unfold ServicesProbe.applyActiveState
  by_cases active : activeState = "active"
  · simp [active, ServiceUnit.Known]
  by_cases inactive : activeState = "inactive"
  · by_cases socket : hasServiceSuffix unit.name && replies.socketState == some "active"
    · simp [inactive, ServiceUnit.Known, socket]
    · simp [inactive, ServiceUnit.Known, socket]
  by_cases failed : activeState = "failed"
  · simp [failed, ServiceUnit.Known]
  simp only [active, inactive, failed, beq_iff_eq, ↓reduceIte, or_false, iff_false]
  repeat' split
  all_goals simp [ServiceUnit.Known, fresh]

theorem queryUnit_known_iff (journal : Option JournalReader) (replies : UnitReplies)
    (name : String) :
    (ServicesProbe.queryUnit config journal replies name).Known ↔
      isSafeUnitName name = true ∧ ∃ activeState, replies.activeState = .ok activeState ∧
        (activeState = "active" ∨ activeState = "inactive" ∨ activeState = "failed") := by
  unfold ServicesProbe.queryUnit
  by_cases safe : isSafeUnitName name = true
  · simp only [safe, Bool.not_true, Bool.false_eq_true, ↓reduceIte, true_and]
    cases replies.activeState with
    | error message => simp [ServiceUnit.Known]
    | ok activeState =>
        simp only [Except.ok.injEq, exists_eq_left']
        exact applyActiveState_known_iff replies activeState rfl
  · simp [safe, ServiceUnit.Known]

theorem queryUnit_restartCount (journal : Option JournalReader) (replies : UnitReplies)
    (name : String) :
    (ServicesProbe.queryUnit config journal replies name).restartCount =
      if isSafeUnitName name = true ∧ replies.activeState.isOk = true then
        replies.nRestarts.getD 0 else 0 := by
  unfold ServicesProbe.queryUnit
  by_cases safe : isSafeUnitName name = true
  · cases replies.activeState with
    | error message => simp [safe, Except.isOk, Except.toBool]
    | ok activeState => simp [safe, Except.isOk, Except.toBool]
  · simp [safe]

theorem queryAndEvaluate_judged_iff (journal : Option JournalReader) (replies : UnitReplies)
    (name : String) :
    (ServicesProbe.queryAndEvaluate config journal replies name).severity ≠ .unknown ↔
      IsJudged config replies name := by
  have evaluated := evaluateUnitSeverity_known_iff config
    (ServicesProbe.queryUnit config journal replies name)
  rw [queryUnit_known_iff, queryUnit_restartCount] at evaluated
  refine evaluated.trans ?_
  unfold IsJudged
  by_cases safe : isSafeUnitName name = true
  · cases replies.activeState with
    | error message => simp [safe, Except.isOk, Except.toBool]
    | ok activeState =>
        simp only [safe, Except.isOk, Except.toBool, and_self, ↓reduceIte, true_and,
          Except.ok.injEq, exists_eq_left', or_assoc]
        constructor
        · exact fun judged => Or.inr (Or.inr judged)
        · rintro (zero | zero | judged)
          · rw [zero]
            exact Or.inr (Or.inr (Or.inr (Or.inl UInt32.zero_le)))
          · rw [zero]
            exact Or.inr (Or.inr (Or.inr (Or.inr UInt32.zero_le)))
          · exact judged
  · simp [safe]

/-- The services section is the worst of its units exactly when some monitored unit
is judged. -/
theorem services_overall_isGreatest_iff (journal : Option JournalReader)
    (replies : Nat → UnitReplies) :
    ∃ status, ServicesProbe.collect config journal (some replies) = .ok status ∧
      (IsGreatest (Rollup.grades ServiceUnit.severity status.units) status.overall ↔
        ∃ indexed ∈ config.monitoredServices.zipIdx,
          IsJudged config (replies indexed.2) indexed.1) := by
  refine ⟨_, rfl, ?_⟩
  rw [Rollup.isGreatest_insert_iff (collectUnits_isGreatest config journal replies),
    Rollup.exists_mem_grades, ServicesProbe.collectUnits]
  have above : ∀ severity : Severity, Severity.ok ≤ severity ↔ severity ≠ .unknown := by
    intro severity
    cases severity <;> decide
  constructor
  · rintro ⟨unit, member, known⟩
    obtain ⟨⟨name, index⟩, listed, rfl⟩ := List.mem_map.mp member
    exact ⟨(name, index), listed,
      (queryAndEvaluate_judged_iff config journal _ name).mp ((above _).mp known)⟩
  · rintro ⟨⟨name, index⟩, listed, judged⟩
    exact ⟨_, List.mem_map_of_mem listed,
      (above _).mpr ((queryAndEvaluate_judged_iff config journal _ name).mpr judged)⟩

end Services

theorem services_ok_of_unknown_unit :
    ¬∀ (config : Config) (replies : Nat → UnitReplies) (status : ServicesStatus),
      config.monitoredServices ≠ [] →
      ServicesProbe.collect config none (some replies) = .ok status →
      IsGreatest (Rollup.grades ServiceUnit.severity status.units) status.overall := by
  intro claimed
  obtain ⟨⟨unit, member, same⟩, _⟩ := claimed { monitoredServices := ["edge.service"] }
    (fun _ => { activeState := .error "Unit edge.service not loaded." }) _ (by decide) rfl
  have listed : unit = ServicesProbe.queryAndEvaluate { monitoredServices := ["edge.service"] } none
      { activeState := .error "Unit edge.service not loaded." } "edge.service" :=
    List.mem_singleton.mp member
  rw [listed] at same
  exact absurd same (by decide)

end EdgeHealthd
