import EdgeHealthd.PageCore
import EdgeHealthd.Probes
import EdgeHealthd.ResourceFlags
import EdgeHealthd.SnapshotJson
import Mathlib

/-!
What the page makes of the documents of the daemon. The validator accepts every one of
them, the page shows the severities the aggregator computed and finds exactly the reasons
it wrote, and headline and order of the rows agree with the overall severity of the run.
-/

namespace EdgeHealthd.WebUi

open Throwing

section Document

variable (builtins : Builtins) (text : ByteString → String) (state : SnapshotState)

theorem normalizeSeverity_severity (severity : Severity) :
    normalizeSeverity (some (.severity severity)) = severity := by
  cases severity <;> rfl

theorem parseHealthState_toJson (digit : builtins.ofText "1" = .finite 1) :
    parseHealthState builtins (state.toJson text) = .ok (state.toJson text) := by
  have version : schemaVersion (state.toJson text) = "1.1" := rfl
  have first : String.ofList ("1.1".toList.takeWhile (· ≠ '.')) = "1" := by decide
  have major : schemaMajor builtins (schemaVersion (state.toJson text)) = .finite 1 := by
    rw [version, schemaMajor, first, digit]
  simp only [parseHealthState, require_bind_eq_ok, requireAll_bind_eq_ok, major]
  refine ⟨rfl, rfl, rfl, rfl, ?_, rfl, rfl, rfl, rfl, ?_, rfl, rfl, rfl, rfl, rfl⟩
  · simp only [sections, List.forall_mem_cons]
    exact ⟨rfl, rfl, rfl, rfl, rfl, rfl, rfl, rfl, List.forall_mem_nil _⟩
  · simp only [List.forall_mem_cons]
    exact ⟨rfl, rfl, List.forall_mem_nil _⟩

theorem domainSeverity_toJson (domain : Domain) :
    domainSeverity (state.toJson text) domain = .ok (state.summary.domains.get domain) := by
  have shown : domainSeverity (state.toJson text) domain =
      .ok (normalizeSeverity (some (.severity (state.summary.domains.get domain)))) := by
    cases domain <;> rfl
  rw [shown, normalizeSeverity_severity]

theorem domainSeverities_toJson :
    domainSeverities (state.toJson text) =
      .ok (domains.map fun domain => (domain, state.summary.domains.get domain)) := by
  simp only [domainSeverities, domainSeverity_toJson, ok_bind]
  rfl

theorem unitsRenderable_toJson :
    UnitsRenderable (state.services.units.map (ServiceUnit.toJson text)) := by
  constructor
  · intro unit member
    obtain ⟨unit, _, rfl⟩ := List.mem_map.mp member
    exact nofun
  · intro failing only
    have kept : failing ∈ (state.services.units.map (ServiceUnit.toJson text)).filter unitFails := by
      simp [only]
    obtain ⟨unit, _, rfl⟩ := List.mem_map.mp (List.mem_of_mem_filter kept)
    exact ⟨rfl, rfl⟩

theorem displayable_map_string (value : Option String) :
    displayable (value.map Json.string) = true := by
  cases value <;> rfl

theorem member_rebootReason :
    member (state.toJson text) ["boot", "last_reboot_reason"] =
      state.boot.lastRebootReason.map Json.string := by
  have shown : member (state.toJson text) ["boot", "last_reboot_reason"] =
      state.boot.toJson.find? "last_reboot_reason" := rfl
  rw [shown]
  simp [BootStatus.toJson, find?_object_append, find?_object_cons,
    find?_object_optionalMember, find?_object_emitFreshness]

theorem member_activeSlot :
    member (state.toJson text) ["update", "active_slot"] =
      state.update.activeSlot.map Json.string := by
  have shown : member (state.toJson text) ["update", "active_slot"] =
      state.update.toJson.find? "active_slot" := rfl
  rw [shown]
  simp [UpdateStatus.toJson, find?_object_append, find?_object_cons,
    find?_object_optionalMember, find?_object_emitFreshness]

theorem member_updateResult :
    member (state.toJson text) ["update", "last_update", "result"] =
      state.update.lastUpdate.map fun update => Json.string update.result.toString := by
  have shown : member (state.toJson text) ["update", "last_update", "result"] =
      optionalProperty "result" (state.update.toJson.find? "last_update") := rfl
  rw [shown]
  cases update : state.update.lastUpdate with
  | none =>
      simp [UpdateStatus.toJson, find?_object_append, find?_object_cons,
        find?_object_optionalMember, find?_object_emitFreshness, update, optionalProperty]
  | some found =>
      simp [UpdateStatus.toJson, find?_object_append, find?_object_cons,
        find?_object_optionalMember, find?_object_emitFreshness, update, optionalProperty,
        LastUpdate.toJson]

theorem isString_clockState (clock : String) (known : clock = "ptp" ∨ clock = "ntp") :
    isString (orElse (member (state.toJson text) ["time_sync", clock, "state"])
      (some (.string "unknown"))) = true := by
  rcases known with rfl | rfl
  · have shown : member (state.toJson text) ["time_sync", "ptp", "state"] =
        state.timeSync.ptp.toJson.find? "state" := rfl
    rw [shown]
    cases clock : state.timeSync.ptp.state <;>
      simp [PtpStatus.toJson, find?_object_append, find?_object_cons,
        find?_object_optionalMember, clock, orElse, isString]
  · have shown : member (state.toJson text) ["time_sync", "ntp", "state"] =
        state.timeSync.ntp.toJson.find? "state" := rfl
    rw [shown]
    cases clock : state.timeSync.ntp.state <;>
      simp [NtpStatus.toJson, find?_object_append, find?_object_cons,
        find?_object_optionalMember, clock, orElse, isString]

theorem renderable_toJson : Renderable (state.toJson text) where
  boot := by
    intro _
    rw [member_rebootReason]
    exact ⟨fun _ => displayable_map_string _, rfl⟩
  units := unitsRenderable_toJson text state
  memory := fun _ _ _ => rfl
  sensors := by
    intro sensor member
    obtain ⟨sensor, _, rfl⟩ := List.mem_map.mp member
    exact nofun
  mounts := by
    intro mount member
    obtain ⟨mount, _, rfl⟩ := List.mem_map.mp member
    exact nofun
  clock := by
    intro _
    refine ⟨rfl, isString_clockState text state _ ?_⟩
    unfold clockOf
    split
    · exact Or.inl rfl
    · exact Or.inr rfl
  slot := by
    intro _
    rw [member_activeSlot]
    exact displayable_map_string _
  lastUpdate := by
    intro _
    rw [member_updateResult]
    cases state.update.lastUpdate <;> rfl
  errors := rfl
  crash := fun _ => rfl
  reasons := by
    intro raw member
    obtain ⟨reason, _, rfl⟩ := List.mem_map.mp member
    exact Or.inl rfl

theorem summaries_toJson (digit : builtins.ofText "1" = .finite 1) (domain : Domain) :
    Returns (domainSummary builtins (state.toJson text) domain) := by
  have accepted := (parseHealthState_accepts (parseHealthState_toJson builtins text state digit)).2
  exact ((accepted.renders_iff builtins).mpr (renderable_toJson text state)).1 domain

theorem points_iff {code : String} (plain : ':' ∉ code.toList) (subject raw : String) :
    points code subject raw = true ↔ raw = code ++ ":" ++ subject := by
  constructor
  · intro found
    by_cases colon : ':' ∈ raw.toList
    · obtain ⟨before, after, split, unseen⟩ := List.eq_append_cons_of_mem colon
      have spelled : raw = String.ofList before ++ ":" ++ String.ofList after := by
        apply String.toList_inj.mp
        simp [split, String.toList_append]
      rw [spelled, points_subject _ _ _ _ (by simpa using unseen)] at found
      rw [spelled, found.1, found.2]
    · rw [points_plain code subject raw colon] at found
      cases found
  · rintro rfl
    exact (points_subject code subject code subject plain).mpr ⟨rfl, rfl⟩

theorem hasReason_toJson {code : String} (plain : ':' ∉ code.toList) (subject : String) :
    hasReason (state.toJson text) code (some subject) =
      .ok (decide (code ++ ":" ++ subject ∈ state.summary.reasons)) := by
  have decided : ∀ raw ∈ state.summary.reasons.map Json.string,
      (do return (← parseReason raw).matches code (some subject)) =
        Except.ok ((raw.getString.map (points code subject)).getD false) := by
    intro raw member
    obtain ⟨reason, _, rfl⟩ := List.mem_map.mp member
    obtain ⟨parsed, found⟩ := (returns_parseReason (.string reason)).mpr (Or.inl rfl)
    simp only [found, ok_bind, Json.getString, Option.map_some, Option.getD_some, points]
    rfl
  have shown : hasReason (state.toJson text) code (some subject) =
      any (fun raw => do return (← parseReason raw).matches code (some subject))
        (state.summary.reasons.map Json.string) := rfl
  rw [shown, any_eq_ok decided, List.any_map]
  refine congrArg Except.ok (Bool.eq_iff_iff.mpr ?_)
  rw [decide_eq_true_eq, List.any_eq_true]
  constructor
  · rintro ⟨raw, member, found⟩
    rw [← (points_iff plain subject raw).mp found]
    exact member
  · intro member
    exact ⟨_, member, (points_iff plain subject _).mpr rfl⟩

end Document

/-- The page accepts every document of the daemon and shows what the daemon wrote: the
severity of each domain, a summary of each without a throw, and the reasons with a subject. -/
theorem page_shows_snapshot (builtins : Builtins) (digit : builtins.ofText "1" = .finite 1)
    (text : ByteString → String) (state : SnapshotState) :
    parseHealthState builtins (state.toJson text) = .ok (state.toJson text) ∧
      domainSeverities (state.toJson text) =
        .ok (domains.map fun domain => (domain, state.summary.domains.get domain)) ∧
      (∀ domain, Returns (domainSummary builtins (state.toJson text) domain)) ∧
      ∀ code : String, ':' ∉ code.toList → ∀ subject,
        hasReason (state.toJson text) code (some subject) =
          .ok (decide (code ++ ":" ++ subject ∈ state.summary.reasons)) :=
  ⟨parseHealthState_toJson builtins text state digit, domainSeverities_toJson text state,
    summaries_toJson builtins text state digit,
    fun _ plain subject => hasReason_toJson text state plain subject⟩

theorem first_snapshot_shown :
    versionOnly.ofText "1" = .finite 1 ∧
      hasReason (SnapshotState.toJson (fun _ => "")
        { summary := { reasons := ["svc_failed:sshd.service"] } }) "svc_failed"
          (some "sshd.service") = .ok true := by
  have digit : versionOnly.ofText "1" = .finite 1 := rfl
  have shown := page_shows_snapshot versionOnly digit (fun _ => "")
    { summary := { reasons := ["svc_failed:sshd.service"] } }
  exact ⟨digit, shown.2.2.2 "svc_failed" (by decide) "sshd.service"⟩

section Verdict

variable {severities : Domain → Severity} {overall : Severity}

theorem mem_domains (domain : Domain) : domain ∈ domains := by
  cases domain <;> decide

def faults (severities : Domain → Severity) : List Domain :=
  domains.filter fun domain => isFault (severities domain)

def blind (severities : Domain → Severity) : List Domain :=
  domains.filter fun domain => isVisibilityLoss (severities domain)

theorem mem_faults {domain : Domain} : domain ∈ faults severities ↔
    isFault (severities domain) = true := by
  simp [faults, mem_domains]

theorem mem_blind {domain : Domain} : domain ∈ blind severities ↔
    isVisibilityLoss (severities domain) = true := by
  simp [blind, mem_domains]

theorem isFault_iff (severity : Severity) : isFault severity = true ↔ Severity.warn ≤ severity := by
  cases severity <;> decide

theorem isVisibilityLoss_iff (severity : Severity) :
    isVisibilityLoss severity = true ↔ Severity.stale ≤ severity ∧ severity < .warn := by
  cases severity <;> decide

/-- What the headline says where the overall severity is the worst of the domains. -/
inductive Headline (severities : Domain → Severity) : Severity → String → Prop
  | fault {overall : Severity} (domain : Domain) (level : isFault overall = true)
      (worst : severities domain = overall) (only : faults severities = [domain]) :
      Headline severities overall (domainLabel domain ++ " needs attention")
  | faults {overall : Severity} (level : isFault overall = true)
      (several : 2 ≤ (faults severities).length) :
      Headline severities overall
        (toString (faults severities).length ++ " domains need attention")
  | blind {overall : Severity} (domain : Domain) (level : isVisibilityLoss overall = true)
      (worst : severities domain = overall) (healthy : faults severities = [])
      (only : blind severities = [domain]) :
      Headline severities overall ("Can't see " ++ (domainLabel domain).toLower)
  | blinds {overall : Severity} (level : isVisibilityLoss overall = true)
      (healthy : faults severities = []) (several : 2 ≤ (blind severities).length) :
      Headline severities overall
        ("Can't see " ++ toString (blind severities).length ++ " domains")
  | healthy (all : ∀ domain, severities domain = .ok) :
      Headline severities .ok "All domains healthy"
  | observed (missing : ∃ domain, severities domain = .unknown)
      (others : ∀ domain, severities domain = .ok ∨ severities domain = .unknown) :
      Headline severities .ok "Everything observed is healthy"
  | waiting (all : ∀ domain, severities domain = .unknown) :
      Headline severities .unknown "Waiting for the first collection"

theorem unobserved_length_iff :
    (domains.filter fun domain => severities domain = .unknown).length = domains.length ↔
      ∀ domain, severities domain = .unknown := by
  rw [List.length_filter_eq_length_iff]
  constructor
  · intro all domain
    exact of_decide_eq_true (all domain (mem_domains domain))
  · intro all domain _
    exact decide_eq_true (all domain)

theorem headline_fault {first : Domain} {others : List Domain}
    (worst : IsGreatest (Set.range severities) overall)
    (found : faults severities = first :: others) :
    Headline severities overall
      (if others.isEmpty then domainLabel first ++ " needs attention"
        else toString (faults severities).length ++ " domains need attention") := by
  have faulty : isFault (severities first) = true := mem_faults.mp (by simp [found])
  have level : isFault overall = true :=
    (isFault_iff overall).mpr (((isFault_iff _).mp faulty).trans (worst.2 ⟨first, rfl⟩))
  cases others with
  | nil =>
      obtain ⟨domain, same⟩ := worst.1
      have member : domain ∈ faults severities := mem_faults.mpr (by rw [same]; exact level)
      rw [found, List.mem_singleton] at member
      exact .fault first level (member ▸ same) found
  | cons second rest => exact .faults level (by simp [found])

theorem headline_blind {first : Domain} {others : List Domain}
    (worst : IsGreatest (Set.range severities) overall) (healthy : faults severities = [])
    (found : blind severities = first :: others) :
    Headline severities overall
      (if others.isEmpty then "Can't see " ++ (domainLabel first).toLower
        else "Can't see " ++ toString (blind severities).length ++ " domains") := by
  obtain ⟨domain, same⟩ := worst.1
  have lost : isVisibilityLoss (severities first) = true := mem_blind.mp (by simp [found])
  have calm : domain ∉ faults severities := by simp [healthy]
  rw [mem_faults, same, isFault_iff, not_le] at calm
  have level : isVisibilityLoss overall = true :=
    (isVisibilityLoss_iff overall).mpr
      ⟨((isVisibilityLoss_iff _).mp lost).1.trans (worst.2 ⟨first, rfl⟩), calm⟩
  cases others with
  | nil =>
      have member : domain ∈ blind severities := mem_blind.mpr (by rw [same]; exact level)
      rw [found, List.mem_singleton] at member
      exact .blind first level (member ▸ same) healthy found
  | cons second rest => exact .blinds level healthy (by simp [found])

theorem ok_or_unknown (healthy : faults severities = []) (seen : blind severities = [])
    (domain : Domain) : severities domain = .ok ∨ severities domain = .unknown := by
  have calm : domain ∉ faults severities := by simp [healthy]
  have lit : domain ∉ blind severities := by simp [seen]
  rw [mem_faults] at calm
  rw [mem_blind] at lit
  generalize severities domain = severity at calm lit ⊢
  cases severity <;> simp_all [isFault, isVisibilityLoss]

theorem verdictFor_headline (worst : IsGreatest (Set.range severities) overall) :
    Headline severities overall (verdictFor severities).headline := by
  unfold verdictFor
  by_cases waiting : ∀ domain, severities domain = .unknown
  · rw [if_pos (unobserved_length_iff.mpr waiting)]
    obtain ⟨domain, same⟩ := worst.1
    rw [← same, waiting domain]
    exact .waiting waiting
  · rw [if_neg (unobserved_length_iff.not.mpr waiting)]
    cases faulty : domains.filter fun domain => isFault (severities domain) with
    | cons first others =>
        have named := headline_fault worst faulty
        rwa [faults, faulty] at named
    | nil =>
        cases lost : domains.filter fun domain => isVisibilityLoss (severities domain) with
        | cons first others =>
            have named := headline_blind worst faulty lost
            rwa [blind, lost] at named
        | nil =>
            have calm := ok_or_unknown faulty lost
            obtain ⟨observed, seen⟩ := not_forall.mp waiting
            have reported : overall = .ok := by
              obtain ⟨domain, same⟩ := worst.1
              have reached := worst.2 ⟨observed, rfl⟩
              rw [(calm observed).resolve_right seen] at reached
              rcases calm domain with ok | unknown
              · exact same.symm.trans ok
              · rw [← same, unknown] at reached
                exact absurd reached (by decide)
            subst reported
            by_cases missing : ∃ domain, severities domain = .unknown
            · have counted : 0 < (domains.filter fun domain =>
                  severities domain = .unknown).length := by
                obtain ⟨domain, unknown⟩ := missing
                exact List.length_pos_of_mem
                  (List.mem_filter.mpr ⟨mem_domains domain, decide_eq_true unknown⟩)
              simpa only [if_pos counted] using Headline.observed missing calm
            · have none : ¬0 < (domains.filter fun domain =>
                  severities domain = .unknown).length := by
                intro counted
                obtain ⟨domain, member⟩ := List.exists_mem_of_length_pos counted
                exact missing ⟨domain, of_decide_eq_true (List.mem_filter.mp member).2⟩
              simp only [if_neg none]
              exact .healthy fun domain =>
                (calm domain).resolve_right fun unknown => missing ⟨domain, unknown⟩

end Verdict

section Rows

variable {severities : Domain → Severity} {overall : Severity}

theorem rank_eq_severityRank (severity : Severity) : rank severity = severityRank severity := by
  cases severity <;> rfl

/-- The worse domain first, and the canonical order between equals. -/
def Precedes (severities : Domain → Severity) (left right : Domain) : Prop :=
  severities right < severities left ∨
    severities left = severities right ∧ domains.idxOf left ≤ domains.idxOf right

theorem attentionOrder_nonpos_iff (left right : Domain) :
    decide (attentionOrder severities left right ≤ 0) = true ↔
      Precedes severities left right := by
  have same : severities left = severities right ↔
      severityRank (severities left) = severityRank (severities right) :=
    severityRank_injective.eq_iff.symm
  rw [decide_eq_true_eq, Precedes, severity_lt_iff, same, attentionOrder, rank_eq_severityRank,
    rank_eq_severityRank]
  split <;> omega

theorem Precedes.trans {first second third : Domain} (left : Precedes severities first second)
    (right : Precedes severities second third) : Precedes severities first third := by
  rcases left with worse | ⟨same, before⟩
  · rcases right with lower | ⟨equal, _⟩
    · exact Or.inl (lower.trans worse)
    · exact Or.inl (equal ▸ worse)
  · rcases right with lower | ⟨equal, after⟩
    · exact Or.inl (same ▸ lower)
    · exact Or.inr ⟨same.trans equal, before.trans after⟩

theorem Precedes.total (left right : Domain) :
    Precedes severities left right ∨ Precedes severities right left := by
  rcases lt_trichotomy (severities left) (severities right) with lower | same | worse
  · exact Or.inr (Or.inl lower)
  · rcases le_total (domains.idxOf left) (domains.idxOf right) with before | after
    · exact Or.inl (Or.inr ⟨same, before⟩)
    · exact Or.inr (Or.inr ⟨same.symm, after⟩)
  · exact Or.inl (Or.inl worse)

theorem orderByAttention_perm : (orderByAttention severities).Perm domains :=
  List.mergeSort_perm _ _

theorem orderByAttention_pairwise :
    (orderByAttention severities).Pairwise (Precedes severities) := by
  have transitive : ∀ first second third,
      decide (attentionOrder severities first second ≤ 0) = true →
      decide (attentionOrder severities second third ≤ 0) = true →
      decide (attentionOrder severities first third ≤ 0) = true := by
    intro first second third left right
    rw [attentionOrder_nonpos_iff] at left right ⊢
    exact left.trans right
  have total : ∀ left right, (decide (attentionOrder severities left right ≤ 0) ||
      decide (attentionOrder severities right left ≤ 0)) = true := by
    intro left right
    rw [Bool.or_eq_true, attentionOrder_nonpos_iff, attentionOrder_nonpos_iff]
    exact Precedes.total left right
  have sorted := List.pairwise_mergeSort transitive total domains
  exact sorted.imp fun ordered => (attentionOrder_nonpos_iff _ _).mp ordered

theorem orderByAttention_head (worst : IsGreatest (Set.range severities) overall) :
    (orderByAttention severities).head?.map severities = some overall := by
  have perm : (orderByAttention severities).Perm domains := orderByAttention_perm
  have sorted : (orderByAttention severities).Pairwise (Precedes severities) :=
    orderByAttention_pairwise
  cases rows : orderByAttention severities with
  | nil =>
      rw [rows] at perm
      exact absurd perm.symm.eq_nil (by decide)
  | cons first rest =>
      rw [rows] at perm sorted
      obtain ⟨domain, same⟩ := worst.1
      have above : overall ≤ severities first := by
        rcases List.mem_cons.mp (perm.mem_iff.mpr (mem_domains domain)) with rfl | later
        · exact same.ge
        · rcases List.rel_of_pairwise_cons sorted later with worse | ⟨equal, _⟩
          · exact same ▸ worse.le
          · exact (equal.trans same).ge
      exact congrArg some (le_antisymm (worst.2 ⟨first, rfl⟩) above)

end Rows

section Runs

variable (config : Config) (loadPct : CpuLoad → Double)

theorem collectionCycle_isGreatest (daemon : Daemon) (input : CycleInput) :
    IsGreatest (Set.range
        (collectionCycle config loadPct daemon input).2.snapshot.summary.domains.get)
      (collectionCycle config loadPct daemon input).2.snapshot.summary.severity := by
  rw [collectionCycle_summary]
  exact aggregate_severity config loadPct _ _

theorem ok_le_collectionCycle (daemon : Daemon) (input : CycleInput) :
    Severity.ok ≤ (collectionCycle config loadPct daemon input).2.snapshot.summary.severity := by
  have rolled := (collectionCycle_isGreatest config loadPct daemon input).2 ⟨.boot, rfl⟩
  rw [collectionCycle_domain] at rolled
  calc Severity.ok ≤ evaluateBoot config _ := ok_le_evaluateBoot config _
    _ ≤ _ := le_raiseStale _ _
    _ ≤ _ := rolled

end Runs

/-- For every snapshot of every run the page is of one mind: the badge is the overall
severity, the headline says what that severity means and counts the domains behind it, the
first row is a domain that has it, and the page never waits for a first collection. -/
theorem page_agrees_with_rollup (config : Config) (loadPct : CpuLoad → Double)
    (healthManager : Option HealthManager) (inputs : List CycleInput) (report : CycleReport)
    (reported : report ∈ (runCycles config loadPct healthManager inputs).2)
    (text : ByteString → String) :
    let document := report.snapshot.toJson text
    let severities := report.snapshot.summary.domains.get
    let overall := report.snapshot.summary.severity
    domainSeverities document = .ok (domains.map fun domain => (domain, severities domain)) ∧
      normalizeSeverity (member document ["summary", "severity"]) = overall ∧
      overall ≠ .unknown ∧
      Headline severities overall (verdictFor severities).headline ∧
      (orderByAttention severities).Perm domains ∧
      (orderByAttention severities).Pairwise (Precedes severities) ∧
      (orderByAttention severities).head?.map severities = some overall := by
  obtain ⟨past, input, rest, _, rfl⟩ := mem_runCycles config loadPct healthManager reported
  intro document severities overall
  have worst : IsGreatest (Set.range severities) overall :=
    collectionCycle_isGreatest config loadPct _ input
  refine ⟨domainSeverities_toJson text _, normalizeSeverity_severity _, ?_,
    verdictFor_headline worst, orderByAttention_perm, orderByAttention_pairwise,
    orderByAttention_head worst⟩
  intro unknown
  have observed : Severity.ok ≤ overall := ok_le_collectionCycle config loadPct _ input
  rw [unknown] at observed
  exact absurd observed (by decide)

theorem first_cycle_on_page :
    let severities : Domain → Severity := (runCycles {} (fun _ => .finite 0) none
      [memoryFailureInput 0]).1.currentState.summary.domains.get
    Headline severities .ok (verdictFor severities).headline ∧
      (orderByAttention severities).head?.map severities = some .ok := by
  have shown := page_agrees_with_rollup {} (fun _ => .finite 0) none [memoryFailureInput 0]
    _ List.mem_cons_self (fun _ => "")
  exact ⟨shown.2.2.2.1, shown.2.2.2.2.2.2⟩

end EdgeHealthd.WebUi
