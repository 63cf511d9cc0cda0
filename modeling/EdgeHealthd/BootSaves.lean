import EdgeHealthd.BootProbe

/-!
The boot counter where saves fail. A failed save leaves the old file, so the next
call finds the old state again and counts the same boot once more from the start;
what it reports does not change, and what is stored is at most late.
-/

namespace EdgeHealthd

/-- The state that a collect works with: the stored one if it is of this boot. -/
def BootState.entered (state : BootState) (bootId : String) : BootState :=
  if state.lastBootId = bootId then state else state.enterBoot bootId

def savingCall (bootId : String) (file : StateFile) :
    BootCall × Bool → StateFile × Option BootStatus
  | (.collect uptime now, saved) =>
      ((BootProbe.collect file bootId uptime now saved).2,
        some (BootProbe.collect file bootId uptime now saved).1)
  | (.markBootSuccess, saved) => (BootProbe.markBootSuccess file bootId saved, none)

theorem savingCall_saved (bootId : String) (file : StateFile) (call : BootCall) :
    savingCall bootId file (call, true) = bootCall bootId file call := by
  cases call <;> rfl

structure SavingBoot where
  id : String
  calls : List (BootCall × Bool)

def runSavingBoot (file : StateFile) (boot : SavingBoot) :
    StateFile × List (Option BootStatus) :=
  Machine.respond (savingCall boot.id) file boot.calls

def runSavingBoots (file : StateFile) (boots : List SavingBoot) :
    StateFile × List (List (Option BootStatus)) :=
  Machine.respond runSavingBoot file boots

/-- A mark that was not saved is lost, as if it had not been made. -/
def SavingBoot.boot (boot : SavingBoot) : Boot where
  id := boot.id
  calls := (boot.calls.filter fun call => call.1 != .markBootSuccess || call.2).map Prod.fst

theorem entered_id (state : BootState) (bootId : String) :
    (state.entered bootId).lastBootId = bootId := by
  unfold BootState.entered
  split
  · assumption
  · rfl

theorem entered_entered (state : BootState) (bootId : String) :
    (state.entered bootId).entered bootId = state.entered bootId :=
  if_pos (entered_id state bootId)

section Collects

variable (bootId : String) (file : StateFile) (uptime : Int) (now : WallTime) (saved : Bool)

theorem BootProbe.collect_reports :
    (BootProbe.collect file bootId uptime now saved).1.bootFailCount =
        ((loadBootState file).entered bootId).consecutiveFailures ∧
      (BootProbe.collect file bootId uptime now saved).1.bootOk =
        (((loadBootState file).entered bootId).consecutiveFailures == 0) := by
  unfold BootProbe.collect BootState.entered
  by_cases same : (loadBootState file).lastBootId = bootId
  · simp [same]
  · simp [same]

theorem BootProbe.collect_file :
    (BootProbe.collect file bootId uptime now saved).2 =
      if (loadBootState file).lastBootId ≠ bootId ∧ saved = true then
        .json ((loadBootState file).entered bootId).toJson
      else file := by
  unfold BootProbe.collect BootState.entered saveBootState
  by_cases same : (loadBootState file).lastBootId = bootId
  · simp [same]
  · simp [same]

theorem loadBootState_collect :
    loadBootState (BootProbe.collect file bootId uptime now saved).2 =
      if saved then (loadBootState file).entered bootId else loadBootState file := by
  rw [BootProbe.collect_file]
  cases saved with
  | false => simp
  | true =>
      by_cases same : (loadBootState file).lastBootId = bootId
      · simp [same, BootState.entered]
      · simp [same, loadBootState_toJson]

end Collects

/-- No call has stored a mark: in particular all calls before the boot is marked good. -/
def Unmarked (calls : List (BootCall × Bool)) : Prop := (.markBootSuccess, true) ∉ calls

theorem unmarked_cons (call : BootCall × Bool) (rest : List (BootCall × Bool)) :
    Unmarked (call :: rest) ↔ call ≠ (.markBootSuccess, true) ∧ Unmarked rest := by
  simp [Unmarked, eq_comm]

theorem unmarked_snoc (past : List (BootCall × Bool)) (call : BootCall × Bool) :
    Unmarked (past ++ [call]) ↔ Unmarked past ∧ call ≠ (.markBootSuccess, true) := by
  simp [Unmarked, eq_comm]

/-- Whatever the saves do, a boot reports what its first collect would report alone,
and leaves the old file or the one that this collect would have saved. -/
structure SavesAtMostLate (bootId : String) (file : StateFile) (calls : List (BootCall × Bool)) :
    Prop where
  reports : ∀ status, some status ∈ (Machine.respond (savingCall bootId) file calls).2 →
    ∀ uptime now saved,
      status.bootFailCount = (BootProbe.collect file bootId uptime now saved).1.bootFailCount ∧
        status.bootOk = (BootProbe.collect file bootId uptime now saved).1.bootOk
  stores : ∀ uptime now, (Machine.respond (savingCall bootId) file calls).1 =
    if calls.any Prod.snd then (BootProbe.collect file bootId uptime now true).2 else file

theorem savingCall_mark_failed (bootId : String) (file : StateFile) :
    savingCall bootId file (.markBootSuccess, false) = (file, none) := rfl

theorem entered_collect (bootId : String) (file : StateFile) (uptime : Int) (now : WallTime)
    (saved : Bool) :
    (loadBootState (BootProbe.collect file bootId uptime now saved).2).entered bootId =
      (loadBootState file).entered bootId := by
  rw [loadBootState_collect]
  split
  · exact entered_entered _ _
  · rfl

theorem collect_again (bootId : String) (file : StateFile) (uptime : Int) (now : WallTime)
    (saved : Bool) (laterUptime : Int) (later : WallTime) :
    (BootProbe.collect (BootProbe.collect file bootId uptime now saved).2 bootId laterUptime later
      true).2 = (BootProbe.collect file bootId uptime now true).2 := by
  rw [BootProbe.collect_file, entered_collect, loadBootState_collect, BootProbe.collect_file,
    BootProbe.collect_file]
  cases saved with
  | false => simp
  | true =>
      by_cases known : (loadBootState file).lastBootId = bootId
      · simp [known, BootState.entered]
      · simp [known, entered_id]

theorem collect_stores_alike (bootId : String) (file : StateFile) (uptime other : Int)
    (now later : WallTime) :
    (BootProbe.collect file bootId uptime now true).2 =
      (BootProbe.collect file bootId other later true).2 := by
  rw [BootProbe.collect_file, BootProbe.collect_file]

theorem savesAtMostLate_of_unmarked (bootId : String) (file : StateFile)
    (calls : List (BootCall × Bool)) (unmarked : Unmarked calls) :
    SavesAtMostLate bootId file calls := by
  induction calls generalizing file with
  | nil => exact ⟨by simp [Machine.respond], by simp [Machine.respond]⟩
  | cons call rest ih =>
      obtain ⟨notMark, unmarkedRest⟩ := (unmarked_cons call rest).mp unmarked
      obtain ⟨call, saved⟩ := call
      cases call with
      | markBootSuccess =>
          have failed : saved = false := by simpa using notMark
          subst failed
          have later := ih file unmarkedRest
          refine ⟨fun status reported => later.reports status ?_, later.stores⟩
          simpa [Machine.respond, savingCall_mark_failed] using reported
      | collect uptime now =>
          have later := ih (BootProbe.collect file bootId uptime now saved).2 unmarkedRest
          constructor
          · intro status reported otherUptime other otherSaved
            have alone := BootProbe.collect_reports bootId file otherUptime other otherSaved
            rw [alone.1, alone.2]
            rcases List.mem_cons.mp reported with first | more
            · cases first
              exact BootProbe.collect_reports bootId file uptime now saved
            · have same := later.reports status more otherUptime other otherSaved
              have counted := BootProbe.collect_reports bootId
                (BootProbe.collect file bootId uptime now saved).2 otherUptime other otherSaved
              rwa [counted.1, counted.2, entered_collect] at same
          · intro otherUptime other
            show (Machine.respond (savingCall bootId)
              (BootProbe.collect file bootId uptime now saved).2 rest).1 = _
            rw [later.stores otherUptime other, collect_again, List.any_cons,
              collect_stores_alike bootId file uptime otherUptime now other]
            cases saved with
            | false =>
                have left : (BootProbe.collect file bootId uptime now false).2 = file := by
                  rw [BootProbe.collect_file, if_neg (by simp)]
                rw [left, Bool.false_or]
            | true =>
                rw [collect_stores_alike bootId file uptime otherUptime now other, ite_self]
                rfl

structure SavedInBoot (bootId : String) (found current : BootState)
    (calls : List (BootCall × Bool)) : Prop where
  unmarked : Unmarked calls → current = found ∨ current = found.entered bootId
  marked : ¬Unmarked calls → current = ⟨bootId, 0, true⟩

theorem savedInBoot (bootId : String) (file : StateFile) (calls : List (BootCall × Bool)) :
    SavedInBoot bootId (loadBootState file)
      (loadBootState (Machine.respond (savingCall bootId) file calls).1) calls := by
  induction calls using List.reverseRecOn with
  | nil => exact ⟨fun _ => Or.inl rfl, fun marked => absurd (by simp [Unmarked]) marked⟩
  | append_singleton past call ih =>
      obtain ⟨call, saved⟩ := call
      rw [Machine.respond_snoc]
      cases call with
      | markBootSuccess =>
          cases saved with
          | false =>
              refine ⟨fun unmarked => ih.unmarked ((unmarked_snoc _ _).mp unmarked).1, ?_⟩
              intro marked
              apply ih.marked
              intro unmarked
              exact marked ((unmarked_snoc _ _).mpr ⟨unmarked, by simp⟩)
          | true =>
              refine ⟨fun unmarked => absurd rfl ((unmarked_snoc _ _).mp unmarked).2, fun _ => ?_⟩
              rw [savingCall_saved, loadBootState_bootCall]
      | collect uptime now =>
          have next : loadBootState (savingCall bootId (Machine.respond (savingCall bootId) file
              past).1 (.collect uptime now, saved)).1 =
                if saved then (loadBootState (Machine.respond (savingCall bootId) file
                  past).1).entered bootId
                else loadBootState (Machine.respond (savingCall bootId) file past).1 :=
            loadBootState_collect bootId _ uptime now saved
          dsimp only
          rw [next]
          refine ⟨fun unmarked => ?_, fun marked => ?_⟩
          · have before := ih.unmarked ((unmarked_snoc _ _).mp unmarked).1
            split
            · refine Or.inr ?_
              rcases before with old | counted
              · rw [old]
              · rw [counted, entered_entered]
            · exact before
          · have already : ¬Unmarked past := by
              intro unmarked
              exact marked ((unmarked_snoc _ _).mpr ⟨unmarked, by simp⟩)
            rw [ih.marked already, BootState.entered, if_pos rfl, ite_self]

section History

theorem SavingBoot.boot_marked (boot : SavingBoot) :
    boot.boot.marked = true ↔ ¬Unmarked boot.calls := by
  simp [SavingBoot.boot, Boot.marked, Unmarked]

theorem SavingBoot.boot_silent (boot : SavingBoot) :
    boot.boot.silent = true ↔ ∀ call ∈ boot.calls, call = (.markBootSuccess, false) := by
  simp [SavingBoot.boot, Boot.silent, Prod.ext_iff]

theorem runSavingBoot_silent (file : StateFile) (boot : SavingBoot)
    (silent : boot.boot.silent = true) : (runSavingBoot file boot).1 = file := by
  have lost := (SavingBoot.boot_silent boot).mp silent
  unfold runSavingBoot
  generalize boot.calls = calls at lost
  induction calls with
  | nil => rfl
  | cons call rest ih =>
      rw [lost call List.mem_cons_self]
      exact ih fun later member => lost later (List.mem_cons_of_mem _ member)

/-- Neither the stored count nor the one that a next boot would store exceeds a bound. -/
def CountAtMost (bound : Nat) (state : BootState) : Prop :=
  state.consecutiveFailures.toNat ≤ bound ∧
    ∀ bootId, (state.enterBoot bootId).consecutiveFailures.toNat ≤ bound

theorem CountAtMost.entered {bound : Nat} {state : BootState} (within : CountAtMost bound state)
    (bootId : String) : (state.entered bootId).consecutiveFailures.toNat ≤ bound := by
  unfold BootState.entered
  split
  · exact within.1
  · exact within.2 bootId

theorem CountAtMost.next {bound : Nat} {state : BootState}
    (within : state.consecutiveFailures.toNat ≤ bound) : CountAtMost (bound + 1) state := by
  refine ⟨by omega, fun bootId => ?_⟩
  unfold BootState.enterBoot
  dsimp only
  split
  · have wrapped : (state.consecutiveFailures + 1).toNat ≤ state.consecutiveFailures.toNat + 1 := by
      rw [UInt32.toNat_add]
      exact Nat.mod_le _ _
    omega
  · omega

theorem CountAtMost.boot {past : List Boot} {file : StateFile} {boot : SavingBoot}
    (within : CountAtMost (failedStreak past) (loadBootState file)) :
    CountAtMost (failedStreak (past ++ [boot.boot]))
      (loadBootState (runSavingBoot file boot).1) := by
  have left := savedInBoot boot.id file boot.calls
  rw [← runSavingBoot] at left
  rw [failedStreak_snoc]
  by_cases silent : boot.boot.silent = true
  · rw [if_pos silent, runSavingBoot_silent file boot silent]
    exact within
  · rw [if_neg silent]
    by_cases marked : boot.boot.marked = true
    · rw [if_pos marked, left.marked (boot.boot_marked.mp marked)]
      exact ⟨Nat.le_refl 0, fun _ => by simp [BootState.enterBoot]⟩
    · rw [if_neg marked]
      apply CountAtMost.next
      rcases left.unmarked (by simpa [boot.boot_marked] using marked) with old | counted
      · rw [old]
        exact within.1
      · rw [counted]
        exact within.entered boot.id

theorem runSavingBoots_countAtMost (boots : List SavingBoot) :
    CountAtMost (failedStreak (boots.map SavingBoot.boot))
      (loadBootState (runSavingBoots .missing boots).1) := by
  induction boots using List.reverseRecOn with
  | nil => exact ⟨Nat.le_refl 0, fun _ => Nat.le_refl 0⟩
  | append_singleton past boot ih =>
      rw [runSavingBoots, Machine.respond_snoc, List.map_append]
      exact ih.boot

theorem runSavingBoot_reports (file : StateFile) (boot : SavingBoot) {bound : Nat}
    (within : CountAtMost bound (loadBootState file)) (callIndex : Nat) :
    ((loadBootState (Machine.respond (savingCall boot.id) file
      (boot.calls.take callIndex)).1).entered boot.id).consecutiveFailures.toNat ≤ bound := by
  have before := savedInBoot boot.id file (boot.calls.take callIndex)
  by_cases unmarked : Unmarked (boot.calls.take callIndex)
  · rcases before.unmarked unmarked with old | counted
    · rw [old]
      exact within.entered boot.id
    · rw [counted, entered_entered]
      exact within.entered boot.id
  · rw [before.marked unmarked, BootState.entered, if_pos rfl]
    exact Nat.zero_le bound

end History

/-- Before a boot is marked good its reports do not depend on the saves, and over a
whole history no count exceeds the streak of failed boots before it. -/
theorem failed_saves_never_inflate_boot_count :
    (∀ bootId file calls, Unmarked calls → SavesAtMostLate bootId file calls) ∧
      ∀ (boots : List SavingBoot) (bootIndex callIndex : Nat) (boot : SavingBoot) (uptime : Int)
        (now : WallTime) (saved : Bool), boots[bootIndex]? = some boot →
        boot.calls[callIndex]? = some (.collect uptime now, saved) →
        ∃ reports status,
          (runSavingBoots .missing boots).2[bootIndex]? = some reports ∧
            reports[callIndex]? = some (some status) ∧
            status.bootFailCount.toNat ≤
              failedStreak ((boots.take bootIndex).map SavingBoot.boot) := by
  refine ⟨savesAtMostLate_of_unmarked, ?_⟩
  intro boots bootIndex callIndex boot uptime now saved found called
  let file := (runSavingBoots .missing (boots.take bootIndex)).1
  let before := (Machine.respond (savingCall boot.id) file (boot.calls.take callIndex)).1
  refine ⟨(runSavingBoot file boot).2, (BootProbe.collect before boot.id uptime now saved).1,
    ?_, ?_, ?_⟩
  · rw [runSavingBoots, Machine.respond_getElem?, found]
    rfl
  · rw [runSavingBoot, Machine.respond_getElem?, called]
    rfl
  · rw [(BootProbe.collect_reports boot.id before uptime now saved).1]
    exact runSavingBoot_reports file boot (runSavingBoots_countAtMost _) callIndex

theorem lost_save_delays_second_boot :
    SavesAtMostLate "b" .missing [(.collect 1 2, false), (.collect 5 6, true)] ∧
      ∃ reports status,
        (runSavingBoots .missing [⟨"a", [(.collect 1 1, false)]⟩,
          ⟨"b", [(.collect 1 2, false), (.collect 5 6, true)]⟩]).2[1]? = some reports ∧
          reports[1]? = some (some status) ∧ status.bootFailCount.toNat ≤ 1 := by
  obtain ⟨sameReports, bounded⟩ := failed_saves_never_inflate_boot_count
  refine ⟨sameReports _ _ _ (by simp [Unmarked]), ?_⟩
  exact bounded [⟨"a", [(.collect 1 1, false)]⟩,
    ⟨"b", [(.collect 1 2, false), (.collect 5 6, true)]⟩] 1 1 _ 5 6 true rfl rfl

end EdgeHealthd
