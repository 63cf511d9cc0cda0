import EdgeHealthd.BootProbeCore
import EdgeHealthd.Library.Machine
import Mathlib.Algebra.Group.Nat.Defs

/-!
What the persisted boot counter means over a history of boots: the number of
boots in a row, up to the last one, that were collected and never marked good.
-/

namespace EdgeHealthd

inductive BootCall where
  | collect (uptime : Int) (now : WallTime)
  | markBootSuccess
  deriving DecidableEq

structure Boot where
  id : String
  calls : List BootCall

def bootCall (bootId : String) (file : StateFile) :
    BootCall → StateFile × Option BootStatus
  | .collect uptime now =>
      ((BootProbe.collect file bootId uptime now true).2,
        some (BootProbe.collect file bootId uptime now true).1)
  | .markBootSuccess => (BootProbe.markBootSuccess file bootId true, none)

def runBoot (file : StateFile) (boot : Boot) : StateFile × List (Option BootStatus) :=
  Machine.respond (bootCall boot.id) file boot.calls

def runBoots (file : StateFile) (boots : List Boot) :
    StateFile × List (List (Option BootStatus)) :=
  Machine.respond runBoot file boots

def Boot.marked (boot : Boot) : Bool := boot.calls.contains .markBootSuccess

def Boot.failed (boot : Boot) : Bool :=
  boot.calls.any (fun call => call != .markBootSuccess) && !boot.marked

def Boot.silent (boot : Boot) : Bool := boot.calls.isEmpty

/-- The boots in a row, counted back from the latest one with a call, that failed. -/
def failedStreak (boots : List Boot) : Nat :=
  ((boots.filter fun boot => !boot.silent).reverse.takeWhile Boot.failed).length

theorem failedStreak_le (boots : List Boot) : failedStreak boots ≤ boots.length := by
  have taken := ((boots.filter fun boot => !boot.silent).reverse.takeWhile_sublist
    Boot.failed).length_le
  have kept := List.length_filter_le (fun boot : Boot => !boot.silent) boots
  rw [List.length_reverse] at taken
  unfold failedStreak
  omega

theorem Boot.failed_iff (boot : Boot) (spoke : boot.silent = false) :
    boot.failed = true ↔ boot.marked = false := by
  unfold Boot.failed
  constructor
  · intro failed
    simpa using (Bool.and_eq_true_iff.mp failed).2
  · intro unmarked
    rw [unmarked, Bool.not_false, Bool.and_true, List.any_eq_true]
    cases calls : boot.calls with
    | nil => simp [Boot.silent, calls] at spoke
    | cons call rest =>
        refine ⟨call, by simp, ?_⟩
        simp only [Boot.marked, calls, List.contains_cons, Bool.or_eq_false_iff] at unmarked
        cases call with
        | collect _ _ => rfl
        | markBootSuccess => simp at unmarked

theorem failedStreak_snoc (past : List Boot) (boot : Boot) :
    failedStreak (past ++ [boot]) =
      if boot.silent then failedStreak past
      else if boot.marked then 0 else failedStreak past + 1 := by
  unfold failedStreak
  rw [List.filter_append, List.reverse_append]
  cases spoke : boot.silent with
  | true => simp [spoke]
  | false =>
      have failed := boot.failed_iff spoke
      cases marked : boot.marked with
      | true =>
          have passed : boot.failed = false := by
            rw [marked] at failed
            simpa using failed
          simp [spoke, passed]
      | false =>
          have broken : boot.failed = true := failed.mpr marked
          simp [spoke, broken]

theorem loadBootState_toJson (state : BootState) :
    loadBootState (.json state.toJson) = state := by
  simp [loadBootState, BootState.toJson, Json.field, find?_object_cons, getString_string,
    getUint32_toNat, getBool_boolean]

theorem loadBootState_bootCall (bootId : String) (file : StateFile) (call : BootCall) :
    loadBootState (bootCall bootId file call).1 =
      match call with
      | .collect _ _ =>
          if (loadBootState file).lastBootId = bootId then loadBootState file
          else (loadBootState file).enterBoot bootId
      | .markBootSuccess =>
          { lastBootId := bootId, consecutiveFailures := 0, lastBootOk := true } := by
  cases call with
  | collect uptime now =>
      simp only [bootCall, BootProbe.collect, saveBootState, if_true]
      by_cases same : (loadBootState file).lastBootId = bootId
      · simp [same]
      · simp [same, loadBootState_toJson]
  | markBootSuccess => exact loadBootState_toJson _

structure InBoot (bootId : String) (found current : BootState) (calls : List BootCall) : Prop where
  untouched : calls = [] → current = found
  entered : calls ≠ [] → current.lastBootId = bootId
  marked : .markBootSuccess ∈ calls → current.consecutiveFailures = 0 ∧ current.lastBootOk = true
  unmarked : calls ≠ [] → .markBootSuccess ∉ calls → current = found.enterBoot bootId

theorem runBoot_inBoot (bootId : String) (file : StateFile) (calls : List BootCall)
    (fresh : (loadBootState file).lastBootId ≠ bootId) :
    InBoot bootId (loadBootState file)
      (loadBootState (Machine.respond (bootCall bootId) file calls).1) calls := by
  induction calls using List.reverseRecOn with
  | nil =>
      refine ⟨fun _ => rfl, ?_, ?_, ?_⟩ <;> simp
  | append_singleton past call ih =>
      rw [Machine.respond_snoc]
      dsimp only
      rw [loadBootState_bootCall]
      cases call with
      | markBootSuccess => refine ⟨by simp, by simp, by simp, by simp⟩
      | collect uptime now =>
          simp only
          split
          · rename_i same
            have started : past ≠ [] := by
              intro empty
              rw [ih.untouched empty] at same
              exact fresh same
            refine ⟨by simp, fun _ => ih.entered started, ?_, ?_⟩
            · intro marked
              apply ih.marked
              simpa using marked
            · intro _ unmarked
              apply ih.unmarked started
              simpa using unmarked
          · rename_i different
            have first : past = [] := by
              by_contra started
              exact different (ih.entered started)
            subst past
            refine ⟨by simp, fun _ => rfl, by simp, fun _ _ => rfl⟩

structure BetweenBoots (past : List Boot) (state : BootState) : Prop where
  seen : state.lastBootId = "" ∨ ∃ boot ∈ past, state.lastBootId = boot.id
  count : ∀ bootId, (state.enterBoot bootId).consecutiveFailures.toNat = failedStreak past

structure BootHistory (boots : List Boot) : Prop where
  distinct : (boots.map Boot.id).Nodup
  named : ∀ boot ∈ boots, boot.id ≠ ""
  bounded : boots.length < 2 ^ 32

theorem BootHistory.initial {past : List Boot} {boot : Boot}
    (history : BootHistory (past ++ [boot])) : BootHistory past := by
  refine ⟨?_, ?_, ?_⟩
  · have distinct := history.distinct
    rw [List.map_append, List.nodup_append] at distinct
    exact distinct.1
  · intro earlier member
    exact history.named earlier (List.mem_append_left _ member)
  · have bounded := history.bounded
    rw [List.length_append] at bounded
    omega

theorem BetweenBoots.fresh {past : List Boot} {boot : Boot} {state : BootState}
    (between : BetweenBoots past state) (history : BootHistory (past ++ [boot])) :
    state.lastBootId ≠ boot.id := by
  intro same
  rcases between.seen with blank | ⟨earlier, member, equal⟩
  · exact history.named boot (by simp) (same.symm.trans blank)
  · have distinct := history.distinct
    rw [List.map_append, List.nodup_append] at distinct
    exact distinct.2.2 earlier.id (List.mem_map_of_mem member) boot.id (by simp)
      (equal.symm.trans same)

theorem BetweenBoots.boot {past : List Boot} {boot : Boot} {file : StateFile}
    (between : BetweenBoots past (loadBootState file)) (history : BootHistory (past ++ [boot])) :
    BetweenBoots (past ++ [boot]) (loadBootState (runBoot file boot).1) := by
  have inside := runBoot_inBoot boot.id file boot.calls (between.fresh history)
  rw [← runBoot] at inside
  by_cases silent : boot.calls = []
  · rw [inside.untouched silent]
    have quiet : boot.silent = true := by simp [Boot.silent, silent]
    constructor
    · rcases between.seen with blank | ⟨earlier, member, equal⟩
      · exact Or.inl blank
      · exact Or.inr ⟨earlier, List.mem_append_left _ member, equal⟩
    · intro bootId
      rw [failedStreak_snoc, if_pos quiet]
      exact between.count bootId
  · have spoke : ¬boot.silent = true := by simpa [Boot.silent] using silent
    refine ⟨Or.inr ⟨boot, by simp, inside.entered silent⟩, ?_⟩
    intro bootId
    rw [failedStreak_snoc, if_neg spoke]
    by_cases marked : .markBootSuccess ∈ boot.calls
    · obtain ⟨zero, good⟩ := inside.marked marked
      have isMarked : boot.marked = true := by simpa [Boot.marked] using marked
      simp [BootState.enterBoot, zero, good, isMarked]
    · have isUnmarked : ¬boot.marked = true := by simpa [Boot.marked] using marked
      rw [inside.unmarked silent marked, if_neg isUnmarked]
      have named := history.named boot (by simp)
      have streak := between.count boot.id
      have room : failedStreak past + 1 < 2 ^ 32 := by
        have long := failedStreak_le past
        have bounded := history.bounded
        rw [List.length_append, List.length_singleton] at bounded
        omega
      have next : (((loadBootState file).enterBoot boot.id).enterBoot bootId).consecutiveFailures =
          ((loadBootState file).enterBoot boot.id).consecutiveFailures + 1 := by
        simp [BootState.enterBoot, named]
      rw [next, UInt32.toNat_add, streak]
      exact Nat.mod_eq_of_lt room

theorem runBoots_between (boots : List Boot) (history : BootHistory boots) :
    BetweenBoots boots (loadBootState (runBoots .missing boots).1) := by
  induction boots using List.reverseRecOn with
  | nil => exact ⟨Or.inl rfl, fun _ => rfl⟩
  | append_singleton past boot ih =>
      rw [runBoots, Machine.respond_snoc]
      exact (ih history.initial).boot history

theorem BootProbe.collect_count (file : StateFile) (bootId : String) (uptime : Int)
    (now : WallTime) :
    (BootProbe.collect file bootId uptime now true).1.bootFailCount =
      (loadBootState (bootCall bootId file (.collect uptime now)).1).consecutiveFailures := by
  rw [loadBootState_bootCall]
  unfold BootProbe.collect
  by_cases same : (loadBootState file).lastBootId = bootId
  · simp [same]
  · simp [same]

theorem BootHistory.take {boots : List Boot} (history : BootHistory boots) {index : Nat}
    {boot : Boot} (found : boots[index]? = some boot) :
    BootHistory (boots.take index ++ [boot]) := by
  have shorter : boots.take index ++ [boot] = boots.take (index + 1) := by
    rw [List.take_add_one, found]
    rfl
  rw [shorter]
  refine ⟨?_, ?_, ?_⟩
  · rw [List.map_take]
    exact history.distinct.sublist (List.take_sublist _ _)
  · intro earlier member
    exact history.named earlier (List.mem_of_mem_take member)
  · have bounded := history.bounded
    have cut := List.length_take_le' (index + 1) boots
    omega

/-- Before a boot is marked good, every collect in it reports the streak of
failed boots before it, however often the daemon restarts; afterwards, zero. -/
theorem boot_fail_count_is_failed_streak (boots : List Boot) (history : BootHistory boots)
    (bootIndex callIndex : Nat) (boot : Boot) (uptime : Int) (now : WallTime)
    (found : boots[bootIndex]? = some boot)
    (called : boot.calls[callIndex]? = some (.collect uptime now)) :
    ∃ reports status,
      (runBoots .missing boots).2[bootIndex]? = some reports ∧
        reports[callIndex]? = some (some status) ∧
        (.markBootSuccess ∉ boot.calls.take callIndex →
          status.bootFailCount.toNat = failedStreak (boots.take bootIndex)) ∧
        (.markBootSuccess ∈ boot.calls.take callIndex → status.bootFailCount = 0) ∧
        (status.bootOk = true ↔ status.bootFailCount = 0) := by
  let file := (runBoots .missing (boots.take bootIndex)).1
  let before := (Machine.respond (bootCall boot.id) file (boot.calls.take callIndex)).1
  have between := runBoots_between _ (history.take found).initial
  have inside := runBoot_inBoot boot.id file
    (boot.calls.take callIndex ++ [.collect uptime now])
    (between.fresh (history.take found))
  have count : (BootProbe.collect before boot.id uptime now true).1.bootFailCount =
      (loadBootState (Machine.respond (bootCall boot.id) file
        (boot.calls.take callIndex ++ [.collect uptime now])).1).consecutiveFailures := by
    rw [BootProbe.collect_count, Machine.respond_snoc]
  refine ⟨(runBoot file boot).2, (BootProbe.collect before boot.id uptime now true).1,
    ?_, ?_, ?_, ?_, ?_⟩
  · rw [runBoots, Machine.respond_getElem?, found]
    rfl
  · rw [runBoot, Machine.respond_getElem?, called]
    rfl
  · intro unmarked
    have entered := inside.unmarked (by simp) (by simpa using unmarked)
    rw [count, entered]
    exact between.count boot.id
  · intro marked
    rw [count]
    exact (inside.marked (List.mem_append_left _ marked)).1
  · simp [BootProbe.collect]

theorem third_boot_counts_two :
    ∃ reports status,
      (runBoots .missing [⟨"a", [.collect 1 1]⟩, ⟨"b", [.collect 1 2, .collect 5 6]⟩,
        ⟨"c", [.collect 1 9]⟩]).2[2]? = some reports ∧
        reports[0]? = some (some status) ∧ status.bootFailCount.toNat = 2 := by
  obtain ⟨reports, status, present, reported, streak, _⟩ := boot_fail_count_is_failed_streak
    [⟨"a", [.collect 1 1]⟩, ⟨"b", [.collect 1 2, .collect 5 6]⟩, ⟨"c", [.collect 1 9]⟩]
    ⟨by decide, by decide, by decide⟩ 2 0 ⟨"c", [.collect 1 9]⟩ 1 9 rfl rfl
  exact ⟨reports, status, present, reported, streak (by decide)⟩

end EdgeHealthd
