import EdgeHealthd.CrashClocks
import Mathlib.Algebra.Order.Group.Unbundled.Abs
import Mathlib.Algebra.Order.Ring.Int

/-!
Which panics belong to the current boot, over a run of scans within one boot. The
wall clock and the boot clock advance together; the start of the boot is computed
from whole seconds and so moves by up to a second with the phase of the reading.
-/

namespace EdgeHealthd

/-- One scan of a boot that began at `booted`: the boot clock is read up to `delay`
after the wall clock, and each file time is converted within `delay`. -/
structure ScanClocks.InBoot (booted : Int) (delay : Nat) (clocks : ScanClocks) : Prop where
  read : ∃ elapsed lag : Int, 0 ≤ elapsed ∧ 0 ≤ lag ∧ lag ≤ delay ∧
    clocks.now = booted + elapsed ∧ clocks.bootTime = some ((elapsed + lag) / 1000000000)
  converted : ∀ index, |clocks.offset index| ≤ delay

structure BootRun (booted : Int) (delay : Nat) (calls : List ScanClocks) : Prop where
  inBoot : ∀ clocks ∈ calls, clocks.InBoot booted delay
  inOrder : calls.Pairwise fun earlier later => earlier.now ≤ later.now

def SettledCurrent (booted : Int) (delay : Nat) (entry : PstoreEntry) : Prop :=
  ∀ mtime, entry.lastWriteTime = some mtime → booted + delay + 999999999 ≤ mtime

def SettledOld (booted : Int) (delay : Nat) (entry : PstoreEntry) : Prop :=
  ∃ mtime, entry.lastWriteTime = some mtime ∧ mtime < booted - 2 * delay

def ScanClocks.judgesCurrent (clocks : ScanClocks) (indexed : PstoreEntry × Nat) : Bool :=
  (clocks.artifactAt indexed).isCurrentBoot clocks.bootStart

theorem judgesCurrent_iff (clocks : ScanClocks) (indexed : PstoreEntry × Nat) :
    clocks.judgesCurrent indexed = true ↔
      ∀ mtime, indexed.1.lastWriteTime = some mtime →
        mtime + clocks.offset indexed.2 ≥ clocks.bootStart := by
  refine (TimedEntry.isCurrentBoot_iff clocks.bootStart _).trans ?_
  simp only [TimedEntry.mtime, Option.map_eq_some_iff]
  constructor
  · intro current mtime written
    exact current _ ⟨mtime, written, rfl⟩
  · rintro current _ ⟨mtime, written, rfl⟩
    exact current mtime written

theorem ScanClocks.InBoot.bootStart_range {booted : Int} {delay : Nat} {clocks : ScanClocks}
    (inBoot : clocks.InBoot booted delay) :
    booted - delay ≤ clocks.bootStart ∧ booted + 999999999 ≥ clocks.bootStart := by
  obtain ⟨elapsed, lag, _, early, late, now, bootTime⟩ := inBoot.read
  have start : booted + elapsed - (elapsed + lag) / 1000000000 * 1000000000 =
      clocks.bootStart := by
    rw [ScanClocks.bootStart, now, bootTime, Option.getD_some, seconds]
  rw [← start]
  omega

section Settled

variable {booted : Int} {delay : Nat} {clocks : ScanClocks}
  (inBoot : clocks.InBoot booted delay) (indexed : PstoreEntry × Nat)

include inBoot

theorem judgesCurrent_of_settledCurrent (settled : SettledCurrent booted delay indexed.1) :
    clocks.judgesCurrent indexed = true := by
  rw [judgesCurrent_iff]
  intro mtime written
  have late := settled mtime written
  have range := inBoot.bootStart_range
  have offset := abs_le.mp (inBoot.converted indexed.2)
  omega

theorem not_judgesCurrent_of_settledOld (settled : SettledOld booted delay indexed.1) :
    clocks.judgesCurrent indexed = false := by
  obtain ⟨mtime, written, early⟩ := settled
  have range := inBoot.bootStart_range
  have offset := abs_le.mp (inBoot.converted indexed.2)
  rw [← Bool.not_eq_true, judgesCurrent_iff]
  intro current
  have judged := current mtime written
  omega

end Settled

section Extremes

variable (booted : Int) (delay : Nat)

def latestStart : ScanClocks where
  now := booted + 999999999
  bootTime := some 0
  offset _ := -delay

def earliestStart : ScanClocks where
  now := booted + ((delay + 1) * 1000000000 - delay)
  bootTime := some (delay + 1)
  offset _ := delay

theorem latestStart_inBoot : (latestStart booted delay).InBoot booted delay where
  read := ⟨999999999, 0, by omega, by omega, by omega, rfl, rfl⟩
  converted _ := by
    show |(-delay : Int)| ≤ delay
    rw [abs_neg, Nat.abs_cast]

theorem earliestStart_inBoot : (earliestStart booted delay).InBoot booted delay where
  read := by
    refine ⟨(delay + 1) * 1000000000 - delay, delay, by omega, by omega, by omega, rfl, ?_⟩
    show some ((delay : Int) + 1) = _
    congr 1
    omega
  converted _ := (Nat.abs_cast delay).le

theorem extremes_bootRun :
    BootRun booted delay [latestStart booted delay, earliestStart booted delay] where
  inBoot := by
    intro clocks member
    rcases List.mem_pair.mp member with rfl | rfl
    · exact latestStart_inBoot booted delay
    · exact earliestStart_inBoot booted delay
  inOrder := by
    rw [List.pairwise_pair]
    show booted + 999999999 ≤ booted + ((delay + 1) * 1000000000 - delay)
    omega

theorem latestStart_judges_iff (indexed : PstoreEntry × Nat) :
    (latestStart booted delay).judgesCurrent indexed = true ↔
      SettledCurrent booted delay indexed.1 := by
  rw [judgesCurrent_iff]
  refine forall₂_congr fun mtime _ => ?_
  show mtime + -(delay : Int) ≥ booted + 999999999 - seconds 0 ↔ _
  unfold seconds
  omega

theorem earliestStart_judges_iff (indexed : PstoreEntry × Nat) :
    (earliestStart booted delay).judgesCurrent indexed = false ↔
      SettledOld booted delay indexed.1 := by
  rw [← Bool.not_eq_true, judgesCurrent_iff, SettledOld]
  simp only [not_forall, exists_prop]
  refine exists_congr fun mtime => and_congr_right fun _ => ?_
  show ¬(mtime + (delay : Int) ≥
    booted + ((delay + 1) * 1000000000 - delay) - seconds (delay + 1)) ↔ _
  unfold seconds
  omega

end Extremes

/-- An observation of the scans is the same throughout every run of the boot. -/
def ConstantInBoot (booted : Int) (delay : Nat) (observe : ScanClocks → Bool) : Prop :=
  ∀ calls, BootRun booted delay calls →
    (∀ clocks ∈ calls, observe clocks = true) ∨ (∀ clocks ∈ calls, observe clocks = false)

theorem constantInBoot_iff {booted : Int} {delay : Nat} {observe : ScanClocks → Bool}
    (always : observe (latestStart booted delay) = true →
      ∀ clocks : ScanClocks, clocks.InBoot booted delay → observe clocks = true)
    (never : observe (earliestStart booted delay) = false →
      ∀ clocks : ScanClocks, clocks.InBoot booted delay → observe clocks = false) :
    ConstantInBoot booted delay observe ↔
      observe (latestStart booted delay) = true ∨
        observe (earliestStart booted delay) = false := by
  constructor
  · intro constant
    rcases constant _ (extremes_bootRun booted delay) with allTrue | allFalse
    · exact Or.inl (allTrue _ List.mem_cons_self)
    · exact Or.inr (allFalse _ (List.mem_cons_of_mem _ List.mem_cons_self))
  · rintro (first | second) calls run
    · exact Or.inl fun clocks member => always first clocks (run.inBoot clocks member)
    · exact Or.inr fun clocks member => never second clocks (run.inBoot clocks member)

theorem status_panicCurrentBoot (listing : PstoreListing) (clocks : ScanClocks)
    (file : StateFile) :
    (CrashProbe.status listing clocks file).panicCurrentBoot =
      (sortedPanics listing.entries).any clocks.judgesCurrent := by
  show (CrashProbe.scan clocks listing.pstore).panicCurrentBoot = _
  rw [PstoreListing.pstore, scan_eq, statusOf, panicArtifacts_eq, List.any_map]
  rfl

theorem exists_sortedPanics_iff {entries : List PstoreEntry} (property : PstoreEntry → Prop) :
    (∃ indexed ∈ sortedPanics entries, property indexed.1) ↔
      ∃ entry ∈ reachedEntries entries, entry.isPanicFile = true ∧ property entry := by
  constructor
  · rintro ⟨indexed, member, holds⟩
    obtain ⟨reached, panic⟩ := mem_sortedPanics.mp member
    exact ⟨indexed.1, List.fst_mem_of_mem_zipIdx reached, panic, holds⟩
  · rintro ⟨entry, reached, panic, holds⟩
    obtain ⟨index, listed⟩ := List.mem_iff_getElem?.mp reached
    exact ⟨(entry, index),
      mem_sortedPanics.mpr ⟨List.mk_mem_zipIdx_iff_getElem?.mpr listed, panic⟩, holds⟩

theorem forall_sortedPanics_iff {entries : List PstoreEntry} (property : PstoreEntry → Prop) :
    (∀ indexed ∈ sortedPanics entries, property indexed.1) ↔
      ∀ entry ∈ reachedEntries entries, entry.isPanicFile = true → property entry := by
  have opposite := not_congr (@exists_sortedPanics_iff entries fun entry => ¬property entry)
  simpa only [not_exists, not_and, not_not] using opposite

/-- An artifact keeps its class exactly when its time is clear of the start of the boot;
a directory keeps its flag exactly when one panic file is clearly current or all are
clearly old. -/
theorem current_boot_constant_iff (booted : Int) (delay : Nat) :
    (∀ indexed, ConstantInBoot booted delay (fun clocks => clocks.judgesCurrent indexed) ↔
      SettledCurrent booted delay indexed.1 ∨ SettledOld booted delay indexed.1) ∧
    (∀ listing file,
      ConstantInBoot booted delay (fun clocks =>
        (CrashProbe.status listing clocks file).panicCurrentBoot) ↔
      (∃ entry ∈ reachedEntries listing.entries, entry.isPanicFile = true ∧
        SettledCurrent booted delay entry) ∨
      (∀ entry ∈ reachedEntries listing.entries, entry.isPanicFile = true →
        SettledOld booted delay entry)) := by
  constructor
  · intro indexed
    rw [constantInBoot_iff, latestStart_judges_iff, earliestStart_judges_iff]
    · intro first clocks inBoot
      rw [latestStart_judges_iff] at first
      exact judgesCurrent_of_settledCurrent inBoot indexed first
    · intro second clocks inBoot
      rw [earliestStart_judges_iff] at second
      exact not_judgesCurrent_of_settledOld inBoot indexed second
  · intro listing file
    have latest : (CrashProbe.status listing (latestStart booted delay) file).panicCurrentBoot =
        true ↔ ∃ indexed ∈ sortedPanics listing.entries,
          SettledCurrent booted delay indexed.1 := by
      rw [status_panicCurrentBoot, List.any_eq_true]
      simp only [latestStart_judges_iff]
    have earliest : (CrashProbe.status listing (earliestStart booted delay)
        file).panicCurrentBoot = false ↔ ∀ indexed ∈ sortedPanics listing.entries,
          SettledOld booted delay indexed.1 := by
      rw [status_panicCurrentBoot, List.any_eq_false]
      simp only [Bool.not_eq_true, earliestStart_judges_iff]
    rw [constantInBoot_iff, latest, earliest, exists_sortedPanics_iff, forall_sortedPanics_iff]
    · intro first clocks inBoot
      obtain ⟨indexed, member, settled⟩ := latest.mp first
      rw [status_panicCurrentBoot, List.any_eq_true]
      exact ⟨indexed, member, judgesCurrent_of_settledCurrent inBoot indexed settled⟩
    · intro second clocks inBoot
      rw [status_panicCurrentBoot, List.any_eq_false]
      intro indexed member
      rw [Bool.not_eq_true]
      exact not_judgesCurrent_of_settledOld inBoot indexed (earliest.mp second indexed member)

def scanAt (elapsed : Int) : ScanClocks :=
  { now := elapsed, bootTime := some (elapsed / 1000000000) }

theorem scanAt_inBoot {elapsed : Int} (started : 0 ≤ elapsed) :
    (scanAt elapsed).InBoot 0 0 where
  read := ⟨elapsed, 0, started, Int.le_refl 0, Int.le_refl 0, (Int.zero_add elapsed).symm,
    by rw [Int.add_zero]; rfl⟩
  converted _ := abs_zero.le

theorem current_boot_flips :
    BootRun 0 0 [scanAt 10000000000, scanAt 40700000000, scanAt 70200000000] ∧
      [scanAt 10000000000, scanAt 40700000000, scanAt 70200000000].map (fun clocks =>
        evaluateCrash (CrashProbe.status (datedPanic 500000000) clocks .missing)) =
          [.crit, .warn, .crit] ∧
      ¬ConstantInBoot 0 0 fun clocks =>
        (CrashProbe.status (datedPanic 500000000) clocks .missing).panicCurrentBoot := by
  have run : BootRun 0 0 [scanAt 10000000000, scanAt 40700000000, scanAt 70200000000] := by
    refine ⟨?_, by decide⟩
    intro clocks member
    simp only [List.mem_cons, List.not_mem_nil, or_false] at member
    rcases member with rfl | rfl | rfl
    · exact scanAt_inBoot (by decide)
    · exact scanAt_inBoot (by decide)
    · exact scanAt_inBoot (by decide)
  refine ⟨run, by decide, ?_⟩
  intro constant
  rcases constant _ run with allTrue | allFalse
  · exact absurd (allTrue (scanAt 40700000000) (by simp)) (by decide)
  · exact absurd (allFalse (scanAt 10000000000) (by simp)) (by decide)

end EdgeHealthd
