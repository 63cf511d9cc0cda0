import EdgeHealthd.Aggregator
import EdgeHealthd.CrashProbeCore
import EdgeHealthd.Library.Decimal
import Mathlib.Data.List.TakeWhile

/-!
What `CrashProbe::collect` makes of a pstore directory. The loop reads the entries
up to the first one whose type query fails; the status is a function of the files
it reached, and everything about panics is a function of the panic files alone.
-/

namespace EdgeHealthd

/-- A directory lists each name once. -/
structure PstoreListing where
  entries : List PstoreEntry
  distinct : (entries.map PstoreEntry.name).Nodup

def PstoreListing.pstore (listing : PstoreListing) : Pstore := { listing := some listing.entries }

def PstoreEntry.isAnswered (entry : PstoreEntry) : Bool := entry.isRegularFile.isSome

def PstoreEntry.isFile (entry : PstoreEntry) : Bool := entry.isRegularFile == some true

def PstoreEntry.isPanicFile (entry : PstoreEntry) : Bool :=
  entry.isFile && isPanicArtifactName entry.name

/-- An entry with the clock difference by which its time is converted. -/
abbrev TimedEntry := PstoreEntry × Int

def TimedEntry.mtime (timed : TimedEntry) : Option WallTime :=
  timed.1.lastWriteTime.map (· + timed.2)

def TimedEntry.artifact (timed : TimedEntry) : CrashArtifact where
  name := timed.1.name
  sizeBytes := timed.1.fileSize.getD 0
  mtime := timed.mtime
  kind := if isPanicArtifactName timed.1.name then "panic" else "informational"

def ScanClocks.timed (clocks : ScanClocks) (entries : List PstoreEntry) : List TimedEntry :=
  entries.zipIdx.map fun indexed => (indexed.1, clocks.offset indexed.2)

def reachedEntries (entries : List PstoreEntry) : List PstoreEntry :=
  entries.takeWhile PstoreEntry.isAnswered

theorem scanEntries_eq (clocks : ScanClocks) (entries : List PstoreEntry) :
    scanEntries clocks 0 entries =
      ((clocks.timed (reachedEntries entries)).filter fun timed => timed.1.isFile).map
        TimedEntry.artifact := by
  have general : ∀ index, scanEntries clocks index entries =
      ((((reachedEntries entries).zipIdx index).map fun indexed =>
        (indexed.1, clocks.offset indexed.2)).filter fun timed => timed.1.isFile).map
          TimedEntry.artifact := by
    induction entries with
    | nil => exact fun _ => rfl
    | cons entry rest ih =>
        intro index
        rw [scanEntries, reachedEntries, List.takeWhile_cons]
        cases answer : entry.isRegularFile with
        | none => simp [PstoreEntry.isAnswered, answer]
        | some regular =>
            have answered : entry.isAnswered = true := by simp [PstoreEntry.isAnswered, answer]
            rw [if_pos answered, List.zipIdx_cons, List.map_cons, List.filter_cons]
            cases regular with
            | false =>
                have other : entry.isFile = false := by simp [PstoreEntry.isFile, answer]
                simp only [other, Bool.false_eq_true, ↓reduceIte]
                exact ih (index + 1)
            | true =>
                have file : entry.isFile = true := by simp [PstoreEntry.isFile, answer]
                simp only [file, ↓reduceIte, List.map_cons]
                exact congrArg _ (ih (index + 1))
  exact general 0

theorem reachedEntries_of_answered {entries : List PstoreEntry}
    (answered : ∀ entry ∈ entries, entry.isAnswered = true) : reachedEntries entries = entries :=
  List.takeWhile_eq_self_iff.mpr answered

section Status

variable (clocks : ScanClocks) (entries : List PstoreEntry)

def scannedArtifacts : List CrashArtifact :=
  (scanEntries clocks 0 entries).insertionSort fun left right => left.name ≤ right.name

def panicArtifacts : List CrashArtifact :=
  (scannedArtifacts clocks entries).filter fun artifact => artifact.kind == "panic"

def CrashArtifact.isCurrentBoot (bootStart : WallTime) (artifact : CrashArtifact) : Bool :=
  match artifact.mtime with
  | none => true
  | some mtime => mtime ≥ bootStart

def statusOf (bootStart : WallTime) (artifacts panics : List CrashArtifact) : CrashStatus where
  artifactCount := UInt32.ofNat artifacts.length
  artifacts
  present := !artifacts.isEmpty
  panicCount := UInt32.ofNat panics.length
  source := if panics.isEmpty then none else some "pstore"
  lastPanicAt := (latestArtifact panics).bind CrashArtifact.mtime
  panicCurrentBoot := panics.any (CrashArtifact.isCurrentBoot bootStart)
  fingerprint := if panics.isEmpty then none else some (computeFingerprint panics)

theorem scan_eq :
    CrashProbe.scan clocks { listing := some entries } =
      statusOf clocks.bootStart (scannedArtifacts clocks entries)
        (panicArtifacts clocks entries) := by
  unfold CrashProbe.scan
  simp only [Option.getD_some, ← scannedArtifacts.eq_1, ← panicArtifacts.eq_1]
  cases panicArtifacts clocks entries with
  | nil => rfl
  | cons artifact rest => rfl

def panicEntries (clocks : ScanClocks) (entries : List PstoreEntry) : List TimedEntry :=
  (clocks.timed entries).filter fun timed => timed.1.isPanicFile

theorem artifact_kind_iff (timed : TimedEntry) :
    (timed.artifact.kind == "panic") = isPanicArtifactName timed.1.name := by
  cases named : isPanicArtifactName timed.1.name with
  | false => simp [TimedEntry.artifact, named]
  | true => simp [TimedEntry.artifact, named]

theorem panicArtifacts_perm :
    (panicArtifacts clocks entries).Perm
      ((panicEntries clocks (reachedEntries entries)).map TimedEntry.artifact) := by
  refine ((List.perm_insertionSort _ _).filter _).trans (.of_eq ?_)
  rw [scanEntries_eq, List.filter_map, List.filter_filter, panicEntries]
  congr 1
  refine List.filter_congr fun timed _ => ?_
  rw [PstoreEntry.isPanicFile, Bool.and_comm]
  exact congrArg (timed.1.isFile && ·) (artifact_kind_iff timed)

theorem scannedArtifacts_length :
    (scannedArtifacts clocks entries).length =
      (reachedEntries entries).countP PstoreEntry.isFile := by
  rw [scannedArtifacts, List.length_insertionSort, scanEntries_eq, List.length_map,
    ← List.countP_eq_length_filter, ScanClocks.timed, List.countP_map]
  have entry : (fun timed : TimedEntry => timed.1.isFile) ∘
      (fun indexed : PstoreEntry × Nat => (indexed.1, clocks.offset indexed.2)) =
        PstoreEntry.isFile ∘ Prod.fst := rfl
  rw [entry, ← List.countP_map, List.zipIdx_map_fst]

theorem panicArtifacts_length_le :
    (panicArtifacts clocks entries).length ≤ (scannedArtifacts clocks entries).length :=
  List.length_filter_le ..

end Status

/-- The counts of the status are those of its lists, and nothing is said about a
panic without one. -/
structure CrashStatus.Consistent (status : CrashStatus) : Prop where
  panics_le : status.panicCount ≤ status.artifactCount
  counted : status.artifactCount.toNat = status.artifacts.length
  present_iff : status.present = true ↔ 0 < status.artifactCount
  fingerprint_iff : status.fingerprint.isSome = true ↔ 0 < status.panicCount
  acknowledged : status.acknowledged = true → 0 < status.panicCount
  currentBoot : status.panicCurrentBoot = true → 0 < status.panicCount

theorem ofNat_pos_iff {count : Nat} (few : count < 2 ^ 32) : 0 < UInt32.ofNat count ↔ 0 < count := by
  rw [UInt32.lt_iff_toNat_lt, UInt32.toNat_ofNat_of_lt' few]
  rfl

theorem compareAcknowledged_consistent {bootStart : WallTime} {artifacts panics : List CrashArtifact}
    (file : StateFile) (few : artifacts.length < 2 ^ 32) (fewer : panics.length ≤ artifacts.length) :
    ((statusOf bootStart artifacts panics).compareAcknowledged file).Consistent := by
  have counted : (UInt32.ofNat artifacts.length).toNat = artifacts.length :=
    UInt32.toNat_ofNat_of_lt' few
  have panicCounted : (UInt32.ofNat panics.length).toNat = panics.length :=
    UInt32.toNat_ofNat_of_lt' (Nat.lt_of_le_of_lt fewer few)
  have positive := ofNat_pos_iff (Nat.lt_of_le_of_lt fewer few)
  have fingerprinted : (statusOf bootStart artifacts panics).fingerprint.isSome = true ↔
      0 < UInt32.ofNat panics.length := by
    rw [positive]
    cases panics <;> simp [statusOf]
  constructor
  · show UInt32.ofNat panics.length ≤ UInt32.ofNat artifacts.length
    rw [UInt32.le_iff_toNat_le, counted, panicCounted]
    exact fewer
  · exact counted
  · show (!artifacts.isEmpty) = true ↔ 0 < UInt32.ofNat artifacts.length
    rw [ofNat_pos_iff few]
    cases artifacts <;> simp
  · exact fingerprinted
  · intro acknowledged
    obtain ⟨fingerprint, _, computed⟩ := (compareAcknowledged_iff _ _).mp acknowledged
    exact fingerprinted.mp (by rw [computed, Option.isSome_some])
  · intro current
    obtain ⟨artifact, member, _⟩ := List.any_eq_true.mp current
    exact positive.mpr (List.length_pos_of_mem member)

section Severity

variable {bootStart : WallTime} {artifacts panics : List CrashArtifact} (file : StateFile)

omit file in
theorem statusOf_fingerprint (found : panics ≠ []) :
    (statusOf bootStart artifacts panics).fingerprint = some (computeFingerprint panics) :=
  if_neg (by simpa using found)

omit file in
theorem missing_unacknowledged (found : panics ≠ []) :
    acknowledgedFingerprint .missing ≠ (statusOf bootStart artifacts panics).fingerprint := by
  rw [statusOf_fingerprint found]
  exact fun same => Option.some_ne_none _ same.symm

theorem acknowledged_iff (found : panics ≠ []) :
    ((statusOf bootStart artifacts panics).compareAcknowledged file).acknowledged = true ↔
      acknowledgedFingerprint file = (statusOf bootStart artifacts panics).fingerprint := by
  rw [compareAcknowledged_iff, statusOf_fingerprint found]
  simp

theorem evaluateCrash_eq (few : panics.length < 2 ^ 32) :
    evaluateCrash ((statusOf bootStart artifacts panics).compareAcknowledged file) =
      if panics = [] ∨
          acknowledgedFingerprint file = (statusOf bootStart artifacts panics).fingerprint then .ok
      else if panics.any (CrashArtifact.isCurrentBoot bootStart) = true then .crit
      else .warn := by
  unfold evaluateCrash
  by_cases none : panics = []
  · rw [if_pos (Or.inl none), none]
    rfl
  · have counted : (UInt32.ofNat panics.length == 0) = false := by
      rw [beq_eq_false_iff_ne]
      exact UInt32.pos_iff_ne_zero.mp ((ofNat_pos_iff few).mpr (List.length_pos_iff.mpr none))
    show (if UInt32.ofNat panics.length == 0 then _ else _) = _
    rw [counted]
    have acknowledged := @acknowledged_iff bootStart artifacts panics file none
    simp only [none, false_or, Bool.false_eq_true, ↓reduceIte, acknowledged]
    rfl

theorem evaluateCrash_wrapped (wraps : UInt32.ofNat panics.length = 0) :
    evaluateCrash ((statusOf bootStart artifacts panics).compareAcknowledged file) = .ok :=
  if_pos (beq_iff_eq.mpr wraps)

theorem evaluateCrash_crit_iff (few : panics.length < 2 ^ 32) :
    evaluateCrash ((statusOf bootStart artifacts panics).compareAcknowledged file) = .crit ↔
      panics.any (CrashArtifact.isCurrentBoot bootStart) = true ∧
        acknowledgedFingerprint file ≠ (statusOf bootStart artifacts panics).fingerprint := by
  rw [evaluateCrash_eq file few]
  by_cases calm : panics = [] ∨
      acknowledgedFingerprint file = (statusOf bootStart artifacts panics).fingerprint
  · rw [if_pos calm]
    refine iff_of_false (by decide) ?_
    rintro ⟨current, unacknowledged⟩
    rcases calm with none | acknowledged
    · rw [none] at current
      cases current
    · exact unacknowledged acknowledged
  · rw [if_neg calm]
    by_cases current : panics.any (CrashArtifact.isCurrentBoot bootStart) = true
    · rw [if_pos current]
      exact iff_of_true rfl ⟨current, fun acknowledged => calm (Or.inr acknowledged)⟩
    · rw [if_neg current]
      exact iff_of_false (by decide) fun both => current both.1

theorem evaluateCrash_warn_iff (few : panics.length < 2 ^ 32) :
    evaluateCrash ((statusOf bootStart artifacts panics).compareAcknowledged file) = .warn ↔
      panics ≠ [] ∧ ¬panics.any (CrashArtifact.isCurrentBoot bootStart) = true ∧
        acknowledgedFingerprint file ≠ (statusOf bootStart artifacts panics).fingerprint := by
  rw [evaluateCrash_eq file few]
  by_cases calm : panics = [] ∨
      acknowledgedFingerprint file = (statusOf bootStart artifacts panics).fingerprint
  · rw [if_pos calm]
    refine iff_of_false (by decide) ?_
    rintro ⟨found, _, unacknowledged⟩
    exact calm.elim found unacknowledged
  · rw [if_neg calm]
    rw [not_or] at calm
    by_cases current : panics.any (CrashArtifact.isCurrentBoot bootStart) = true
    · rw [if_pos current]
      exact iff_of_false (by decide) fun both => both.2.1 current
    · rw [if_neg current]
      exact iff_of_true rfl ⟨calm.1, current, calm.2⟩

end Severity

theorem TimedEntry.isCurrentBoot_iff (bootStart : WallTime) (timed : TimedEntry) :
    timed.artifact.isCurrentBoot bootStart = true ↔
      ∀ mtime, timed.mtime = some mtime → bootStart ≤ mtime := by
  show (match timed.mtime with | none => true | some mtime => decide (mtime ≥ bootStart)) = true ↔ _
  cases timed.mtime with
  | none => simp
  | some mtime => simp

theorem panicArtifacts_any_current (clocks : ScanClocks) (entries : List PstoreEntry) :
    (panicArtifacts clocks entries).any (CrashArtifact.isCurrentBoot clocks.bootStart) = true ↔
      ∃ timed ∈ panicEntries clocks (reachedEntries entries),
        ∀ mtime, timed.mtime = some mtime → clocks.bootStart ≤ mtime := by
  rw [(panicArtifacts_perm clocks entries).any_eq, List.any_map, List.any_eq_true]
  refine exists_congr fun timed => and_congr_right fun _ => ?_
  exact TimedEntry.isCurrentBoot_iff clocks.bootStart timed

theorem panicArtifacts_eq_nil_iff (clocks : ScanClocks) (entries : List PstoreEntry) :
    panicArtifacts clocks entries = [] ↔ panicEntries clocks (reachedEntries entries) = [] := by
  rw [← List.length_eq_zero_iff, (panicArtifacts_perm clocks entries).length_eq, List.length_map,
    List.length_eq_zero_iff]

theorem collect_eq (clocks : ScanClocks) (entries : List PstoreEntry) (file : StateFile) :
    CrashProbe.collect clocks { listing := some entries } file =
      .ok ((statusOf clocks.bootStart (scannedArtifacts clocks entries)
        (panicArtifacts clocks entries)).compareAcknowledged file) := by
  rw [CrashProbe.collect, scan_eq]

/-- Without a failed type query and with fewer than `2 ^ 32` files, the severity is
decided by the panic files, their times and the acknowledgement. -/
theorem crash_severity_exact (listing : PstoreListing) (clocks : ScanClocks) (file : StateFile)
    (answered : ∀ entry ∈ listing.entries, entry.isAnswered = true)
    (few : listing.entries.countP PstoreEntry.isFile < 2 ^ 32) :
    ∃ status, CrashProbe.collect clocks listing.pstore file = .ok status ∧
      (evaluateCrash status = .crit ↔
        (∃ timed ∈ panicEntries clocks listing.entries,
          ∀ mtime, timed.mtime = some mtime → clocks.bootStart ≤ mtime) ∧
        acknowledgedFingerprint file ≠ status.fingerprint) ∧
      (evaluateCrash status = .warn ↔
        panicEntries clocks listing.entries ≠ [] ∧
        (∀ timed ∈ panicEntries clocks listing.entries,
          ∃ mtime, timed.mtime = some mtime ∧ mtime < clocks.bootStart) ∧
        acknowledgedFingerprint file ≠ status.fingerprint) ∧
      (evaluateCrash status ≠ .crit → evaluateCrash status ≠ .warn →
        evaluateCrash status = .ok) ∧
      status.artifactCount.toNat = listing.entries.countP PstoreEntry.isFile ∧
      status.Consistent := by
  have reached := reachedEntries_of_answered answered
  have counted := scannedArtifacts_length clocks listing.entries
  have current := panicArtifacts_any_current clocks listing.entries
  have empty := panicArtifacts_eq_nil_iff clocks listing.entries
  have fewer := panicArtifacts_length_le clocks listing.entries
  rw [reached] at counted current empty
  have consistent := @compareAcknowledged_consistent clocks.bootStart _ _ file
    (counted ▸ few) fewer
  have small := Nat.lt_of_le_of_lt fewer (counted ▸ few)
  refine ⟨_, collect_eq clocks listing.entries file, ?_, ?_, ?_, ?_, consistent⟩
  · rw [evaluateCrash_crit_iff file small, current]
    rfl
  · rw [evaluateCrash_warn_iff file small, current, ne_eq, empty]
    simp only [not_exists, not_and, not_forall, exists_prop, not_le]
    rfl
  · intro crit warn
    rw [evaluateCrash_eq file small] at crit warn ⊢
    split
    · rfl
    · rename_i alarming
      rw [if_neg alarming] at crit warn
      split at crit
      · exact absurd rfl crit
      · rename_i old
        rw [if_neg old] at warn
        exact absurd rfl warn
  · exact consistent.counted.trans counted

def secondPanic : PstoreEntry where
  name := "dmesg-ramoops-1"
  fileSize := some 4096
  lastWriteTime := some (seconds 120)

def crashedTwice : PstoreListing where
  entries := [
    { name := "dmesg-ramoops-0", fileSize := some 4096, lastWriteTime := some (seconds 40) },
    { name := "console-ramoops-0", fileSize := some 512, lastWriteTime := some (seconds 130) },
    secondPanic]
  distinct := by decide

/-- The first panic is older than the boot at 100 s, and the file acknowledges another one. -/
theorem crashedTwice_severity :
    ∃ status, CrashProbe.collect { now := seconds 150, bootTime := some 50 } crashedTwice.pstore
        (acknowledgementFile "9dd2cbfa3e2ed24b") = .ok status ∧
      evaluateCrash status = .crit ∧ status.artifactCount.toNat = 3 := by
  obtain ⟨status, returned, crit, _, _, counted, _⟩ := crash_severity_exact crashedTwice
    { now := seconds 150, bootTime := some 50 } (acknowledgementFile "9dd2cbfa3e2ed24b")
    (by decide) (by decide)
  refine ⟨status, returned, crit.mpr ⟨?_, ?_⟩, counted⟩
  · refine ⟨(secondPanic, 0), by decide +kernel, ?_⟩
    rintro mtime ⟨⟩
    decide
  · obtain rfl := Except.ok.inj (returned.symm.trans (collect_eq _ _ _))
    decide +kernel

def numberedPanic (number : Nat) : PstoreEntry := { name := "dmesg-" ++ Nat.repr number }

theorem numberedPanic_injective : Function.Injective fun number => (numberedPanic number).name := by
  intro left right same
  have joined := congrArg String.toList same
  simp only [numberedPanic, String.toList_append] at joined
  exact Decimal.repr_injective (String.toList_inj.mp (List.append_cancel_left joined))

def numberedPanics (count : Nat) : PstoreListing where
  entries := (List.range count).map numberedPanic
  distinct := by
    rw [List.map_map]
    exact List.nodup_range.map numberedPanic_injective

theorem numberedPanic_isPanicFile (number : Nat) : (numberedPanic number).isPanicFile = true := by
  have named : "dmesg-".toList.isPrefixOf (numberedPanic number).name.toList = true := by
    rw [numberedPanic, String.toList_append]
    simp
  rw [PstoreEntry.isPanicFile, isPanicArtifactName, named]
  rfl

theorem panicEntries_numbered (clocks : ScanClocks) (count : Nat) :
    panicEntries clocks (numberedPanics count).entries =
      clocks.timed (numberedPanics count).entries := by
  refine List.filter_eq_self.mpr fun timed member => ?_
  obtain ⟨⟨entry, index⟩, listed, rfl⟩ := List.mem_map.mp member
  obtain ⟨number, _, rfl⟩ := List.mem_map.mp (List.fst_mem_of_mem_zipIdx listed)
  exact numberedPanic_isPanicFile number

theorem numberedPanics_answered (count : Nat) :
    ∀ entry ∈ (numberedPanics count).entries, entry.isAnswered = true := by
  intro entry member
  obtain ⟨number, _, rfl⟩ := List.mem_map.mp member
  rfl

theorem panicArtifacts_numbered_length (clocks : ScanClocks) (count : Nat) :
    (panicArtifacts clocks (numberedPanics count).entries).length = count := by
  rw [(panicArtifacts_perm clocks _).length_eq, List.length_map,
    reachedEntries_of_answered (numberedPanics_answered count), panicEntries_numbered,
    ScanClocks.timed, List.length_map, List.length_zipIdx, numberedPanics, List.length_map,
    List.length_range]

theorem panicEntries_numbered_current (clocks : ScanClocks) {count : Nat} (positive : 0 < count) :
    ∃ timed ∈ panicEntries clocks (numberedPanics count).entries,
      ∀ mtime, timed.mtime = some mtime → clocks.bootStart ≤ mtime := by
  refine ⟨(numberedPanic 0, clocks.offset 0), ?_, fun mtime absent => by cases absent⟩
  rw [panicEntries_numbered]
  refine List.mem_map.mpr ⟨(numberedPanic 0, 0), List.mem_zipIdx_iff_getElem?.mpr ?_, rfl⟩
  rw [numberedPanics, List.getElem?_map, List.getElem?_range positive, Option.map_some]

theorem crash_severity_wraps :
    ¬∀ (listing : PstoreListing) (clocks : ScanClocks) (file : StateFile) (status : CrashStatus),
      (∀ entry ∈ listing.entries, entry.isAnswered = true) →
      CrashProbe.collect clocks listing.pstore file = .ok status →
      (evaluateCrash status = .crit ↔
        (∃ timed ∈ panicEntries clocks listing.entries,
          ∀ mtime, timed.mtime = some mtime → clocks.bootStart ≤ mtime) ∧
        acknowledgedFingerprint file ≠ status.fingerprint) := by
  intro claimed
  obtain ⟨count, positive, wraps⟩ : ∃ count, 0 < count ∧ UInt32.ofNat count = 0 :=
    ⟨2 ^ 32, Nat.two_pow_pos 32, rfl⟩
  have length := panicArtifacts_numbered_length { now := 0 } count
  have found : panicArtifacts { now := 0 } (numberedPanics count).entries ≠ [] := by
    rw [ne_eq, ← List.length_eq_zero_iff, length]
    exact positive.ne'
  have crit := (claimed (numberedPanics count) { now := 0 } .missing _
    (numberedPanics_answered _) (collect_eq _ _ _)).mpr
    ⟨panicEntries_numbered_current { now := 0 } positive, missing_unacknowledged found⟩
  rw [evaluateCrash_wrapped .missing (by rw [length, wraps])] at crit
  cases crit

end EdgeHealthd
