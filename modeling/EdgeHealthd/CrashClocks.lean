import EdgeHealthd.CrashListing
import EdgeHealthd.Library.Digest

/-!
What the clocks of a scan can change. A file time is converted through two clock
reads and hashed in whole seconds, and the start of the boot is the wall clock less
the whole seconds of the boot clock; both move with the moment of the reading.
-/

namespace EdgeHealthd

open Decimal (utf8Bytes utf8Bytes_append repr_snoc)

def fnvStep (hash : UInt64) (byte : UInt8) : UInt64 := (hash ^^^ byte.toUInt64) * fnvPrime

theorem fnvPrime_inverse : fnvPrime * 14886173955864302971 = 1 := by decide

theorem mul_fnvPrime_injective : Function.Injective (· * fnvPrime) := by
  intro left right same
  have undone := congrArg (· * 14886173955864302971) same
  simpa only [UInt64.mul_assoc, fnvPrime_inverse, UInt64.mul_one] using undone

theorem fnvStep_lossless : Digest.Lossless fnvStep where
  state byte := by
    intro left right same
    exact (UInt64.xor_left_inj _).mp (mul_fnvPrime_injective same)
  symbol hash := by
    intro left right same
    have equal := (UInt64.xor_right_inj hash).mp (mul_fnvPrime_injective same)
    have numbers := congrArg UInt64.toNat equal
    rw [UInt8.toNat_toUInt64, UInt8.toNat_toUInt64] at numbers
    exact UInt8.toNat_inj.mp numbers

def fingerprintInput (artifacts : List CrashArtifact) : List UInt8 :=
  artifacts.flatMap fun artifact => utf8Bytes (fingerprintLine artifact)

theorem computeFingerprint_eq (artifacts : List CrashArtifact) :
    computeFingerprint artifacts =
      toHexU64 ((fingerprintInput artifacts).foldl fnvStep fnvOffset) := by
  rw [fingerprintInput, List.foldl_flatMap]
  rfl

/-! The sixteen hexadecimal digits read back. -/

def hexValue (ch : Char) : Nat :=
  if ch.isDigit then ch.toNat - '0'.toNat else ch.toNat - 'a'.toNat + 10

def ofHex (digits : List Char) : Nat := digits.foldl (fun value ch => value * 16 + hexValue ch) 0

theorem hexValue_digitChar {digit : Nat} (small : digit < 16) :
    hexValue digit.digitChar = digit := by
  interval_cases digit <;> decide

theorem ofHex_toDigits (value : Nat) : ofHex (Nat.toDigits 16 value) = value := by
  induction value using Nat.strongRecOn with
  | ind value ih =>
      by_cases small : value < 16
      · rw [Nat.toDigits_of_lt_base small]
        simp [ofHex, hexValue_digitChar small]
      · rw [Nat.toDigits_of_base_le (by decide) (by omega), ofHex, List.foldl_append]
        have rest := ih (value / 16) (by omega)
        rw [ofHex] at rest
        rw [rest, List.foldl_cons, List.foldl_nil, hexValue_digitChar (by omega)]
        omega

theorem ofHex_leftpad (width : Nat) (digits : List Char) :
    ofHex (digits.leftpad width '0') = ofHex digits := by
  have zeros : ∀ count, (List.replicate count '0').foldl
      (fun value ch => value * 16 + hexValue ch) 0 = 0 := by
    intro count
    induction count with
    | zero => rfl
    | succ count ih => exact ih
  rw [ofHex, List.leftpad, List.foldl_append, zeros]
  rfl

theorem toHexU64_injective : Function.Injective toHexU64 := by
  intro left right same
  have digits := congrArg (fun text => ofHex text.toList) same
  simp only [toHexU64, String.toList_ofList, ofHex_leftpad, ofHex_toDigits] at digits
  exact UInt64.toNat_inj.mp digits

/-! The scan in the order of the fingerprint, apart from the clocks. -/

def ScanClocks.artifactAt (clocks : ScanClocks) (indexed : PstoreEntry × Nat) : CrashArtifact :=
  TimedEntry.artifact (indexed.1, clocks.offset indexed.2)

def sortedPanics (entries : List PstoreEntry) : List (PstoreEntry × Nat) :=
  (((reachedEntries entries).zipIdx.filter fun indexed => indexed.1.isFile).insertionSort
    fun left right => left.1.name ≤ right.1.name).filter fun indexed =>
      isPanicArtifactName indexed.1.name

theorem panicArtifacts_eq (clocks : ScanClocks) (entries : List PstoreEntry) :
    panicArtifacts clocks entries = (sortedPanics entries).map clocks.artifactAt := by
  have scanned : scanEntries clocks 0 entries =
      ((reachedEntries entries).zipIdx.filter fun indexed => indexed.1.isFile).map
        clocks.artifactAt := by
    rw [scanEntries_eq, ScanClocks.timed, List.filter_map, List.map_map]
    rfl
  have sorted := List.map_insertionSort
    (fun left right : PstoreEntry × Nat => left.1.name ≤ right.1.name)
    (fun left right : CrashArtifact => left.name ≤ right.name) clocks.artifactAt
    ((reachedEntries entries).zipIdx.filter fun indexed => indexed.1.isFile)
    (fun _ _ _ _ => Iff.rfl)
  rw [panicArtifacts, scannedArtifacts, scanned, ← sorted, sortedPanics, List.filter_map]
  congr 1
  refine List.filter_congr fun indexed _ => ?_
  exact artifact_kind_iff (indexed.1, clocks.offset indexed.2)

theorem mem_sortedPanics {entries : List PstoreEntry} {indexed : PstoreEntry × Nat} :
    indexed ∈ sortedPanics entries ↔
      indexed ∈ (reachedEntries entries).zipIdx ∧ indexed.1.isPanicFile = true := by
  rw [sortedPanics, List.mem_filter, List.mem_insertionSort, List.mem_filter,
    PstoreEntry.isPanicFile, Bool.and_eq_true, and_assoc]

theorem sortedPanics_indices (entries : List PstoreEntry) :
    ((sortedPanics entries).map Prod.snd).Nodup := by
  have all : ((reachedEntries entries).zipIdx.map Prod.snd).Nodup := by
    rw [List.zipIdx_map_snd]
    exact List.nodup_range'
  have files : (((reachedEntries entries).zipIdx.filter fun indexed =>
      indexed.1.isFile).map Prod.snd).Nodup := all.sublist (List.filter_sublist.map Prod.snd)
  have sorted := ((List.perm_insertionSort (fun left right : PstoreEntry × Nat =>
    left.1.name ≤ right.1.name) _).map Prod.snd).nodup_iff.mpr files
  exact sorted.sublist (List.filter_sublist.map Prod.snd)

section Fingerprint

variable (listing : PstoreListing)

def CrashProbe.status (clocks : ScanClocks) (file : StateFile) : CrashStatus :=
  (CrashProbe.scan clocks listing.pstore).compareAcknowledged file

theorem collect_eq_status (clocks : ScanClocks) (file : StateFile) :
    CrashProbe.collect clocks listing.pstore file = .ok (CrashProbe.status listing clocks file) :=
  rfl

theorem status_fingerprint (clocks : ScanClocks) (file : StateFile) :
    (CrashProbe.status listing clocks file).fingerprint =
      if (sortedPanics listing.entries).isEmpty then none
      else some (toHexU64 ((fingerprintInput ((sortedPanics listing.entries).map
        clocks.artifactAt)).foldl fnvStep fnvOffset)) := by
  show (CrashProbe.scan clocks listing.pstore).fingerprint = _
  rw [PstoreListing.pstore, scan_eq, statusOf]
  simp only [panicArtifacts_eq, List.isEmpty_map, computeFingerprint_eq]

theorem status_acknowledged_eq {first second : ScanClocks} {file : StateFile}
    (same : (CrashProbe.status listing first file).fingerprint =
      (CrashProbe.status listing second file).fingerprint) :
    (CrashProbe.status listing first file).acknowledged =
      (CrashProbe.status listing second file).acknowledged := by
  rw [Bool.eq_iff_iff]
  refine (compareAcknowledged_iff _ file).trans (Iff.trans ?_ (compareAcknowledged_iff _ file).symm)
  refine exists_congr fun fingerprint => and_congr_right fun _ => ?_
  exact Eq.congr_left same

/-- Both scans convert the time of each panic file into the same second. -/
def SameSeconds (first second : ScanClocks) : Prop :=
  ∀ indexed ∈ (reachedEntries listing.entries).zipIdx, indexed.1.isPanicFile = true →
    ∀ mtime, indexed.1.lastWriteTime = some mtime →
      (mtime + first.offset indexed.2).tdiv 1000000000 =
        (mtime + second.offset indexed.2).tdiv 1000000000

theorem SameSeconds.line_eq {first second : ScanClocks} (same : SameSeconds listing first second)
    {indexed : PstoreEntry × Nat} (member : indexed ∈ sortedPanics listing.entries) :
    fingerprintLine (first.artifactAt indexed) = fingerprintLine (second.artifactAt indexed) := by
  obtain ⟨reached, panic⟩ := mem_sortedPanics.mp member
  unfold fingerprintLine ScanClocks.artifactAt TimedEntry.artifact TimedEntry.mtime
  cases written : indexed.1.lastWriteTime with
  | none => rfl
  | some mtime => simp [same indexed reached panic mtime written]

theorem SameSeconds.fingerprint_eq {first second : ScanClocks}
    (same : SameSeconds listing first second) (file : StateFile) :
    (CrashProbe.status listing first file).fingerprint =
      (CrashProbe.status listing second file).fingerprint := by
  have input : fingerprintInput ((sortedPanics listing.entries).map first.artifactAt) =
      fingerprintInput ((sortedPanics listing.entries).map second.artifactAt) := by
    rw [fingerprintInput, fingerprintInput, List.flatMap_map, List.flatMap_map]
    exact List.flatMap_congr fun indexed member => by rw [same.line_eq listing member]
  rw [status_fingerprint, status_fingerprint, input]

/-- The clocks that bring the time of one file to the given instant. -/
def clocksTo (index : Nat) (mtime instant : Int) : ScanClocks where
  now := 0
  offset other := if other = index then instant - mtime else 0

/-- Which of its two clocks a conversion reads first; C++ leaves it open. -/
inductive ClockOrder where
  | fileClockFirst
  | systemClockFirst

/-- Time passes between the two reads, so the difference has the sign of their order. -/
def ScanClocks.Delayed (order : ClockOrder) (clocks : ScanClocks) : Prop :=
  ∀ index, match order with
    | .fileClockFirst => 0 ≤ clocks.offset index
    | .systemClockFirst => clocks.offset index ≤ 0

namespace ClockOrder

def sign : ClockOrder → String
  | .fileClockFirst => ""
  | .systemClockFirst => "-"

def instant : ClockOrder → Nat → Int
  | .fileClockFirst, number => seconds number
  | .systemClockFirst, number => seconds (-number)

theorem toString_instant (order : ClockOrder) {number : Nat} (positive : 0 < number) :
    toString ((order.instant number).tdiv 1000000000) = order.sign ++ Nat.repr number := by
  cases order with
  | fileClockFirst =>
      rw [instant, seconds, Int.mul_tdiv_cancel _ (by decide), sign, String.empty_append]
      rfl
  | systemClockFirst =>
      obtain ⟨before, rfl⟩ := Nat.exists_eq_succ_of_ne_zero positive.ne'
      rw [instant, seconds, Int.mul_tdiv_cancel _ (by decide)]
      rfl

end ClockOrder

def lineStem (order : ClockOrder) (entry : PstoreEntry) (number : Nat) : String :=
  entry.name ++ ":" ++ toString (entry.fileSize.getD 0).toNat ++ ":" ++
    (order.sign ++ Nat.repr number)

omit listing in
theorem clocksTo_line (order : ClockOrder) {entry : PstoreEntry} {index : Nat} {mtime : Int}
    (written : entry.lastWriteTime = some mtime) {number digit : Nat} (positive : 0 < number)
    (small : digit < 10) :
    fingerprintLine ((clocksTo index mtime (order.instant (10 * number + digit))).artifactAt
        (entry, index)) =
      lineStem order entry number ++ String.ofList [digit.digitChar] := by
  have converted : ((clocksTo index mtime (order.instant (10 * number + digit))).artifactAt
      (entry, index)).mtime = some (order.instant (10 * number + digit)) := by
    show entry.lastWriteTime.map _ = _
    rw [written]
    simp [clocksTo]
  rw [fingerprintLine, converted]
  show _ ++ ":" ++ _ ++ ":" ++ toString ((order.instant (10 * number + digit)).tdiv 1000000000) = _
  rw [order.toString_instant (by omega), repr_snoc positive small]
  simp only [lineStem, String.append_assoc]
  rfl

omit listing in
theorem fingerprintInput_append (first second : List CrashArtifact) :
    fingerprintInput (first ++ second) = fingerprintInput first ++ fingerprintInput second :=
  List.flatMap_append

omit listing in
theorem fingerprintInput_cons (artifact : CrashArtifact) (rest : List CrashArtifact) :
    fingerprintInput (artifact :: rest) =
      utf8Bytes (fingerprintLine artifact) ++ fingerprintInput rest :=
  List.flatMap_cons

omit listing in
theorem clocksTo_others {others : List (PstoreEntry × Nat)} {index : Nat}
    (apart : index ∉ others.map Prod.snd) (mtime first second : Int) :
    others.map (clocksTo index mtime first).artifactAt =
      others.map (clocksTo index mtime second).artifactAt := by
  refine List.map_congr_left fun indexed member => ?_
  have other : indexed.2 ≠ index := by
    rintro rfl
    exact apart (List.mem_map_of_mem member)
  simp [ScanClocks.artifactAt, clocksTo, other]

theorem fingerprint_ne_of_dated (order : ClockOrder) {entry : PstoreEntry} {index : Nat}
    {mtime : Int} (member : (entry, index) ∈ sortedPanics listing.entries)
    (written : entry.lastWriteTime = some mtime) {number : Nat} (positive : 0 < number)
    (file : StateFile) :
    (CrashProbe.status listing (clocksTo index mtime (order.instant (10 * number + 0)))
        file).fingerprint ≠
      (CrashProbe.status listing (clocksTo index mtime (order.instant (10 * number + 1)))
        file).fingerprint := by
  obtain ⟨before, after, split⟩ := List.append_of_mem member
  have apart := sortedPanics_indices listing.entries
  rw [split, List.map_append, List.map_cons, List.nodup_middle, List.nodup_cons,
    List.mem_append, not_or] at apart
  obtain ⟨⟨notBefore, notAfter⟩, _⟩ := apart
  have found : (sortedPanics listing.entries).isEmpty = false := by
    rw [split]
    simp
  rw [status_fingerprint, status_fingerprint, found, split]
  simp only [Bool.false_eq_true, ↓reduceIte, List.map_append, List.map_cons]
  rw [clocksTo_others notBefore mtime _ (order.instant (10 * number + 1)),
    clocksTo_others notAfter mtime _ (order.instant (10 * number + 1))]
  intro same
  have states := toHexU64_injective (Option.some.inj same)
  have input : ∀ {digit : Nat} (small : digit < 10) (others later : List CrashArtifact),
      fingerprintInput (others ++ (clocksTo index mtime
        (order.instant (10 * number + digit))).artifactAt (entry, index) :: later) =
      (fingerprintInput others ++ utf8Bytes (lineStem order entry number)) ++
        (utf8Bytes (String.ofList [digit.digitChar]) ++ fingerprintInput later) := by
    intro digit small others later
    rw [fingerprintInput_append, fingerprintInput_cons, clocksTo_line order written positive small,
      utf8Bytes_append, List.append_assoc, List.append_assoc]
  rw [input (by decide), input (by decide)] at states
  exact fnvStep_lossless.foldl_ne _ _ (show (48 : UInt8) ≠ 49 by decide) fnvOffset states

theorem clocksTo_delayed (order : ClockOrder) {index number : Nat} {mtime : Int}
    (far : mtime.natAbs ≤ number) : (clocksTo index mtime (order.instant number)).Delayed order := by
  intro other
  unfold clocksTo
  cases order with
  | fileClockFirst =>
      simp only [ClockOrder.instant, seconds]
      split <;> omega
  | systemClockFirst =>
      simp only [ClockOrder.instant, seconds]
      split <;> omega

/-- Scans of one content with any of these clocks agree, also on an acknowledgement. -/
def FingerprintStable (allowed : ScanClocks → Prop) : Prop :=
  ∀ first second, allowed first → allowed second → ∀ file,
    (CrashProbe.status listing first file).fingerprint =
        (CrashProbe.status listing second file).fingerprint ∧
      (CrashProbe.status listing first file).acknowledged =
        (CrashProbe.status listing second file).acknowledged

def UndatedPanics : Prop :=
  ∀ entry ∈ reachedEntries listing.entries, entry.isPanicFile = true → entry.lastWriteTime = none

theorem SameSeconds.status_eq {first second : ScanClocks}
    (same : SameSeconds listing first second) (file : StateFile) :
    (CrashProbe.status listing first file).fingerprint =
        (CrashProbe.status listing second file).fingerprint ∧
      (CrashProbe.status listing first file).acknowledged =
        (CrashProbe.status listing second file).acknowledged :=
  ⟨same.fingerprint_eq listing file, status_acknowledged_eq listing (same.fingerprint_eq listing file)⟩

variable {listing}

theorem UndatedPanics.stable (undated : UndatedPanics listing) (allowed : ScanClocks → Prop) :
    FingerprintStable listing allowed := by
  intro first second _ _ file
  refine SameSeconds.status_eq listing ?_ file
  intro indexed reached panic mtime written
  rw [undated indexed.1 (List.fst_mem_of_mem_zipIdx reached) panic] at written
  cases written

theorem FingerprintStable.undated {order : ClockOrder}
    (stable : FingerprintStable listing (ScanClocks.Delayed order)) : UndatedPanics listing := by
  intro entry reached panic
  by_contra dated
  obtain ⟨mtime, written⟩ := Option.ne_none_iff_exists'.mp dated
  obtain ⟨index, listed⟩ := List.mem_iff_getElem?.mp reached
  have member := mem_sortedPanics.mpr ⟨List.mk_mem_zipIdx_iff_getElem?.mpr listed, panic⟩
  exact fingerprint_ne_of_dated listing order member written (Nat.succ_pos mtime.natAbs) .missing
    (stable _ _ (clocksTo_delayed order (by omega)) (clocksTo_delayed order (by omega)) .missing).1

variable (listing)

/-- Whichever clock is read first, and also if that varies: over all delays the fingerprint is
the same exactly when no panic file that is reached has a time. Over two given scans it is,
when each time stays in its second. -/
theorem fingerprint_stable_iff :
    (FingerprintStable listing (fun _ => True) ↔ UndatedPanics listing) ∧
    (∀ order, FingerprintStable listing (ScanClocks.Delayed order) ↔ UndatedPanics listing) ∧
    ∀ first second, SameSeconds listing first second → ∀ file,
      (CrashProbe.status listing first file).fingerprint =
          (CrashProbe.status listing second file).fingerprint ∧
        (CrashProbe.status listing first file).acknowledged =
          (CrashProbe.status listing second file).acknowledged := by
  refine ⟨⟨?_, fun undated => undated.stable _⟩, ?_, fun _ _ same => same.status_eq listing⟩
  · intro stable
    have delayed : FingerprintStable listing (ScanClocks.Delayed .fileClockFirst) :=
      fun first second _ _ => stable first second trivial trivial
    exact delayed.undated
  · intro order
    exact ⟨fun stable => stable.undated, fun undated => undated.stable _⟩

end Fingerprint

def datedPanic (mtime : Int) : PstoreListing :=
  ⟨[{ name := "dmesg-ramoops-0", fileSize := some 4096, lastWriteTime := some mtime }], by simp⟩

def delayedBy (offset : Int) : ScanClocks := { now := 0, offset := fun _ => offset }

theorem fingerprint_stable_within_second :
    (CrashProbe.status (datedPanic 1700000000500000000) (delayedBy 0) .missing).fingerprint =
      (CrashProbe.status (datedPanic 1700000000500000000) (delayedBy (-1)) .missing).fingerprint := by
  refine ((fingerprint_stable_iff (datedPanic 1700000000500000000)).2.2 _ _ ?_ .missing).1
  intro indexed reached _ mtime written
  obtain rfl := List.mem_singleton.mp reached
  obtain rfl := Option.some.inj written
  decide

theorem acknowledged_panic_reappears :
    ¬∀ (listing : PstoreListing) (first second : ScanClocks) (file : StateFile),
      first.Delayed .systemClockFirst → second.Delayed .systemClockFirst →
      (CrashProbe.status listing first file).acknowledged = true →
      (CrashProbe.status listing second file).acknowledged = true := by
  intro claimed
  have kept := claimed (datedPanic 1700000001000000000) (delayedBy 0) (delayedBy (-1))
    (acknowledgementFile "0ec5762fe53f0996") (fun _ => Int.le_refl 0)
    (fun _ => (by decide : (-1 : Int) ≤ 0))
  exact absurd (kept (by decide)) (by decide)

end EdgeHealthd
