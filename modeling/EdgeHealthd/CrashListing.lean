import EdgeHealthd.CrashProbe
import Mathlib.Data.String.Basic

/-!
What `CrashProbe::collect` depends on in a directory listing. The order of the
entries and the informational files do not matter to the panic fields, unless an
entry whose type query fails ends the loop before a file is reached.
-/

namespace EdgeHealthd

/-- The entries from the first failed type query on. -/
def hiddenEntries (entries : List PstoreEntry) : List PstoreEntry :=
  entries.dropWhile PstoreEntry.isAnswered

def Hides (selects : PstoreEntry → Bool) (entries : List PstoreEntry) : Prop :=
  ∃ entry ∈ hiddenEntries entries, selects entry = true

section Split

variable (clocks : ScanClocks) (entries : List PstoreEntry)

theorem timed_split :
    ∃ behind : List TimedEntry,
      clocks.timed entries = clocks.timed (reachedEntries entries) ++ behind ∧
        behind.map Prod.fst = hiddenEntries entries := by
  refine ⟨((hiddenEntries entries).zipIdx (reachedEntries entries).length).map fun indexed =>
    (indexed.1, clocks.offset indexed.2), ?_, ?_⟩
  · have split : entries = reachedEntries entries ++ hiddenEntries entries :=
      List.takeWhile_append_dropWhile.symm
    conv_lhs => rw [split, ScanClocks.timed, List.zipIdx_append, List.map_append, Nat.zero_add]
    rfl
  · rw [List.map_map]
    exact List.zipIdx_map_fst _ _

theorem filter_timed_split (selects : PstoreEntry → Bool) :
    ∃ missing : List TimedEntry,
      (clocks.timed entries).filter (fun timed => selects timed.1) =
        (clocks.timed (reachedEntries entries)).filter (fun timed => selects timed.1) ++ missing ∧
      (missing = [] ↔ ¬Hides selects entries) := by
  obtain ⟨behind, split, named⟩ := timed_split clocks entries
  refine ⟨behind.filter fun timed => selects timed.1, ?_, ?_⟩
  · rw [split, List.filter_append]
  · rw [List.filter_eq_nil_iff, Hides, ← named]
    simp

/-- The clocks of a scan over the kept entries only, each converted as before. -/
def ScanClocks.keeping (keeps : PstoreEntry → Bool) : ScanClocks :=
  { clocks with
    offset := fun index =>
      ((entries.zipIdx.filter fun indexed => keeps indexed.1)[index]?.map fun indexed =>
        clocks.offset indexed.2).getD 0 }

theorem keeping_timed (keeps : PstoreEntry → Bool) :
    (clocks.keeping entries keeps).timed (entries.filter keeps) =
      (clocks.timed entries).filter fun timed => keeps timed.1 := by
  have named : entries.filter keeps =
      (entries.zipIdx.filter fun indexed => keeps indexed.1).map Prod.fst := by
    conv_lhs => rw [← List.zipIdx_map_fst 0 entries, List.filter_map]
    rfl
  have listed : (clocks.timed entries).filter (fun timed => keeps timed.1) =
      (entries.zipIdx.filter fun indexed => keeps indexed.1).map fun indexed =>
        (indexed.1, clocks.offset indexed.2) := by
    rw [ScanClocks.timed, List.filter_map]
    rfl
  rw [listed]
  apply List.ext_getElem?
  intro index
  rw [ScanClocks.timed, List.getElem?_map, List.getElem?_zipIdx, List.getElem?_map, named,
    List.getElem?_map]
  cases kept : (entries.zipIdx.filter fun indexed => keeps indexed.1)[index]? with
  | none => rfl
  | some indexed => simp [ScanClocks.keeping, kept]

end Split

def PstoreListing.keeping (listing : PstoreListing) (keeps : PstoreEntry → Bool) :
    PstoreListing where
  entries := listing.entries.filter keeps
  distinct := listing.distinct.sublist (List.filter_sublist.map _)

theorem reachedEntries_keeping {entries : List PstoreEntry} {keeps : PstoreEntry → Bool}
    (answered : ∀ entry, keeps entry = true → entry.isAnswered = true) :
    reachedEntries (entries.filter keeps) = entries.filter keeps :=
  reachedEntries_of_answered fun entry member => answered entry (List.mem_filter.mp member).2

theorem isFile_answered {entry : PstoreEntry} (file : entry.isFile = true) :
    entry.isAnswered = true := by
  rw [PstoreEntry.isFile, beq_iff_eq] at file
  rw [PstoreEntry.isAnswered, file, Option.isSome_some]

theorem isPanicFile_answered {entry : PstoreEntry} (panic : entry.isPanicFile = true) :
    entry.isAnswered = true :=
  isFile_answered (Bool.and_eq_true_iff.mp panic).1

theorem scanEntries_keeping_answered (clocks : ScanClocks) (entries : List PstoreEntry) :
    scanEntries (clocks.keeping entries PstoreEntry.isAnswered) 0
        (entries.filter PstoreEntry.isAnswered) =
      ((clocks.timed entries).filter fun timed => timed.1.isFile).map TimedEntry.artifact := by
  rw [scanEntries_eq, reachedEntries_keeping fun _ answered => answered, keeping_timed,
    List.filter_filter]
  congr 1
  refine List.filter_congr fun timed _ => ?_
  by_cases file : timed.1.isFile = true
  · rw [file, isFile_answered file, Bool.and_self]
  · rw [Bool.eq_false_of_not_eq_true file, Bool.false_and]

/-- The scan is the one of the listing without its unreadable entries exactly when no
file is listed behind such an entry. -/
theorem collect_skips_unreadable_iff (listing : PstoreListing) (clocks : ScanClocks)
    (file : StateFile) :
    CrashProbe.collect clocks listing.pstore file =
        CrashProbe.collect (clocks.keeping listing.entries PstoreEntry.isAnswered)
          (listing.keeping PstoreEntry.isAnswered).pstore file ↔
      ¬Hides PstoreEntry.isFile listing.entries := by
  obtain ⟨missing, split, complete⟩ :=
    filter_timed_split clocks listing.entries PstoreEntry.isFile
  have skipped := scanEntries_keeping_answered clocks listing.entries
  have scanned := scanEntries_eq clocks listing.entries
  rw [← complete]
  constructor
  · intro same
    have lists : scannedArtifacts clocks listing.entries = scannedArtifacts
        (clocks.keeping listing.entries PstoreEntry.isAnswered)
        (listing.entries.filter PstoreEntry.isAnswered) := by
      rw [PstoreListing.pstore, PstoreListing.pstore, PstoreListing.keeping, collect_eq,
        collect_eq] at same
      exact congrArg CrashStatus.artifacts (Except.ok.inj same)
    have lengths := congrArg List.length lists
    rw [scannedArtifacts, scannedArtifacts, List.length_insertionSort, List.length_insertionSort,
      scanned, skipped, split, List.length_map, List.length_map, List.length_append] at lengths
    exact List.length_eq_zero_iff.mp (by omega)
  · rintro rfl
    rw [List.append_nil] at split
    have same : scannedArtifacts clocks listing.entries = scannedArtifacts
        (clocks.keeping listing.entries PstoreEntry.isAnswered)
        (listing.entries.filter PstoreEntry.isAnswered) := by
      rw [scannedArtifacts, scannedArtifacts, scanned, skipped, split]
    have panics : panicArtifacts clocks listing.entries = panicArtifacts
        (clocks.keeping listing.entries PstoreEntry.isAnswered)
        (listing.entries.filter PstoreEntry.isAnswered) := by
      rw [panicArtifacts, panicArtifacts, same]
    rw [PstoreListing.pstore, PstoreListing.pstore, PstoreListing.keeping, collect_eq, collect_eq,
      same, panics]
    rfl

def danglingLink : PstoreEntry := { name := "broken", isRegularFile := none }

def panicFile : PstoreEntry := { name := "dmesg-ramoops-0", fileSize := some 4096 }

def linkFirst : PstoreListing := ⟨[danglingLink, panicFile], by decide⟩

theorem collect_hides_panic :
    CrashProbe.collect { now := 0 } linkFirst.pstore .missing ≠
      CrashProbe.collect (ScanClocks.keeping { now := 0 } linkFirst.entries PstoreEntry.isAnswered)
        (linkFirst.keeping PstoreEntry.isAnswered).pstore .missing := by
  intro same
  have counts := congrArg (fun result => result.toOption.map CrashStatus.panicCount) same
  exact absurd counts (by decide)

/-! The fields of the status about panics. -/

structure PanicView where
  panicCount : UInt32
  fingerprint : Option String
  lastPanicAt : Option WallTime
  panicCurrentBoot : Bool
  acknowledged : Bool
  deriving DecidableEq

def CrashStatus.panicView (status : CrashStatus) : PanicView where
  panicCount := status.panicCount
  fingerprint := status.fingerprint
  lastPanicAt := status.lastPanicAt
  panicCurrentBoot := status.panicCurrentBoot
  acknowledged := status.acknowledged

def CrashProbe.view (clocks : ScanClocks) (listing : PstoreListing) (file : StateFile) :
    ProbeResult PanicView :=
  (CrashProbe.collect clocks listing.pstore file).map CrashStatus.panicView

theorem panicView_statusOf (bootStart : WallTime) (artifacts others panics : List CrashArtifact)
    (file : StateFile) :
    ((statusOf bootStart artifacts panics).compareAcknowledged file).panicView =
      ((statusOf bootStart others panics).compareAcknowledged file).panicView := rfl

theorem panicArtifacts_sorted (clocks : ScanClocks) (entries : List PstoreEntry) :
    (panicArtifacts clocks entries).Pairwise fun left right => left.name ≤ right.name := by
  have total : Std.Total fun left right : CrashArtifact => left.name ≤ right.name :=
    ⟨fun left right => le_total left.name right.name⟩
  have transitive : IsTrans CrashArtifact fun left right => left.name ≤ right.name :=
    ⟨fun _ _ _ => le_trans⟩
  exact (List.pairwise_insertionSort _ _).filter _

theorem panicEntries_names (clocks : ScanClocks) (entries : List PstoreEntry) :
    ((panicEntries clocks entries).map fun timed => timed.1.name).Sublist
      (entries.map PstoreEntry.name) := by
  have names : (clocks.timed entries).map (fun timed => timed.1.name) =
      entries.map PstoreEntry.name := by
    conv_rhs => rw [← List.zipIdx_map_fst 0 entries]
    rw [ScanClocks.timed, List.map_map, List.map_map]
    rfl
  rw [← names]
  exact List.filter_sublist.map _

theorem panicArtifacts_eq_of_perm {clocks others : ScanClocks} {entries : List PstoreEntry}
    {listing : PstoreListing}
    (same : (panicEntries clocks (reachedEntries entries)).Perm
      (panicEntries others (reachedEntries listing.entries))) :
    panicArtifacts clocks entries = panicArtifacts others listing.entries := by
  have perm : (panicArtifacts clocks entries).Perm (panicArtifacts others listing.entries) :=
    (panicArtifacts_perm clocks entries).trans
      ((same.map _).trans (panicArtifacts_perm others listing.entries).symm)
  have distinct : ((panicArtifacts others listing.entries).map CrashArtifact.name).Nodup := by
    refine (((panicArtifacts_perm others listing.entries).map CrashArtifact.name).nodup_iff).mpr ?_
    rw [List.map_map]
    have reached := listing.distinct.sublist
      ((List.takeWhile_sublist PstoreEntry.isAnswered).map PstoreEntry.name)
    exact reached.sublist (panicEntries_names others (reachedEntries listing.entries))
  refine perm.eq_of_pairwise ?_ (panicArtifacts_sorted _ _) (panicArtifacts_sorted _ _)
  intro left right first second below above
  exact List.inj_on_of_nodup_map distinct (perm.subset first) second (le_antisymm below above)

theorem panicEntries_reached {clocks : ScanClocks} {entries : List PstoreEntry}
    (shown : ¬Hides PstoreEntry.isPanicFile entries) :
    panicEntries clocks (reachedEntries entries) = panicEntries clocks entries := by
  obtain ⟨missing, split, complete⟩ :=
    filter_timed_split clocks entries PstoreEntry.isPanicFile
  rw [complete.mpr shown, List.append_nil] at split
  exact split.symm

/-- The same panic files, converted by the same clock differences, in any order and
among any other entries. -/
def SamePanics (clocks : ScanClocks) (listing : PstoreListing) (offset : Nat → Int)
    (other : PstoreListing) : Prop :=
  (panicEntries clocks listing.entries).Perm
    (panicEntries { clocks with offset } other.entries)

def PstoreListing.ShowsPanics (listing : PstoreListing) : Prop :=
  ¬Hides PstoreEntry.isPanicFile listing.entries

theorem view_eq_of_samePanics {clocks : ScanClocks} {listing other : PstoreListing}
    {offset : Nat → Int} (file : StateFile) (shown : listing.ShowsPanics)
    (otherShown : other.ShowsPanics) (same : SamePanics clocks listing offset other) :
    CrashProbe.view clocks listing file = CrashProbe.view { clocks with offset } other file := by
  have panics : panicArtifacts clocks listing.entries =
      panicArtifacts { clocks with offset } other.entries := by
    apply panicArtifacts_eq_of_perm
    rw [panicEntries_reached shown, panicEntries_reached otherShown]
    exact same
  rw [CrashProbe.view, CrashProbe.view, PstoreListing.pstore, PstoreListing.pstore, collect_eq,
    collect_eq, panics]
  exact congrArg Except.ok (panicView_statusOf _ _ _ _ file)

theorem view_panicCount (clocks : ScanClocks) (listing : PstoreListing) (file : StateFile) :
    (CrashProbe.view clocks listing file).toOption.map PanicView.panicCount =
      some (UInt32.ofNat (panicEntries clocks (reachedEntries listing.entries)).length) := by
  rw [CrashProbe.view, PstoreListing.pstore, collect_eq]
  show some (UInt32.ofNat (panicArtifacts clocks listing.entries).length) = _
  rw [(panicArtifacts_perm clocks listing.entries).length_eq, List.length_map]

theorem showsPanics_keeping (listing : PstoreListing) :
    (listing.keeping PstoreEntry.isPanicFile).ShowsPanics := by
  have none : hiddenEntries (listing.keeping PstoreEntry.isPanicFile).entries = [] :=
    List.dropWhile_eq_nil_iff.mpr fun entry member =>
      isPanicFile_answered (List.mem_filter.mp member).2
  rintro ⟨entry, member, _⟩
  rw [none] at member
  cases member

theorem panicEntries_keeping (clocks : ScanClocks) (listing : PstoreListing) :
    panicEntries (clocks.keeping listing.entries PstoreEntry.isPanicFile)
        (listing.keeping PstoreEntry.isPanicFile).entries =
      panicEntries clocks listing.entries := by
  rw [panicEntries, PstoreListing.keeping, keeping_timed, List.filter_filter]
  simp only [Bool.and_self]
  rfl

/-- A listing that hides panic files counts fewer of them than one that lists
nothing else. -/
theorem view_ne_of_hides {clocks : ScanClocks} {listing : PstoreListing} (file : StateFile)
    (few : (panicEntries clocks listing.entries).length < 2 ^ 32)
    (hides : ¬listing.ShowsPanics) :
    ∃ other offset, other.ShowsPanics ∧ SamePanics clocks listing offset other ∧
      CrashProbe.view clocks listing file ≠ CrashProbe.view { clocks with offset } other file := by
  have kept := panicEntries_keeping clocks listing
  have shown := showsPanics_keeping listing
  refine ⟨listing.keeping PstoreEntry.isPanicFile,
    (clocks.keeping listing.entries PstoreEntry.isPanicFile).offset, shown, .of_eq kept.symm, ?_⟩
  intro same
  obtain ⟨missing, split, complete⟩ :=
    filter_timed_split clocks listing.entries PstoreEntry.isPanicFile
  have behind : 0 < missing.length := List.length_pos_iff.mpr fun none => hides (complete.mp none)
  have counts := congrArg (fun view => view.toOption.map PanicView.panicCount) same
  rw [view_panicCount, view_panicCount, panicEntries_reached shown] at counts
  have numbers := congrArg UInt32.toNat ((Option.some.inj counts).trans
    (congrArg (fun found => UInt32.ofNat found.length) kept))
  have parts : (panicEntries clocks listing.entries).length =
      (panicEntries clocks (reachedEntries listing.entries)).length + missing.length :=
    (congrArg List.length split).trans List.length_append
  have fewer : (panicEntries clocks (reachedEntries listing.entries)).length < 2 ^ 32 := by omega
  rw [UInt32.toNat_ofNat_of_lt' fewer, UInt32.toNat_ofNat_of_lt' few] at numbers
  omega

/-- Two listings that show the same panic files agree on the panic fields. A listing
that hides one does not agree with all listings that show them. -/
theorem panic_view_determined_iff (clocks : ScanClocks) (listing : PstoreListing) :
    (listing.ShowsPanics → ∀ other offset file, other.ShowsPanics →
      SamePanics clocks listing offset other →
      CrashProbe.view clocks listing file = CrashProbe.view { clocks with offset } other file) ∧
    ((panicEntries clocks listing.entries).length < 2 ^ 32 →
      ((∀ other offset file, other.ShowsPanics → SamePanics clocks listing offset other →
        CrashProbe.view clocks listing file =
          CrashProbe.view { clocks with offset } other file) ↔ listing.ShowsPanics)) := by
  have enough : listing.ShowsPanics → ∀ other offset file, other.ShowsPanics →
      SamePanics clocks listing offset other →
      CrashProbe.view clocks listing file = CrashProbe.view { clocks with offset } other file :=
    fun shown other offset file otherShown same =>
      view_eq_of_samePanics file shown otherShown same
  refine ⟨enough, fun few => ⟨fun agrees => ?_, enough⟩⟩
  by_contra hides
  obtain ⟨other, offset, shown, same, differs⟩ := view_ne_of_hides .missing few hides
  exact differs (agrees other offset .missing shown same)

def efiDump : PstoreEntry := { name := "dump-type0", fileSize := some 1024 }

def consoleFirst : PstoreListing :=
  ⟨[{ name := "console-ramoops-0" }, panicFile, efiDump], by decide⟩

def dumpFirst : PstoreListing := ⟨[efiDump, panicFile], by decide⟩

theorem consoleFirst_dumpFirst_agree :
    CrashProbe.view { now := 0 } consoleFirst .missing =
      CrashProbe.view { now := 0 } dumpFirst .missing := by
  have shown : ∀ listing : PstoreListing, hiddenEntries listing.entries = [] →
      listing.ShowsPanics := by
    rintro listing none ⟨entry, member, _⟩
    rw [none] at member
    cases member
  have same : SamePanics { now := 0 } consoleFirst (fun _ => 0) dumpFirst := .swap _ _ _
  have first := shown consoleFirst rfl
  exact ((panic_view_determined_iff { now := 0 } consoleFirst).2 (by decide)).mpr first dumpFirst
    (fun _ => 0) .missing (shown dumpFirst rfl) same

def linkLast : PstoreListing := ⟨[panicFile, danglingLink], by decide⟩

theorem panic_view_depends_on_order :
    ¬∀ (clocks : ScanClocks) (listing other : PstoreListing) (offset : Nat → Int)
      (file : StateFile), SamePanics clocks listing offset other →
      CrashProbe.view clocks listing file = CrashProbe.view { clocks with offset } other file := by
  intro claimed
  have same := claimed { now := 0 } linkFirst linkLast (fun _ => 0) .missing (.refl _)
  have counts := congrArg (fun view => view.toOption.map PanicView.panicCount) same
  exact absurd counts (by decide)

end EdgeHealthd
