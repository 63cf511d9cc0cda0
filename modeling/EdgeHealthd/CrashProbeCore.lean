import EdgeHealthd.DaemonCore
import EdgeHealthd.Json
import Mathlib.Data.List.Sort

/-!
Executable `CrashProbe` of `src/probes.cpp`: the scan of the pstore directory,
the fingerprint over its panic artifacts, and the comparison with the
acknowledgement stored in `crash_state.json`.
-/

namespace EdgeHealthd

-- What the filesystem answers for one directory entry; `none` is an error code.
structure PstoreEntry where
  name : String
  isRegularFile : Option Bool := some true
  fileSize : Option UInt64 := none
  lastWriteTime : Option Int := none
  deriving DecidableEq

structure Pstore where
  listing : Option (List PstoreEntry) := none
  deriving DecidableEq

/-- The clock readings of one scan. A file time is converted with two clock
reads of its own, so each entry has its own offset. -/
structure ScanClocks where
  now : WallTime
  bootTime : Option Int := some 0
  offset : Nat → Int := fun _ => 0

def ScanClocks.bootStart (clocks : ScanClocks) : WallTime :=
  clocks.now - seconds (clocks.bootTime.getD 0)

def isPanicArtifactName (name : String) : Bool :=
  "dmesg-".toList.isPrefixOf name.toList || "dump-".toList.isPrefixOf name.toList

def scanEntries (clocks : ScanClocks) : Nat → List PstoreEntry → List CrashArtifact
  | _, [] => []
  | index, entry :: rest =>
      match entry.isRegularFile with
      -- The error code stays set, so the next iteration breaks out of the loop.
      | none => []
      | some false => scanEntries clocks (index + 1) rest
      | some true => {
          name := entry.name
          sizeBytes := entry.fileSize.getD 0
          mtime := entry.lastWriteTime.map (· + clocks.offset index)
          kind := if isPanicArtifactName entry.name then "panic" else "informational"
        } :: scanEntries clocks (index + 1) rest

def fnvOffset : UInt64 := 14695981039346656037

def fnvPrime : UInt64 := 1099511628211

def fingerprintLine (artifact : CrashArtifact) : String :=
  artifact.name ++ ":" ++ toString artifact.sizeBytes.toNat ++ ":" ++
    match artifact.mtime with
    | some mtime => toString (mtime.tdiv 1000000000)
    | none => ""

def toHexU64 (value : UInt64) : String :=
  String.ofList ((Nat.toDigits 16 value.toNat).leftpad 16 '0')

def computeFingerprint (artifacts : List CrashArtifact) : String :=
  toHexU64 (artifacts.foldl (fun hash artifact =>
    (fingerprintLine artifact).toUTF8.data.toList.foldl
      (fun hash byte => (hash ^^^ byte.toUInt64) * fnvPrime) hash) fnvOffset)

-- `std::max_element` by modification time, the first one among equals.
def latestArtifact : List CrashArtifact → Option CrashArtifact
  | [] => none
  | first :: rest => some (rest.foldl (fun latest artifact =>
      if latest.mtime.getD 0 < artifact.mtime.getD 0 then artifact else latest) first)

def CrashProbe.scan (clocks : ScanClocks) (pstore : Pstore) : CrashStatus :=
  let artifacts := (scanEntries clocks 0 (pstore.listing.getD [])).insertionSort
    (fun left right => left.name ≤ right.name)
  let panicArtifacts := artifacts.filter (fun artifact => artifact.kind == "panic")
  let status : CrashStatus := {
    artifactCount := UInt32.ofNat artifacts.length
    artifacts
    present := !artifacts.isEmpty
    panicCount := UInt32.ofNat panicArtifacts.length }
  if panicArtifacts.isEmpty then status
  else { status with
    source := some "pstore"
    lastPanicAt := (latestArtifact panicArtifacts).bind CrashArtifact.mtime
    panicCurrentBoot := panicArtifacts.any fun artifact =>
      match artifact.mtime with
      | none => true
      | some mtime => mtime ≥ clocks.bootStart
    fingerprint := some (computeFingerprint panicArtifacts) }

def acknowledgedFingerprint : StateFile → Option String
  | .json value =>
      match value.field "acknowledged_fingerprint" Json.getString with
      | .ok found => found
      | .error _ => none
  | .missing | .corrupt => none

/-- Without a panic artifact the probe returns before it opens the file; the
comparison is false there as well. -/
def CrashStatus.compareAcknowledged (status : CrashStatus) (file : StateFile) : CrashStatus :=
  { status with
    acknowledged :=
      match acknowledgedFingerprint file, status.fingerprint with
      | some acknowledged, some fingerprint => acknowledged == fingerprint
      | _, _ => false }

def CrashProbe.collect (clocks : ScanClocks) (pstore : Pstore) (file : StateFile) :
    ProbeResult CrashStatus :=
  .ok ((CrashProbe.scan clocks pstore).compareAcknowledged file)

def acknowledgementFile (fingerprint : String) : StateFile :=
  .json (.object [("acknowledged_fingerprint", .string fingerprint)])

theorem acknowledgedFingerprint_acknowledgementFile (fingerprint : String) :
    acknowledgedFingerprint (acknowledgementFile fingerprint) = some fingerprint := by
  simp [acknowledgedFingerprint, acknowledgementFile, Json.field, Json.find?, Json.getString]

theorem compareAcknowledged_iff (status : CrashStatus) (file : StateFile) :
    (status.compareAcknowledged file).acknowledged = true ↔
      ∃ fingerprint, acknowledgedFingerprint file = some fingerprint ∧
        status.fingerprint = some fingerprint := by
  unfold CrashStatus.compareAcknowledged
  cases acknowledgedFingerprint file with
  | none => simp
  | some acknowledged =>
      cases status.fingerprint with
      | none => simp
      | some fingerprint =>
          simp only [beq_iff_eq, Option.some.injEq, exists_eq_left']
          exact eq_comm

end EdgeHealthd
