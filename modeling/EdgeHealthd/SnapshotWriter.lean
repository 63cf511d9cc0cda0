import EdgeHealthd.AtomicOutcome
import EdgeHealthd.LoggingCore
import EdgeHealthd.Sections
import EdgeHealthd.SnapshotJsonCore
import Mathlib

/-!
`SnapshotWriter` of `src/writer.cpp` over the writes of a whole run. A write makes the
directory, serializes and calls `atomic_write_file`; whatever the system calls return, a reader
of the file finds what it held before the run or one whole document of the run, and a later one
of the run as time goes on. A new run counts its cycles from 1 again.
-/

namespace EdgeHealthd

open Durability Machine

structure WriterError where
  message : String
  code : Int := 0
  deriving DecidableEq

structure SnapshotWriter where
  outputPath : String
  pid : Nat
  -- `json::serialize`, or what its exception says.
  serialize : SnapshotState → Except String (List UInt8)

namespace SnapshotWriter

/-- `created` is the error code of `create_directories`. -/
def ensureDirectory (writer : SnapshotWriter) (created : Except Int Unit) :
    Except WriterError Unit :=
  match created with
  | .ok () => .ok ()
  | .error code => .error {
      message := "Failed to create directory: " ++ parentPath writer.outputPath
      code }

def writeAtomic (writer : SnapshotWriter) (content : List UInt8) : AtomicWrite :=
  ⟨writer.outputPath, content, writer.pid⟩

def result : Except AtomicFileError Unit → Except WriterError Unit
  | .ok () => .ok ()
  | .error error => .error { message := error.message, code := error.code }

def outcome : Except WriterError Unit → Log.WriteOutcome
  | .ok () => .written
  | .error error => .failed error.message

end SnapshotWriter

structure PendingWrite where
  state : SnapshotState
  call : AtomicWrite
  phase : Phase

/-- The file and the writer in front of it, with what has happened so far, oldest first. -/
structure SnapshotFile where
  disk : Disk String UInt8
  writing : Option PendingWrite := none
  given : List SnapshotState := []
  renamed : List SnapshotState := []
  results : List (SnapshotState × Log.WriteOutcome) := []

inductive FileAction where
  | write (state : SnapshotState) (created : Except Int Unit)
  | returns (outcome : Outcome)
  | kernel (action : WriteBack UInt8)

def movesFile : Phase → Outcome → Bool
  | .renamingTmp, .success => true
  | _, _ => false

namespace SnapshotFile

def finish (file : SnapshotFile) (state : SnapshotState) (outcome : Log.WriteOutcome) :
    SnapshotFile :=
  { file with writing := none, results := file.results ++ [(state, outcome)] }

def proceed (file : SnapshotFile) (pending : PendingWrite) : SnapshotFile :=
  match pending.phase with
  | .returned result =>
      file.finish pending.state (SnapshotWriter.outcome (SnapshotWriter.result result))
  | _ => { file with writing := some pending }

def start (writer : SnapshotWriter) (file : SnapshotFile) (state : SnapshotState)
    (created : Except Int Unit) : SnapshotFile :=
  let file := { file with given := file.given ++ [state] }
  match writer.ensureDirectory created with
  | .error error => file.finish state (SnapshotWriter.outcome (.error error))
  | .ok () =>
      match writer.serialize state with
      | .error what => file.finish state (.threw what)
      | .ok content =>
          { file with writing := some ⟨state, writer.writeAtomic content, .opening⟩ }

def step (writer : SnapshotWriter) (file : SnapshotFile) : FileAction → Option SnapshotFile
  | .write state created =>
      if file.writing.isSome then none else some (file.start writer state created)
  | .returns outcome => do
      let pending ← file.writing
      let next ← pending.call.syscall file.disk pending.phase outcome
      let renamed :=
        if movesFile pending.phase outcome then file.renamed ++ [pending.state] else file.renamed
      some ({ file with disk := next.disk, renamed }.proceed { pending with phase := next.phase })
  | .kernel action => (file.disk.writeBack action).map fun disk => { file with disk }

end SnapshotFile

namespace AtomicWrite

variable {call : AtomicWrite} {start disk : Disk String UInt8} {removes : Prop}

theorem read_target_syscall {phase : Phase} {outcome : Outcome} {after : WriteState}
    (apart : disk.Apart call.target call.tmp) (shows : call.Shows start removes disk phase)
    (taken : call.syscall disk phase outcome = some after) :
    after.disk.read call.target =
      if movesFile phase outcome then some call.content else disk.read call.target := by
  cases phase with
  | opening =>
      cases outcome <;> simp only [syscall, reduceCtorEq, Option.some.injEq] at taken
      case success =>
        obtain ⟨opened, done, rfl⟩ := Option.map_eq_some_iff.mp taken
        exact (Disk.openTruncate_visible apart done).2.1
      case failed errno => subst taken; rfl
  | writing fd remaining =>
      obtain ⟨written, _, staging⟩ := shows
      cases outcome <;> simp only [syscall, reduceCtorEq] at taken
      case wrote count =>
        split at taken
        · obtain rfl := Option.some.inj taken
          exact (apart.append staging.2.1 _).2.1
        · cases taken
      case failed errno =>
        split at taken <;> (obtain rfl := Option.some.inj taken; rfl)
  | syncing fd =>
      cases outcome <;> simp only [syscall, reduceCtorEq, Option.some.injEq] at taken
      case success =>
        subst taken
        exact (apart.syncFile shows.2.1).2.1
      case failed errno => subst taken; rfl
  | renamingTmp =>
      obtain ⟨fd, _, found, content⟩ := shows
      cases outcome <;> simp only [syscall, reduceCtorEq, Option.some.injEq] at taken
      case success =>
        obtain ⟨moved, renamed, rfl⟩ := Option.map_eq_some_iff.mp taken
        have visible := Disk.rename_visible apart found renamed
        exact visible.2.1.trans (congrArg some content)
      case failed errno => subst taken; rfl
  | removing error =>
      cases outcome <;> simp only [syscall, reduceCtorEq, Option.some.injEq] at taken
      case success =>
        subst taken
        exact (Disk.unlink_visible apart).2.1
      case failed errno => subst taken; rfl
  | closing fd | openingParent | syncingParent | closingParent result | abandoning fd error =>
      cases outcome <;> simp only [syscall, reduceCtorEq, Option.some.injEq] at taken
      all_goals subst taken; rfl
  | returned result => cases outcome <;> simp [syscall] at taken

end AtomicWrite

namespace SnapshotFile

section Order

variable {given renamed : List SnapshotState} {state : SnapshotState}

/-- Where the state stands among those that were given and those that were renamed. -/
def Placed (given renamed : List SnapshotState) (state : SnapshotState) : Phase → Prop
  | .opening | .writing _ _ | .syncing _ | .closing _ | .renamingTmp =>
      (renamed ++ [state]).Sublist given
  | .openingParent | .syncingParent | .closingParent _ | .returned (.ok _) =>
      renamed.getLast? = some state
  | .abandoning _ _ | .removing _ | .returned (.error _) => True

theorem placed_loop {fd : Nat} {remaining : List UInt8}
    (later : (renamed ++ [state]).Sublist given) :
    Placed given renamed state (AtomicWrite.loop fd remaining) := by
  unfold AtomicWrite.loop
  split <;> exact later

theorem placed_of_moves {phase : Phase} {outcome : Outcome}
    (placed : Placed given renamed state phase) (moves : movesFile phase outcome = true) :
    (renamed ++ [state]).Sublist given := by
  unfold movesFile at moves
  split at moves
  · exact placed
  · cases moves

theorem placed_syscall {call : AtomicWrite} {disk : Disk String UInt8} {phase : Phase}
    {outcome : Outcome} {after : WriteState} (placed : Placed given renamed state phase)
    (taken : call.syscall disk phase outcome = some after) :
    Placed given (if movesFile phase outcome then renamed ++ [state] else renamed) state
      after.phase := by
  cases phase with
  | opening =>
      cases outcome <;> simp only [AtomicWrite.syscall, reduceCtorEq, Option.some.injEq] at taken
      case success =>
        obtain ⟨_, _, rfl⟩ := Option.map_eq_some_iff.mp taken
        exact placed_loop placed
      case failed errno => subst taken; trivial
  | writing fd remaining =>
      cases outcome <;> simp only [AtomicWrite.syscall, reduceCtorEq] at taken
      case wrote count =>
        split at taken
        · obtain rfl := Option.some.inj taken
          exact placed_loop placed
        · cases taken
      case failed errno =>
        split at taken
        · obtain rfl := Option.some.inj taken
          exact placed
        · obtain rfl := Option.some.inj taken
          trivial
  | renamingTmp =>
      cases outcome <;> simp only [AtomicWrite.syscall, reduceCtorEq, Option.some.injEq] at taken
      case success =>
        obtain ⟨_, _, rfl⟩ := Option.map_eq_some_iff.mp taken
        exact List.getLast?_concat
      case failed errno => subst taken; trivial
  | syncing fd | closing fd | openingParent | syncingParent =>
      cases outcome <;> simp only [AtomicWrite.syscall, reduceCtorEq, Option.some.injEq] at taken
      all_goals subst taken; first | exact placed | trivial
  | abandoning fd error | removing error =>
      cases outcome <;> simp only [AtomicWrite.syscall, reduceCtorEq, Option.some.injEq] at taken
      all_goals subst taken; trivial
  | closingParent result =>
      cases outcome <;> simp only [AtomicWrite.syscall, reduceCtorEq, Option.some.injEq] at taken
      all_goals
        subst taken
        cases result with
        | ok _ => exact placed
        | error error => trivial
  | returned result => cases outcome <;> simp [AtomicWrite.syscall] at taken

end Order

section Runs

variable (writer : SnapshotWriter) (old : Option (List UInt8))

/-- What a reader finds: the document of the state that was renamed last, or what was there
before the run. -/
def Whole (renamed : List SnapshotState) (disk : Disk String UInt8) : Prop :=
  match renamed.getLast? with
  | none => disk.read writer.outputPath = old
  | some state => ∃ content, writer.serialize state = .ok content ∧
      disk.read writer.outputPath = some content

structure PendingSound (disk : Disk String UInt8) (given renamed : List SnapshotState)
    (pending : PendingWrite) : Prop where
  call : ∃ content, writer.serialize pending.state = .ok content ∧
    pending.call = writer.writeAtomic content
  shows : ∃ start, pending.call.Shows start False disk pending.phase
  placed : Placed given renamed pending.state pending.phase

structure Sound (file : SnapshotFile) : Prop where
  apart : file.disk.Apart writer.outputPath (tempPathFor writer.outputPath writer.pid)
  whole : Whole writer old file.renamed file.disk
  order : file.renamed.Sublist file.given
  written : ∀ state, (state, .written) ∈ file.results → state ∈ file.renamed
  pending : ∀ pending, file.writing = some pending →
    PendingSound writer file.disk file.given file.renamed pending

variable {writer old} {file next : SnapshotFile}

theorem Whole.of_read {renamed : List SnapshotState} {disk after : Disk String UInt8}
    (whole : Whole writer old renamed disk)
    (same : after.read writer.outputPath = disk.read writer.outputPath) :
    Whole writer old renamed after := by
  unfold Whole at whole ⊢
  rw [same]
  exact whole

theorem Sound.finish (sound : Sound writer old file) (state : SnapshotState)
    {outcome : Log.WriteOutcome} (done : outcome = .written → state ∈ file.renamed) :
    Sound writer old (file.finish state outcome) := by
  refine ⟨sound.apart, sound.whole, sound.order, ?_, ?_⟩
  · intro other member
    rcases List.mem_append.mp member with before | new
    · exact sound.written other before
    · obtain ⟨rfl, written⟩ := Prod.mk.inj (List.mem_singleton.mp new)
      exact done written.symm
  · intro pending found
    cases found

theorem Sound.start (sound : Sound writer old file) (idle : file.writing = none)
    (state : SnapshotState) (created : Except Int Unit) :
    Sound writer old (file.start writer state created) := by
  have more : Sound writer old { file with given := file.given ++ [state] } := by
    refine ⟨sound.apart, sound.whole, sound.order.trans (List.sublist_append_left _ _),
      sound.written, ?_⟩
    intro pending found
    cases idle.symm.trans found
  unfold SnapshotFile.start
  cases writer.ensureDirectory created with
  | error error => exact more.finish state nofun
  | ok _ =>
      cases serialized : writer.serialize state with
      | error what => exact more.finish state nofun
      | ok content =>
          refine ⟨more.apart, more.whole, more.order, more.written, ?_⟩
          rintro pending ⟨⟩
          exact ⟨⟨content, serialized, rfl⟩, ⟨file.disk, fun _ => rfl⟩,
            sound.order.append (List.Sublist.refl _)⟩

theorem Sound.proceed (sound : Sound writer old { file with writing := none })
    {pending : PendingWrite}
    (kept : PendingSound writer file.disk file.given file.renamed pending) :
    Sound writer old (file.proceed pending) := by
  obtain ⟨state, call, phase⟩ := pending
  have goesOn : Sound writer old { file with writing := some ⟨state, call, phase⟩ } := by
    refine ⟨sound.apart, sound.whole, sound.order, sound.written, ?_⟩
    rintro pending ⟨⟩
    exact kept
  cases phase with
  | returned result =>
      refine sound.finish state ?_
      intro written
      cases result with
      | ok _ => exact List.mem_of_getLast? kept.placed
      | error error => cases written
  | opening | writing _ _ | syncing _ | closing _ | renamingTmp => exact goesOn
  | openingParent | syncingParent | closingParent _ => exact goesOn
  | abandoning _ _ | removing _ => exact goesOn

theorem Sound.step (sound : Sound writer old file) {action : FileAction}
    (taken : file.step writer action = some next) : Sound writer old next := by
  cases action with
  | write state created =>
      simp only [SnapshotFile.step] at taken
      split at taken
      · cases taken
      · cases taken
        exact sound.start (by simpa using ‹¬file.writing.isSome = true›) state created
  | returns outcome =>
      simp only [SnapshotFile.step, Option.bind_eq_bind, Option.bind_eq_some_iff,
        Option.some.injEq] at taken
      obtain ⟨pending, found, after, called, rfl⟩ := taken
      obtain ⟨⟨content, serialized, same⟩, ⟨start, shows⟩, placed⟩ := sound.pending pending found
      have apart : file.disk.Apart pending.call.target pending.call.tmp := by
        rw [same]
        exact sound.apart
      obtain ⟨stays, shown⟩ := AtomicWrite.shows_syscall apart shows nofun called
      have read := AtomicWrite.read_target_syscall apart shows called
      have next := placed_syscall placed called
      rw [same] at stays read
      refine Sound.proceed ⟨stays, ?_, ?_, ?_, fun _ found => by cases found⟩
        ⟨⟨content, serialized, same⟩, ⟨start, shown⟩, next⟩
      · cases moved : movesFile pending.phase outcome with
        | false =>
            rw [moved, if_neg Bool.false_ne_true] at read
            exact sound.whole.of_read read
        | true =>
            rw [moved, if_pos rfl] at read
            simp only [if_true, Whole, List.getLast?_concat]
            exact ⟨content, serialized, read⟩
      · cases moved : movesFile pending.phase outcome with
        | false => exact sound.order
        | true => exact placed_of_moves placed moved
      · intro state member
        have before := sound.written state member
        dsimp only
        split
        · exact List.mem_append_left _ before
        · exact before
  | kernel action =>
      obtain ⟨disk, done, rfl⟩ := Option.map_eq_some_iff.mp taken
      have alike := Disk.alike_writeBack done
      refine ⟨sound.apart.alike alike, sound.whole.of_read (alike.read _), sound.order,
        sound.written, ?_⟩
      intro pending found
      obtain ⟨call, ⟨start, shows⟩, placed⟩ := sound.pending pending found
      exact ⟨call, ⟨start, AtomicWrite.shows_kernel shows done⟩, placed⟩

theorem sound_run {disk : Disk String UInt8}
    (apart : disk.Apart writer.outputPath (tempPathFor writer.outputPath writer.pid))
    {actions : List FileAction} (run : follow (step writer) { disk } actions = some next) :
    Sound writer (disk.read writer.outputPath) next := by
  have initial : Sound writer (disk.read writer.outputPath) { disk } := by
    refine ⟨apart, rfl, List.Sublist.refl _, ?_, ?_⟩
    · intro state member
      cases member
    · intro pending found
      cases found
  exact follow_preserves (Sound writer (disk.read writer.outputPath)) (fun _ => True)
    (fun _ _ _ _ sound taken => sound.step taken) run (fun _ _ => trivial) initial

theorem step_renamed {action : FileAction} (taken : file.step writer action = some next) :
    ∃ newer, next.renamed = file.renamed ++ newer := by
  cases action with
  | write state created =>
      simp only [SnapshotFile.step] at taken
      split at taken
      · cases taken
      · cases taken
        refine ⟨[], ?_⟩
        unfold SnapshotFile.start
        repeat' split
        all_goals exact (List.append_nil _).symm
  | returns outcome =>
      simp only [SnapshotFile.step, Option.bind_eq_bind, Option.bind_eq_some_iff,
        Option.some.injEq] at taken
      obtain ⟨pending, _, after, _, rfl⟩ := taken
      have kept (file : SnapshotFile) (pending : PendingWrite) :
          (file.proceed pending).renamed = file.renamed := by
        unfold SnapshotFile.proceed
        split <;> rfl
      rw [kept]
      dsimp only
      split
      · exact ⟨_, rfl⟩
      · exact ⟨[], (List.append_nil _).symm⟩
  | kernel action =>
      obtain ⟨disk, _, rfl⟩ := Option.map_eq_some_iff.mp taken
      exact ⟨[], (List.append_nil _).symm⟩

theorem run_renamed {actions : List FileAction} {final : SnapshotFile} : ∀ file,
    follow (step writer) file actions = some final →
      ∃ newer, final.renamed = file.renamed ++ newer := by
  induction actions with
  | nil =>
      intro file run
      cases run
      exact ⟨[], (List.append_nil _).symm⟩
  | cons action rest ih =>
      intro file run
      obtain ⟨next, taken, later⟩ := follow_cons_some.mp run
      obtain ⟨first, renamed⟩ := step_renamed taken
      obtain ⟨second, more⟩ := ih next later
      refine ⟨first ++ second, ?_⟩
      rw [more, renamed, List.append_assoc]

end Runs

section Cycles

variable (config : Config) (loadPct : CpuLoad → Double) (healthManager : Option HealthManager)

theorem collectionCycle_cycle (daemon : Daemon) (input : CycleInput) :
    (collectionCycle config loadPct daemon input).2.snapshot.cycle = daemon.cycleCount + 1 ∧
      (collectionCycle config loadPct daemon input).1.cycleCount = daemon.cycleCount + 1 := by
  refine ⟨rfl, ?_⟩
  unfold collectionCycle Collection.finish Daemon.notifyManager
  dsimp only
  split <;> rfl

theorem runCycles_cycles (inputs : List CycleInput) :
    (runCycles config loadPct healthManager inputs).1.cycleCount = UInt64.ofNat inputs.length ∧
      (runCycles config loadPct healthManager inputs).2.map (fun report => report.snapshot.cycle) =
        (List.range inputs.length).map fun index => UInt64.ofNat (index + 1) := by
  induction inputs using List.reverseRecOn with
  | nil => exact ⟨rfl, rfl⟩
  | append_singleton past input ih =>
      obtain ⟨count, cycles⟩ := ih
      obtain ⟨numbered, counted⟩ := collectionCycle_cycle config loadPct
        (runCycles config loadPct healthManager past).1 input
      rw [runCycles_snoc, List.length_append, List.length_singleton, List.range_succ]
      refine ⟨?_, ?_⟩
      · rw [counted, count, UInt64.ofNat_add]
        rfl
      · rw [List.map_append, List.map_append, cycles, List.map_singleton, List.map_singleton,
          numbered, count, UInt64.ofNat_add]
        rfl

theorem runCycles_cycles_increase {inputs : List CycleInput} (few : inputs.length < 2 ^ 64) :
    ((runCycles config loadPct healthManager inputs).2.map CycleReport.snapshot).Pairwise
      fun earlier later => earlier.cycle < later.cycle := by
  have numbered := (runCycles_cycles config loadPct healthManager inputs).2
  have cycles : ((List.range inputs.length).map fun index => UInt64.ofNat (index + 1)).Pairwise
      (· < ·) := by
    rw [List.pairwise_map]
    refine List.Pairwise.imp_of_mem ?_ List.pairwise_lt_range
    intro first second _ inside before
    have bound := List.mem_range.mp inside
    have size : UInt64.size = 2 ^ 64 := rfl
    rw [UInt64.lt_iff_toNat_lt, UInt64.toNat_ofNat_of_lt' (by omega),
      UInt64.toNat_ofNat_of_lt' (by omega)]
    omega
  rw [← numbered, List.pairwise_map] at cycles
  rw [List.pairwise_map]
  exact cycles

end Cycles

/-- What a reader of the file finds at one time and at a later one. -/
structure ReaderSees (writer : SnapshotWriter) (old : Option (List UInt8))
    (earlier later : SnapshotFile) : Prop where
  whole : Whole writer old later.renamed later.disk
  grows : ∃ newer, later.renamed = earlier.renamed ++ newer
  forward : ∀ before now, earlier.renamed.getLast? = some before →
    later.renamed.getLast? = some now → before.cycle ≤ now.cycle
  written : ∀ state, (state, .written) ∈ earlier.results →
    ∃ now, later.renamed.getLast? = some now ∧ state.cycle ≤ now.cycle

theorem cycle_le_getLast {states : List SnapshotState} {state now : SnapshotState}
    (ordered : states.Pairwise fun earlier later => earlier.cycle < later.cycle)
    (member : state ∈ states) (last : states.getLast? = some now) : state.cycle ≤ now.cycle := by
  obtain ⟨front, rfl⟩ := List.getLast?_eq_some_iff.mp last
  rcases List.mem_append.mp member with before | same
  · exact UInt64.le_of_lt ((List.pairwise_append.mp ordered).2.2 state before now
      (List.mem_singleton.mpr rfl))
  · rw [List.mem_singleton.mp same]
    exact UInt64.le_refl _

/-- Over any run of fewer than 2^64 cycles, with any outcome of every system call of every write,
where no link leads from the temp path to the file: a reader finds what the file held before the
run or one whole document of the run, never an older one of the run than before, and never an
older one than the last that was reported as written. -/
theorem snapshot_file_whole (config : Config) (loadPct : CpuLoad → Double)
    (healthManager : Option HealthManager) (inputs : List CycleInput)
    (few : inputs.length < 2 ^ 64) (writer : SnapshotWriter) (disk : Disk String UInt8)
    (apart : disk.Apart writer.outputPath (tempPathFor writer.outputPath writer.pid))
    (first second : List FileAction) (earlier later : SnapshotFile)
    (before : follow (step writer) { disk } first = some earlier)
    (after : follow (step writer) earlier second = some later)
    (given : later.given =
      (runCycles config loadPct healthManager inputs).2.map CycleReport.snapshot) :
    ReaderSees writer (disk.read writer.outputPath) earlier later := by
  have sound : Sound writer (disk.read writer.outputPath) earlier :=
    sound_run apart before
  have lasting : Sound writer (disk.read writer.outputPath) later :=
    sound_run apart (follow_append_some.mpr ⟨earlier, before, after⟩)
  obtain ⟨newer, grown⟩ := run_renamed earlier after
  have ordered : later.renamed.Pairwise fun earlier later => earlier.cycle < later.cycle :=
    (given ▸ runCycles_cycles_increase config loadPct healthManager few).sublist lasting.order
  have reached (state : SnapshotState) (member : state ∈ earlier.renamed) :
      state ∈ later.renamed := grown ▸ List.mem_append_left newer member
  refine ⟨lasting.whole, ⟨newer, grown⟩, ?_, ?_⟩
  · intro shown now found last
    exact cycle_le_getLast ordered (reached shown (List.mem_of_getLast? found)) last
  · intro state done
    have member := reached state (sound.written state done)
    cases last : later.renamed.getLast? with
    | none =>
        rw [List.getLast?_eq_none_iff.mp last] at member
        cases member
    | some now => exact ⟨now, rfl, cycle_le_getLast ordered member last⟩

section Examples

def escape (char : Char) : List Char :=
  if char = '"' ∨ char = '\\' then ['\\', char]
  else if char = '\n' then ['\\', 'n']
  else if char = '\t' then ['\\', 't']
  else if char = '\r' then ['\\', 'r']
  else if char.toNat = 8 then ['\\', 'b']
  else if char.toNat = 12 then ['\\', 'f']
  else if char.toNat < 16 then "\\u000".toList ++ Nat.toDigits 16 char.toNat
  else if char.toNat < 32 then "\\u00".toList ++ Nat.toDigits 16 char.toNat
  else [char]

def quote (value : String) : List Char := '"' :: (value.toList.flatMap escape ++ ['"'])

def bracket (first last : Char) (items : List (List Char)) : List Char :=
  first :: ([','].intercalate items ++ [last])

mutual

def dump (number : Double → List Char) : Json → List Char
  | .null => "null".toList
  | .boolean value => (toString value).toList
  | .integer value => (toString value).toList
  | .float value => number value
  | .string value => quote value
  | .array items => bracket '[' ']' (dumpItems number items)
  | .object members =>
      let sorted := (dumpMembers number members).mergeSort fun first second =>
        decide (first.1 ≤ second.1)
      bracket '\x7b' '\x7d' (sorted.map fun member => quote member.1 ++ ':' :: member.2)

def dumpItems (number : Double → List Char) : List Json → List (List Char)
  | [] => []
  | item :: rest => dump number item :: dumpItems number rest

def dumpMembers (number : Double → List Char) :
    List (String × Json) → List (String × List Char)
  | [] => []
  | (name, value) :: rest => (name, dump number value) :: dumpMembers number rest

end

def stateDocument (state : SnapshotState) : List UInt8 :=
  (dump (fun _ => "0.0".toList) (state.toJson fun _ => "")).flatMap String.utf8EncodeChar

def stateWriter : SnapshotWriter where
  outputPath := "/run/health/state.json"
  pid := 7
  serialize state := .ok (stateDocument state)

variable {writer : SnapshotWriter} {file : SnapshotFile} {state : SnapshotState}

theorem step_wrote {call : AtomicWrite} {fd : Nat} {remaining : List UInt8}
    (writing : file.writing = some ⟨state, call, .writing fd remaining⟩) :
    file.step writer (.returns (.wrote remaining.length)) = some { file with
      disk := file.disk.append fd remaining
      writing := some ⟨state, call, .syncing fd⟩ } := by
  simp [step, writing, AtomicWrite.syscall, AtomicWrite.loop, proceed, movesFile]

def emptyRun : Disk String UInt8 :=
  Disk.atRest "/run/health/state.json" none "/run/health/state.json.tmp.7" none

def stateAfter (inputs : List CycleInput) : SnapshotState :=
  (runCycles {} (fun _ => .finite 0) none inputs).1.currentState

def firstState : SnapshotState := stateAfter [healthyInput 0]

def secondState : SnapshotState := stateAfter [healthyInput 0, healthyInput (seconds 60)]

def firstWrite : List FileAction :=
  .write firstState (.ok ()) :: .returns .success ::
    .returns (.wrote (stateDocument firstState).length) :: List.replicate 6 (.returns .success)

def secondWrite : List FileAction :=
  [.write secondState (.ok ()), .returns .success, .returns (.failed 28), .returns .success,
    .returns .success]

theorem first_document_stays :
    ∃ earlier later, follow (step stateWriter) { disk := emptyRun } firstWrite = some earlier ∧
      follow (step stateWriter) earlier secondWrite = some later ∧
      ReaderSees stateWriter none earlier later ∧
      later.disk.read "/run/health/state.json" = some (stateDocument firstState) := by
  have before : follow (step stateWriter) { disk := emptyRun } firstWrite = some _ :=
    follow_cons_some.mpr ⟨_, rfl, follow_cons_some.mpr ⟨_, rfl,
      follow_cons_some.mpr ⟨_, step_wrote rfl, rfl⟩⟩⟩
  exact ⟨_, _, before, rfl, snapshot_file_whole {} (fun _ => .finite 0) none
    [healthyInput 0, healthyInput (seconds 60)] (by decide) stateWriter emptyRun
    (Disk.apart_atRest (by decide) none none) firstWrite secondWrite _ _ before rfl rfl, rfl⟩

end Examples

end SnapshotFile

end EdgeHealthd
