import EdgeHealthd.AtomicFile
import EdgeHealthd.Library.DiskView
import Mathlib.Data.List.TakeWhile

/-!
What `atomic_write_file` leaves behind, as other programs see it: the target at
every point of the call, and target and temp file at each of its exits. The
errors name the call they come from, so an exit is recognised by its error.
-/

namespace EdgeHealthd

open Durability

theorem parentPath_length_le (path : String) : (parentPath path).length ≤ path.length := by
  have directory := (List.dropWhile_suffix (l := path.toList.reverse) (· != '/')).length_le
  have trimmed := (List.dropWhile_suffix
    (l := path.toList.reverse.dropWhile (· != '/')) (· == '/')).length_le
  simp only [List.length_reverse, String.length_toList] at directory trimmed
  unfold parentPath
  simp only
  split
  · split
    · simp
    · rename_i present
      have nonempty : 0 < (path.toList.reverse.dropWhile (· != '/')).length := by
        rw [List.length_pos_iff]
        simpa using present
      have single : "/".length = 1 := rfl
      omega
  · rw [String.length_ofList, List.length_reverse]
    omega

namespace AtomicWrite

variable (call : AtomicWrite)

theorem parent_length_lt : call.parent.length < call.tmp.length := by
  have bound := parentPath_length_le call.target
  have suffix : ".tmp.".length = 5 := rfl
  have dot : ".".length = 1 := rfl
  simp only [parent, tmp, tempPathFor, String.length_append]
  split <;> omega

def FromOpen (error : AtomicFileError) : Prop := ∃ errno, error = call.openError errno

def FromStaging (error : AtomicFileError) : Prop :=
  ∃ errno, error = call.writeError errno ∨ error = call.fsyncError errno ∨
    error = call.closeError errno ∨ error = call.renameError errno

def FromParent (error : AtomicFileError) : Prop :=
  ∃ errno, error = call.openParentError errno ∨ error = call.fsyncParentError errno

variable {call} {error : AtomicFileError}

theorem FromOpen.not_parent (opening : call.FromOpen error) : ¬call.FromParent error := by
  obtain ⟨errno, rfl⟩ := opening
  rintro ⟨other, same | same⟩
  · have texts := congrArg (fun error => error.message.toList.reverse[7]?) same
    simp [openError, openParentError] at texts
  · have texts := congrArg (fun error => error.message.toList.head?) same
    simp [openError, fsyncParentError] at texts

theorem FromStaging.not_parent (staging : call.FromStaging error) : ¬call.FromParent error := by
  obtain ⟨errno, rfl | rfl | rfl | rfl⟩ := staging
  · rintro ⟨other, same | same⟩
    all_goals
      have texts := congrArg (fun error => error.message.toList.head?) same
      simp [writeError, openParentError, fsyncParentError] at texts
  · rintro ⟨other, same | same⟩
    · have texts := congrArg (fun error => error.message.toList.head?) same
      simp [fsyncError, openParentError] at texts
    · have lengths := congrArg (fun error => error.message.length) same
      have shorter := call.parent_length_lt
      simp only [fsyncError, fsyncParentError, String.length_append] at lengths
      omega
  · rintro ⟨other, same | same⟩
    all_goals
      have texts := congrArg (fun error => error.message.toList.head?) same
      simp [closeError, openParentError, fsyncParentError] at texts
  · rintro ⟨other, same | same⟩
    all_goals
      have texts := congrArg (fun error => error.message.toList.head?) same
      simp [renameError, openParentError, fsyncParentError] at texts

theorem FromStaging.not_open (staging : call.FromStaging error) : ¬call.FromOpen error := by
  rintro ⟨other, same⟩
  obtain ⟨errno, rfl | rfl | rfl | rfl⟩ := staging
  all_goals
    have texts := congrArg (fun error => error.message.toList.head?) same
    simp [writeError, fsyncError, closeError, renameError, openError] at texts

section Phases

variable (call) (start : Disk String UInt8) (removes : Prop)

def Staging (disk : Disk String UInt8) (fd : Nat) (written : List UInt8) : Prop :=
  disk.read call.target = start.read call.target ∧
    disk.find disk.cached call.tmp = some fd ∧ (disk.inodes fd).cached = written

def Moved (disk : Disk String UInt8) : Prop :=
  disk.read call.target = some call.content ∧ disk.cached call.tmp = none

/-- What can be read while the call stands at a phase; `removes` says that the
temp file can be removed. -/
def Shows (disk : Disk String UInt8) : Phase → Prop
  | .opening => ∀ name, disk.read name = start.read name
  | .writing fd remaining =>
      ∃ written, written ++ remaining = call.content ∧ call.Staging start disk fd written
  | .syncing fd | .closing fd => call.Staging start disk fd call.content
  | .renamingTmp => ∃ fd, call.Staging start disk fd call.content
  | .openingParent | .syncingParent | .closingParent (.ok _) | .returned (.ok _) =>
      call.Moved disk
  | .closingParent (.error error) => call.FromParent error ∧ call.Moved disk
  | .abandoning _ error | .removing error =>
      call.FromStaging error ∧ disk.read call.target = start.read call.target
  | .returned (.error error) =>
      (call.FromParent error ∧ call.Moved disk) ∨
        (call.FromOpen error ∧ ∀ name, disk.read name = start.read name) ∨
        (call.FromStaging error ∧ disk.read call.target = start.read call.target ∧
          (removes → disk.cached call.tmp = none))

def Removing (state : WriteState) (event : WriteEvent) : Prop :=
  ∀ error errno, state.phase = .removing error → event ≠ .returns (.failed errno)

end Phases

section Runs

variable {start disk : Disk String UInt8} {removes : Prop}

theorem Staging.append {fd : Nat} {written : List UInt8}
    (staging : call.Staging start disk fd written) (apart : disk.Apart call.target call.tmp)
    (more : List UInt8) :
    (disk.append fd more).Apart call.target call.tmp ∧
      call.Staging start (disk.append fd more) fd (written ++ more) := by
  obtain ⟨stays, read, found⟩ := apart.append staging.2.1 more
  refine ⟨stays, read.trans staging.1, found, ?_⟩
  simp [Disk.append, Disk.setInode, staging.2.2]

theorem Staging.syncFile {fd : Nat} {written : List UInt8}
    (staging : call.Staging start disk fd written) (apart : disk.Apart call.target call.tmp) :
    (disk.syncFile fd).Apart call.target call.tmp ∧
      call.Staging start (disk.syncFile fd) fd written := by
  obtain ⟨stays, read, found⟩ := apart.syncFile staging.2.1
  refine ⟨stays, read.trans staging.1, found, ?_⟩
  simp [Disk.syncFile, Disk.setInode, staging.2.2]

theorem shows_loop {fd : Nat} {written remaining : List UInt8}
    (split : written ++ remaining = call.content)
    (staging : call.Staging start disk fd written) :
    call.Shows start removes disk (loop fd remaining) := by
  unfold loop
  cases remaining with
  | nil =>
      rw [List.append_nil] at split
      subst split
      exact staging
  | cons byte rest => exact ⟨written, split, staging⟩

theorem shows_syscall {phase : Phase} {outcome : Outcome} {after : WriteState}
    (apart : disk.Apart call.target call.tmp) (shows : call.Shows start removes disk phase)
    (removing : removes → Removing ⟨disk, phase⟩ (.returns outcome))
    (taken : call.syscall disk phase outcome = some after) :
    after.disk.Apart call.target call.tmp ∧ call.Shows start removes after.disk after.phase := by
  cases phase with
  | opening =>
      cases outcome <;> simp only [syscall, reduceCtorEq, Option.some.injEq] at taken
      case success =>
        obtain ⟨opened, done, rfl⟩ := Option.map_eq_some_iff.mp taken
        obtain ⟨stays, read, found, empty⟩ := Disk.openTruncate_visible apart done
        exact ⟨stays, shows_loop (List.nil_append _) ⟨read.trans (shows _), found, empty⟩⟩
      case failed errno =>
        subst taken
        exact ⟨apart, Or.inr (Or.inl ⟨⟨errno, rfl⟩, shows⟩)⟩
  | writing fd remaining =>
      obtain ⟨written, split, staging⟩ := shows
      cases outcome <;> simp only [syscall, reduceCtorEq] at taken
      case wrote count =>
        split at taken
        · obtain rfl := Option.some.inj taken
          obtain ⟨kept, longer⟩ := staging.append apart (remaining.take count)
          refine ⟨kept, shows_loop ?_ longer⟩
          rw [List.append_assoc, List.take_append_drop, split]
        · cases taken
      case failed errno =>
        split at taken
        · obtain rfl := Option.some.inj taken
          exact ⟨apart, written, split, staging⟩
        · obtain rfl := Option.some.inj taken
          exact ⟨apart, ⟨errno, Or.inl rfl⟩, staging.1⟩
  | syncing fd =>
      cases outcome <;> simp only [syscall, reduceCtorEq, Option.some.injEq] at taken
      case success =>
        subst taken
        exact Staging.syncFile shows apart
      case failed errno =>
        subst taken
        exact ⟨apart, ⟨errno, Or.inr (Or.inl rfl)⟩, shows.1⟩
  | closing fd =>
      cases outcome <;> simp only [syscall, reduceCtorEq, Option.some.injEq] at taken
      case success =>
        subst taken
        exact ⟨apart, fd, shows⟩
      case failed errno =>
        subst taken
        exact ⟨apart, ⟨errno, Or.inr (Or.inr (Or.inl rfl))⟩, shows.1⟩
  | renamingTmp =>
      obtain ⟨fd, staging⟩ := shows
      cases outcome <;> simp only [syscall, reduceCtorEq, Option.some.injEq] at taken
      case success =>
        obtain ⟨renamed, done, rfl⟩ := Option.map_eq_some_iff.mp taken
        obtain ⟨stays, read, gone⟩ := Disk.rename_visible apart staging.2.1 done
        exact ⟨stays, read.trans (congrArg some staging.2.2), gone⟩
      case failed errno =>
        subst taken
        exact ⟨apart, ⟨errno, Or.inr (Or.inr (Or.inr rfl))⟩, staging.1⟩
  | openingParent =>
      cases outcome <;> simp only [syscall, reduceCtorEq, Option.some.injEq] at taken
      case success =>
        subst taken
        exact ⟨apart, shows⟩
      case failed errno =>
        subst taken
        exact ⟨apart, Or.inl ⟨⟨errno, Or.inl rfl⟩, shows⟩⟩
  | syncingParent =>
      cases outcome <;> simp only [syscall, reduceCtorEq, Option.some.injEq] at taken
      case success =>
        subst taken
        exact ⟨apart.alike ⟨rfl, rfl, fun _ => rfl, fun _ => rfl⟩, shows⟩
      case failed errno =>
        subst taken
        exact ⟨apart, ⟨errno, Or.inr rfl⟩, shows⟩
  | closingParent result =>
      cases outcome <;> simp only [syscall, reduceCtorEq, Option.some.injEq] at taken
      all_goals
        subst taken
        refine ⟨apart, ?_⟩
        cases result with
        | ok _ => exact shows
        | error error => exact Or.inl shows
  | abandoning fd error =>
      cases outcome <;> simp only [syscall, reduceCtorEq, Option.some.injEq] at taken
      all_goals
        subst taken
        exact ⟨apart, shows⟩
  | removing error =>
      cases outcome <;> simp only [syscall, reduceCtorEq, Option.some.injEq] at taken
      case success =>
        subst taken
        obtain ⟨stays, read, gone⟩ := Disk.unlink_visible apart
        exact ⟨stays, Or.inr (Or.inr ⟨shows.1, read.trans shows.2, fun _ => gone⟩)⟩
      case failed errno =>
        subst taken
        refine ⟨apart, Or.inr (Or.inr ⟨shows.1, shows.2, fun held => ?_⟩)⟩
        exact absurd rfl (removing held error errno rfl)
  | returned result =>
      cases outcome <;> simp [syscall] at taken

theorem Staging.writeBack {after : Disk String UInt8} {fd : Nat} {written : List UInt8}
    {action : WriteBack UInt8} (staging : call.Staging start disk fd written)
    (done : disk.writeBack action = some after) : call.Staging start after fd written := by
  have alike := Disk.alike_writeBack done
  exact ⟨(alike.read _).trans staging.1, (alike.find _).trans staging.2.1,
    (alike.data fd).trans staging.2.2⟩

theorem shows_kernel {after : Disk String UInt8} {phase : Phase} {action : WriteBack UInt8}
    (shows : call.Shows start removes disk phase) (done : disk.writeBack action = some after) :
    call.Shows start removes after phase := by
  have alike := Disk.alike_writeBack done
  have same : ∀ name, after.read name = disk.read name := alike.read
  cases phase with
  | opening =>
      intro name
      rw [same]
      exact shows name
  | writing fd remaining =>
      obtain ⟨written, split, staging⟩ := shows
      exact ⟨written, split, staging.writeBack done⟩
  | syncing fd | closing fd => exact Staging.writeBack shows done
  | renamingTmp =>
      obtain ⟨fd, staging⟩ := shows
      exact ⟨fd, staging.writeBack done⟩
  | openingParent | syncingParent | abandoning fd error | removing error =>
      simpa only [Shows, Moved, same, alike.entries] using shows
  | closingParent result | returned result =>
      cases result <;> simpa only [Shows, Moved, same, alike.entries] using shows

theorem throughout_shows (apart : start.Apart call.target call.tmp) {events : List WriteEvent}
    (allowed : Machine.EachStep call.step ⟨start, .opening⟩
      (fun state event => removes → Removing state event) events) :
    Machine.Throughout call.step ⟨start, .opening⟩
      (fun state => state.disk.Apart call.target call.tmp ∧
        call.Shows start removes state.disk state.phase)
      events := by
  refine Machine.throughout_of_eachStep _ ⟨apart, fun _ => rfl⟩ ?_ allowed
  rintro state event next ⟨kept, shows⟩ removing taken
  cases event with
  | returns outcome => exact shows_syscall kept shows removing taken
  | kernel action =>
      obtain ⟨after, done, rfl⟩ := Option.map_eq_some_iff.mp taken
      exact ⟨kept.alike (Disk.alike_writeBack done), shows_kernel shows done⟩

theorem Shows.read_target {phase : Phase} (shows : call.Shows start removes disk phase) :
    disk.read call.target = start.read call.target ∨
      disk.read call.target = some call.content := by
  cases phase with
  | opening => exact Or.inl (shows _)
  | writing fd remaining =>
      obtain ⟨_, _, staging⟩ := shows
      exact Or.inl staging.1
  | syncing fd | closing fd => exact Or.inl shows.1
  | renamingTmp =>
      obtain ⟨_, staging⟩ := shows
      exact Or.inl staging.1
  | openingParent | syncingParent => exact Or.inr shows.1
  | closingParent result =>
      cases result with
      | ok _ => exact Or.inr shows.1
      | error error => exact Or.inr shows.2.1
  | abandoning fd error | removing error => exact Or.inl shows.2
  | returned result =>
      cases result with
      | ok _ => exact Or.inr shows.1
      | error error =>
          rcases shows with ⟨_, moved⟩ | ⟨_, same⟩ | ⟨_, same, _⟩
          · exact Or.inr moved.1
          · exact Or.inl (same _)
          · exact Or.inl same

structure Outcomes (call : AtomicWrite) (start : Disk String UInt8) (state : WriteState) :
    Prop where
  whole : state.disk.read call.target = start.read call.target ∨
    state.disk.read call.target = some call.content
  success : state.phase = .returned (.ok ()) →
    state.disk.read call.target = some call.content ∧ state.disk.cached call.tmp = none
  unchanged : ∀ error, state.phase = .returned (.error error) → ¬call.FromParent error →
    state.disk.read call.target = start.read call.target
  replaced : ∀ error, state.phase = .returned (.error error) → call.FromParent error →
    state.disk.read call.target = some call.content
  cleaned : ∀ error, state.phase = .returned (.error error) → ¬call.FromOpen error →
    state.disk.cached call.tmp = none
  untouched : ∀ error, state.phase = .returned (.error error) → call.FromOpen error →
    ∀ name, state.disk.read name = start.read name

theorem Shows.outcomes {state : WriteState}
    (shows : call.Shows start True state.disk state.phase) : Outcomes call start state := by
  refine ⟨shows.read_target, ?_, ?_, ?_, ?_, ?_⟩
  · intro success
    rw [success] at shows
    exact shows
  all_goals
    intro error failed source
    rw [failed] at shows
    rcases shows with ⟨parent, moved⟩ | ⟨opening, same⟩ | ⟨staging, same, gone⟩
  · exact absurd parent source
  · exact same _
  · exact same
  · exact moved.1
  · exact absurd source opening.not_parent
  · exact absurd source staging.not_parent
  · exact moved.2
  · exact absurd opening source
  · exact gone trivial
  · exact absurd parent source.not_parent
  · exact same
  · exact absurd source staging.not_open

/-- At every point of the call the target shows its old content or the complete
new one; each exit leaves the target and the temp file as its result tells. -/
theorem atomicWriteFile_outcomes (call : AtomicWrite) (disk : Disk String UInt8)
    (apart : disk.Apart call.target call.tmp) (events : List WriteEvent)
    (removing : Machine.EachStep call.step ⟨disk, .opening⟩ Removing events) :
    Machine.Throughout call.step ⟨disk, .opening⟩ (Outcomes call disk) events := by
  have allowed : Machine.EachStep call.step ⟨disk, .opening⟩
      (fun state event => True → Removing state event) events := by
    intro past event rest state shape reached _
    exact removing past event rest state shape reached
  exact (throughout_shows apart allowed).imp fun state shown => shown.2.outcomes

theorem apart_restingDisk (content leftover : Option (List UInt8)) :
    (restingDisk content leftover).Apart bracesWrite.target bracesWrite.tmp :=
  Disk.apart_atRest bracesWrite.tmp_ne_target content leftover

def fullDisk : List WriteEvent :=
  [.returns .success, .returns (.wrote 1), .returns (.failed eintr), .returns (.failed 28),
    .returns .success, .returns .success]

theorem atomicWriteFile_outcomes_full :
    ∃ state, bracesWrite.run (restingDisk (some [91, 93]) none) fullDisk = some state ∧
      state.phase = .returned (.error (bracesWrite.writeError 28)) ∧
      state.disk.read "crash_state.json" = some [91, 93] ∧
      state.disk.cached "crash_state.json.tmp.7" = none := by
  have removing : Machine.EachStep bracesWrite.step ⟨restingDisk (some [91, 93]) none, .opening⟩
      Removing fullDisk :=
    .cons nofun rfl (.cons nofun rfl (.cons nofun rfl (.cons nofun rfl
      (.cons nofun rfl (.cons nofun rfl .nil)))))
  have outcomes := atomicWriteFile_outcomes bracesWrite _ (apart_restingDisk _ _) fullDisk removing
    _ [] _ (List.append_nil _).symm rfl
  have source : bracesWrite.FromStaging (bracesWrite.writeError 28) := ⟨28, Or.inl rfl⟩
  exact ⟨_, rfl, rfl, outcomes.unchanged _ rfl source.not_parent,
    outcomes.cleaned _ rfl source.not_open⟩

/-- A temp file that an earlier process with the same pid left behind outlives a call that
cannot open it; one that leads to the target by a link lets the call empty the target. -/
theorem leftover_temp_interferes :
    (¬∀ (call : AtomicWrite) (disk : Disk String UInt8) (events : List WriteEvent)
      (state : WriteState) (error : AtomicFileError), disk.Apart call.target call.tmp →
      Machine.EachStep call.step ⟨disk, .opening⟩ Removing events →
      call.run disk events = some state → state.phase = .returned (.error error) →
      state.disk.cached call.tmp = none) ∧
    ∀ disk ∈ [linkedDisk, symlinkedDisk],
      ¬∀ (events : List WriteEvent) (state : WriteState),
        Machine.EachStep bracesWrite.step ⟨disk, .opening⟩ Removing events →
        bracesWrite.run disk events = some state →
        state.disk.read bracesWrite.target = disk.read bracesWrite.target ∨
          state.disk.read bracesWrite.target = some bracesWrite.content := by
  refine ⟨fun claimed => ?_, ?_⟩
  · have gone := claimed bracesWrite (restingDisk none (some [123])) [.returns (.failed 24)] _ _
      (apart_restingDisk _ _) (.cons nofun rfl .nil) rfl rfl
    have left : (restingDisk none (some [123])).cached bracesWrite.tmp = some 1 := rfl
    exact absurd (left.symm.trans gone) (by simp)
  · rintro disk member claimed
    rcases List.mem_cons.mp member with rfl | member
    · have whole := claimed [.returns .success] _ (.cons nofun rfl .nil) rfl
      exact absurd whole (by decide)
    · obtain rfl := List.mem_singleton.mp member
      have whole := claimed [.returns .success] _ (.cons nofun rfl .nil) rfl
      exact absurd whole (by decide)

end Runs

end AtomicWrite

end EdgeHealthd
