import EdgeHealthd.AtomicFileCore

/-!
What a power cut can find under the target of `atomic_write_file`. Each system
call the code can stand at comes with what is true of the disk there; the
ordering of the calls keeps that true, whatever they return.
-/

namespace EdgeHealthd

open Durability

namespace AtomicWrite

variable (call : AtomicWrite)

theorem tmp_ne_target : call.tmp ≠ call.target := by
  intro same
  have lengths := congrArg String.length same
  have suffix : ".tmp.".length = 5 := rfl
  simp only [tmp, tempPathFor, String.length_append] at lengths
  omega

/-- What holds of the disk while the call stands at a phase. -/
def Holds (old : Option (List UInt8)) (disk : Disk String UInt8) : Phase → Prop
  | .opening => disk.Stored call.target call.tmp old
  | .writing fd remaining =>
      ∃ written, written ++ remaining = call.content ∧
        disk.Staged call.target call.tmp old fd written
  | .syncing fd => disk.Staged call.target call.tmp old fd call.content
  | .closing fd =>
      disk.Staged call.target call.tmp old fd call.content ∧ disk.Synced fd call.content
  | .renamingTmp =>
      ∃ fd, disk.Staged call.target call.tmp old fd call.content ∧ disk.Synced fd call.content
  | .openingParent | .syncingParent | .closingParent (.error _) =>
      ∃ fd, disk.Replaced call.target call.tmp old fd call.content
  | .closingParent (.ok _) | .returned (.ok _) =>
      disk.Stored call.target call.tmp (some call.content)
  | .abandoning _ _ | .removing _ =>
      ∃ fd written, disk.Staged call.target call.tmp old fd written
  | .returned (.error _) =>
      disk.Stored call.target call.tmp old ∨
        ∃ fd, disk.Replaced call.target call.tmp old fd call.content

variable {call} {old : Option (List UInt8)}

theorem holds_loop {disk : Disk String UInt8} {fd : Nat} {written remaining : List UInt8}
    (split : written ++ remaining = call.content)
    (staged : disk.Staged call.target call.tmp old fd written) :
    call.Holds old disk (loop fd remaining) := by
  unfold loop
  cases remaining with
  | nil =>
      rw [List.append_nil] at split
      subst split
      exact staged
  | cons byte rest => exact ⟨written, split, staged⟩

theorem holds_syscall {disk : Disk String UInt8} {phase : Phase} {outcome : Outcome}
    {after : WriteState} (holds : call.Holds old disk phase)
    (taken : call.syscall disk phase outcome = some after) :
    call.Holds old after.disk after.phase := by
  cases phase with
  | opening =>
      cases outcome <;> simp only [syscall, reduceCtorEq, Option.some.injEq] at taken
      case success =>
        obtain ⟨opened, done, rfl⟩ := Option.map_eq_some_iff.mp taken
        exact holds_loop (List.nil_append _)
          (Disk.Stored.openTruncate holds call.tmp_ne_target done)
      case failed errno =>
        subst taken
        exact Or.inl holds
  | writing fd remaining =>
      obtain ⟨written, split, staged⟩ := holds
      cases outcome <;> simp only [syscall, reduceCtorEq] at taken
      case wrote count =>
        split at taken
        · obtain rfl := Option.some.inj taken
          refine holds_loop (?_ : (written ++ remaining.take count) ++ _ = _) ?_
          · rw [List.append_assoc, List.take_append_drop, split]
          · exact staged.append _
        · simp at taken
      case failed errno =>
        split at taken
        · obtain rfl := Option.some.inj taken
          exact ⟨written, split, staged⟩
        · obtain rfl := Option.some.inj taken
          exact ⟨fd, written, staged⟩
  | syncing fd =>
      cases outcome <;> simp only [syscall, reduceCtorEq, Option.some.injEq] at taken
      case success =>
        subst taken
        exact Disk.Staged.syncFile holds
      case failed errno =>
        subst taken
        exact ⟨fd, call.content, holds⟩
  | closing fd =>
      obtain ⟨staged, synced⟩ := holds
      cases outcome <;> simp only [syscall, reduceCtorEq, Option.some.injEq] at taken
      case success =>
        subst taken
        exact ⟨fd, staged, synced⟩
      case failed errno =>
        subst taken
        exact ⟨fd, call.content, staged⟩
  | renamingTmp =>
      obtain ⟨fd, staged, synced⟩ := holds
      cases outcome <;> simp only [syscall, reduceCtorEq, Option.some.injEq] at taken
      case success =>
        obtain ⟨renamed, done, rfl⟩ := Option.map_eq_some_iff.mp taken
        exact ⟨fd, staged.rename synced call.tmp_ne_target done⟩
      case failed errno =>
        subst taken
        exact ⟨fd, call.content, staged⟩
  | openingParent =>
      cases outcome <;> simp only [syscall, reduceCtorEq, Option.some.injEq] at taken
      case success =>
        subst taken
        exact holds
      case failed errno =>
        subst taken
        exact Or.inr holds
  | syncingParent =>
      obtain ⟨fd, replaced⟩ := holds
      cases outcome <;> simp only [syscall, reduceCtorEq, Option.some.injEq] at taken
      case success =>
        subst taken
        exact replaced.syncDirectory
      case failed errno =>
        subst taken
        exact ⟨fd, replaced⟩
  | closingParent result =>
      cases outcome <;> simp only [syscall, reduceCtorEq, Option.some.injEq] at taken
      all_goals
        subst taken
        cases result with
        | ok _ => exact holds
        | error error => exact Or.inr holds
  | abandoning fd error =>
      cases outcome <;> simp only [syscall, reduceCtorEq, Option.some.injEq] at taken
      all_goals
        subst taken
        exact holds
  | removing error =>
      obtain ⟨fd, written, staged⟩ := holds
      cases outcome <;> simp only [syscall, reduceCtorEq, Option.some.injEq] at taken
      case success =>
        subst taken
        exact Or.inl (staged.unlink call.tmp_ne_target)
      case failed errno =>
        subst taken
        exact Or.inl staged.stored
  | returned result =>
      cases outcome <;> simp [syscall] at taken

theorem holds_kernel {disk after : Disk String UInt8} {phase : Phase} {action : WriteBack UInt8}
    (holds : call.Holds old disk phase) (done : disk.writeBack action = some after) :
    call.Holds old after phase := by
  cases phase with
  | opening => exact Disk.Stored.writeBack holds done
  | writing fd remaining =>
      obtain ⟨written, split, staged⟩ := holds
      exact ⟨written, split, staged.writeBack done⟩
  | syncing fd => exact Disk.Staged.writeBack holds done
  | closing fd => exact ⟨holds.1.writeBack done, holds.2.writeBack done⟩
  | renamingTmp =>
      obtain ⟨fd, staged, synced⟩ := holds
      exact ⟨fd, staged.writeBack done, synced.writeBack done⟩
  | openingParent | syncingParent =>
      obtain ⟨fd, replaced⟩ := holds
      exact ⟨fd, replaced.writeBack done⟩
  | closingParent result =>
      cases result with
      | ok _ => exact Disk.Stored.writeBack holds done
      | error error =>
          obtain ⟨fd, replaced⟩ := holds
          exact ⟨fd, replaced.writeBack done⟩
  | abandoning fd error | removing error =>
      obtain ⟨fd, written, staged⟩ := holds
      exact ⟨fd, written, staged.writeBack done⟩
  | returned result =>
      cases result with
      | ok _ => exact Disk.Stored.writeBack holds done
      | error error =>
          rcases holds with stored | ⟨fd, replaced⟩
          · exact Or.inl (stored.writeBack done)
          · exact Or.inr ⟨fd, replaced.writeBack done⟩

theorem run_holds {disk : Disk String UInt8} {events : List WriteEvent} {state : WriteState}
    (stored : disk.Stored call.target call.tmp old) (run : call.run disk events = some state) :
    call.Holds old state.disk state.phase := by
  refine Machine.follow_preserves (fun state : WriteState => call.Holds old state.disk state.phase)
    (fun _ => True) ?_ run (fun _ _ => trivial) stored
  intro before event next _ holds taken
  cases event with
  | returns outcome => exact holds_syscall holds taken
  | kernel action =>
      obtain ⟨after, done, rfl⟩ := Option.map_eq_some_iff.mp taken
      exact holds_kernel holds done

theorem leaves_of_holds {disk : Disk String UInt8} {phase : Phase}
    (holds : call.Holds old disk phase) :
    disk.Leaves call.target {some call.content, old} := by
  have older : ({old} : Set (Option (List UInt8))) ⊆ {some call.content, old} :=
    Set.subset_insert _ _
  have newer : ({some call.content} : Set (Option (List UInt8))) ⊆ {some call.content, old} := by
    simp
  cases phase with
  | opening => exact (Disk.Stored.leaves holds).mono older
  | writing fd remaining =>
      obtain ⟨_, _, staged⟩ := holds
      exact staged.leaves.mono older
  | syncing fd => exact (Disk.Staged.leaves holds).mono older
  | closing fd => exact holds.1.leaves.mono older
  | renamingTmp =>
      obtain ⟨_, staged, _⟩ := holds
      exact staged.leaves.mono older
  | openingParent | syncingParent =>
      obtain ⟨_, replaced⟩ := holds
      exact replaced.leaves
  | closingParent result =>
      cases result with
      | ok _ => exact (Disk.Stored.leaves holds).mono newer
      | error error =>
          obtain ⟨_, replaced⟩ := holds
          exact replaced.leaves
  | abandoning fd error | removing error =>
      obtain ⟨_, _, staged⟩ := holds
      exact staged.leaves.mono older
  | returned result =>
      cases result with
      | ok _ => exact (Disk.Stored.leaves holds).mono newer
      | error error =>
          rcases holds with stored | ⟨_, replaced⟩
          · exact stored.leaves.mono older
          · exact replaced.leaves

/-- A power cut at any point of the call finds the old content or the complete
new content, and after a successful return only the new content. Before the call the target
is a regular file or absent, as any cut would leave it, and the temp path is neither a symbolic
link nor another name of its file. -/
theorem atomicWriteFile_survives_cut (call : AtomicWrite) (old : Option (List UInt8))
    (disk : Disk String UInt8) (stored : disk.Stored call.target call.tmp old)
    (events : List WriteEvent) (state : WriteState) (reached : call.run disk events = some state) :
    (state.disk.recover call.target = old ∨
      state.disk.recover call.target = some call.content) ∧
    (state.phase = .returned (.ok ()) → state.disk.recover call.target = some call.content) := by
  have holds := run_holds stored reached
  constructor
  · exact (leaves_of_holds holds).recover.symm
  · intro success
    rw [success] at holds
    exact (Disk.Stored.leaves holds).recover

theorem atomicWriteFile_survives_cut_bootState :
    ∃ state, AtomicWrite.run ⟨"boot_state.json", [123, 125], 7⟩
        (Disk.atRest "boot_state.json" (some [91, 93]) "boot_state.json.tmp.7" none)
        [.returns .success, .returns (.wrote 1), .returns (.failed eintr), .returns (.wrote 1),
          .kernel (.data 2 [123]), .returns .success, .returns .success, .returns .success,
          .kernel (.commit 1), .returns .success, .returns .success, .returns .success] =
          some state ∧
      state.disk.recover "boot_state.json" = some [123, 125] := by
  have ended : (AtomicWrite.run ⟨"boot_state.json", [123, 125], 7⟩
      (Disk.atRest "boot_state.json" (some [91, 93]) "boot_state.json.tmp.7" none)
      [.returns .success, .returns (.wrote 1), .returns (.failed eintr), .returns (.wrote 1),
        .kernel (.data 2 [123]), .returns .success, .returns .success, .returns .success,
        .kernel (.commit 1), .returns .success, .returns .success, .returns .success]).map
      WriteState.phase = some (.returned (.ok ())) := rfl
  obtain ⟨state, reached, success⟩ := Option.map_eq_some_iff.mp ended
  have stored := Disk.stored_atRest (by decide : "boot_state.json.tmp.7" ≠ "boot_state.json")
    (some [91, 93]) (none : Option (List UInt8))
  exact ⟨state, reached, (atomicWriteFile_survives_cut _ _ _ stored _ _ reached).2 success⟩

def bracesWrite : AtomicWrite := ⟨"crash_state.json", [123, 125], 7⟩

def restingDisk (content leftover : Option (List UInt8)) : Disk String UInt8 :=
  Disk.atRest bracesWrite.target content bracesWrite.tmp leftover

def linkedDisk : Disk String UInt8 :=
  { restingDisk (some [91, 93]) none with
    cached := fun name =>
      if name = bracesWrite.target ∨ name = bracesWrite.tmp then some 0 else none }

def symlinkedDisk : Disk String UInt8 :=
  { restingDisk (some [91, 93]) (some []) with
    inodes := fun inode =>
      if inode = 0 then { cached := [91, 93], durable := [91, 93], dirty := false }
      else { cached := [], durable := [], dirty := false, link := some bracesWrite.target } }

def unsyncedWrite : List WriteEvent :=
  [.returns .success, .returns (.wrote 2), .returns .success, .returns .success,
    .returns .success, .returns (.failed 24)]

def bracketsWrite : AtomicWrite := ⟨"crash_state.json", [91, 49, 93], 7⟩

/-- Where the temp path is a link to the target's file, a cut finds the target emptied; where an
earlier call could not sync the directory, a cut finds what was there before that call. -/
theorem cut_finds_neither :
    (∀ disk ∈ [linkedDisk, symlinkedDisk],
      disk.Leaves bracesWrite.target {disk.read bracesWrite.target} ∧
      ¬∀ (events : List WriteEvent) (state : WriteState),
        bracesWrite.run disk events = some state →
        state.disk.recover bracesWrite.target = disk.read bracesWrite.target ∨
          state.disk.recover bracesWrite.target = some bracesWrite.content) ∧
    ∃ first, bracesWrite.run (restingDisk (some [91, 93]) none) unsyncedWrite = some first ∧
      ¬∀ (events : List WriteEvent) (state : WriteState),
        bracketsWrite.run first.disk events = some state →
        state.disk.recover bracketsWrite.target = first.disk.read bracketsWrite.target ∨
          state.disk.recover bracketsWrite.target = some bracketsWrite.content := by
  refine ⟨?_, _, rfl, fun claimed => ?_⟩
  · intro disk member
    have resting (leftover : Option (List UInt8)) :=
      (Disk.stored_atRest bracesWrite.tmp_ne_target (some [91, 93]) leftover).leaves
    rcases List.mem_cons.mp member with rfl | member
    · refine ⟨resting none, fun claimed => ?_⟩
      have found := claimed [.returns .success, .kernel (.data 0 [])] _ rfl
      exact absurd found (by decide)
    · obtain rfl := List.mem_singleton.mp member
      refine ⟨⟨fun absent => (resting (some [])).1 absent, fun inode possible => ?_⟩,
        fun claimed => ?_⟩
      · obtain rfl : inode = 0 := by
          simpa [Disk.Entries, symlinkedDisk, restingDisk, Disk.atRest, eq_comm] using possible
        exact (resting (some [])).2 0 possible
      · have found := claimed [.returns .success, .kernel (.data 0 [])] _ rfl
        exact absurd found (by decide)
  · exact absurd (claimed [] _ rfl) (by decide)

end AtomicWrite

end EdgeHealthd
