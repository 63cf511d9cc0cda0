import EdgeHealthd.Library.Durability
import EdgeHealthd.Library.Machine

/-!
Executable `atomic_write_file` of `src/atomic_file.cpp` over a disk with a
volatile cache. The call stands at one of its system calls; the system call
returns with some outcome, and between any two of them the kernel may write
back whatever it likes.
-/

namespace EdgeHealthd

open Durability

structure AtomicFileError where
  message : String
  code : Int
  deriving DecidableEq, Repr

def tempPathFor (target : String) (pid : Nat) : String :=
  target ++ ".tmp." ++ toString pid

-- `std::filesystem::path::parent_path`.
def parentPath (path : String) : String :=
  let directory := path.toList.reverse.dropWhile (· != '/')
  let trimmed := directory.dropWhile (· == '/')
  if trimmed.isEmpty then (if directory.isEmpty then "" else "/")
  else String.ofList trimmed.reverse

structure AtomicWrite where
  target : String
  content : List UInt8
  pid : Nat

def AtomicWrite.tmp (call : AtomicWrite) : String := tempPathFor call.target call.pid

def AtomicWrite.parent (call : AtomicWrite) : String :=
  if parentPath call.target = "" then "." else parentPath call.target

inductive Outcome
  | success
  | wrote (count : Nat)
  | failed (errno : Int)
  deriving DecidableEq, Repr

inductive Phase
  | opening
  | writing (fd : Nat) (remaining : List UInt8)
  | syncing (fd : Nat)
  | closing (fd : Nat)
  | renamingTmp
  | openingParent
  | syncingParent
  | closingParent (result : Except AtomicFileError Unit)
  -- The lambda `fail`: after `write` and `fsync` the descriptor is closed first.
  | abandoning (fd : Nat) (error : AtomicFileError)
  | removing (error : AtomicFileError)
  | returned (result : Except AtomicFileError Unit)

structure WriteState where
  disk : Disk String UInt8
  phase : Phase

inductive WriteEvent
  | returns (outcome : Outcome)
  | kernel (action : WriteBack UInt8)

def eintr : Int := 4

namespace AtomicWrite

variable (call : AtomicWrite)

-- The `while (remaining > 0)` test.
def loop (fd : Nat) (remaining : List UInt8) : Phase :=
  if remaining.isEmpty then .syncing fd else .writing fd remaining

def openError (errno : Int) : AtomicFileError := ⟨"open(" ++ call.tmp ++ ") failed", errno⟩

def writeError (errno : Int) : AtomicFileError := ⟨"write(" ++ call.tmp ++ ") failed", errno⟩

def fsyncError (errno : Int) : AtomicFileError := ⟨"fsync(" ++ call.tmp ++ ") failed", errno⟩

def closeError (errno : Int) : AtomicFileError := ⟨"close(" ++ call.tmp ++ ") failed", errno⟩

def renameError (errno : Int) : AtomicFileError :=
  ⟨"rename(" ++ call.tmp ++ " -> " ++ call.target ++ ") failed", errno⟩

def openParentError (errno : Int) : AtomicFileError :=
  ⟨"open(" ++ call.parent ++ ") for dir fsync failed", errno⟩

def fsyncParentError (errno : Int) : AtomicFileError :=
  ⟨"fsync(" ++ call.parent ++ ") failed", errno⟩

def syscall (disk : Disk String UInt8) : Phase → Outcome → Option WriteState
  | .opening, .success =>
      (disk.openTruncate call.tmp).map fun opened => ⟨opened.1, loop opened.2 call.content⟩
  | .opening, .failed errno => some ⟨disk, .returned (.error (call.openError errno))⟩
  | .writing fd remaining, .wrote count =>
      if count ≤ remaining.length then
        some ⟨disk.append fd (remaining.take count), loop fd (remaining.drop count)⟩
      else none
  | .writing fd remaining, .failed errno =>
      if errno = eintr then some ⟨disk, .writing fd remaining⟩
      else some ⟨disk, .abandoning fd (call.writeError errno)⟩
  | .syncing fd, .success => some ⟨disk.syncFile fd, .closing fd⟩
  | .syncing fd, .failed errno => some ⟨disk, .abandoning fd (call.fsyncError errno)⟩
  | .closing _, .success => some ⟨disk, .renamingTmp⟩
  | .closing _, .failed errno => some ⟨disk, .removing (call.closeError errno)⟩
  | .renamingTmp, .success =>
      (disk.rename call.tmp call.target).map fun renamed => ⟨renamed, .openingParent⟩
  | .renamingTmp, .failed errno => some ⟨disk, .removing (call.renameError errno)⟩
  | .openingParent, .success => some ⟨disk, .syncingParent⟩
  | .openingParent, .failed errno =>
      some ⟨disk, .returned (.error (call.openParentError errno))⟩
  | .syncingParent, .success => some ⟨disk.syncDirectory, .closingParent (.ok ())⟩
  | .syncingParent, .failed errno =>
      some ⟨disk, .closingParent (.error (call.fsyncParentError errno))⟩
  -- The results of these three are not looked at.
  | .closingParent result, .success => some ⟨disk, .returned result⟩
  | .closingParent result, .failed _ => some ⟨disk, .returned result⟩
  | .abandoning _ error, .success => some ⟨disk, .removing error⟩
  | .abandoning _ error, .failed _ => some ⟨disk, .removing error⟩
  | .removing error, .success => some ⟨disk.unlink call.tmp, .returned (.error error)⟩
  | .removing error, .failed _ => some ⟨disk, .returned (.error error)⟩
  | _, _ => none

def step (state : WriteState) : WriteEvent → Option WriteState
  | .returns outcome => call.syscall state.disk state.phase outcome
  | .kernel action =>
      (state.disk.writeBack action).map fun disk => { state with disk }

/-- The states of a call from its start, at every point where a cut may fall. -/
def run (disk : Disk String UInt8) (events : List WriteEvent) : Option WriteState :=
  Machine.follow call.step ⟨disk, .opening⟩ events

end AtomicWrite

end EdgeHealthd
