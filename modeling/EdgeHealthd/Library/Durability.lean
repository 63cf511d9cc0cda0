import EdgeHealthd.Library.Links
import Mathlib.Data.Set.Insert
import Mathlib.Logic.Function.Basic

/-!
A volatile cache over a disk that survives a power cut. File data and directory
entries reach the disk on their own schedule: the kernel may write any part of
a dirty file back at any time, and may commit any directory operation that is
still pending, in any order. What a cut can leave behind is therefore a set of
outcomes, and a file system call is described by what it does to that set.
Names may be hard links to one file, and symbolic links to other names.
-/

namespace Durability

variable {Name Byte : Type*}

structure Inode (Name Byte : Type*) where
  cached : List Byte
  durable : List Byte
  dirty : Bool
  link : Option Name := none

inductive DirectoryOp (Name : Type*)
  | link (name : Name) (inode : Nat)
  | unlink (name : Name)
  | rename (source target : Name) (inode : Nat)

structure Disk (Name Byte : Type*) where
  inodes : Nat → Inode Name Byte
  next : Nat
  cached : Name → Option Nat
  durable : Name → Option Nat
  pending : List (DirectoryOp Name)

inductive WriteBack (Byte : Type*)
  | data (inode : Nat) (content : List Byte)
  | commit (index : Nat)

-- More than 40 links in one lookup fail with `ELOOP`.
def linkLimit : Nat := 41

section Calls

variable [DecidableEq Name]

/-- What an operation makes of one name; `none` leaves the name alone. -/
def DirectoryOp.entry : DirectoryOp Name → Name → Option (Option Nat)
  | .link name inode, other => if other = name then some (some inode) else none
  | .unlink name, other => if other = name then some none else none
  | .rename source target inode, other =>
      if other = target then some (some inode)
      else if other = source then some none else none

def DirectoryOp.apply (op : DirectoryOp Name) (entries : Name → Option Nat) : Name → Option Nat :=
  fun name => (op.entry name).getD (entries name)

namespace Disk

def onward (disk : Disk Name Byte) (entries : Name → Option Nat) (name : Name) : Option Name :=
  (entries name).bind fun inode => (disk.inodes inode).link

/-- The file that a name leads to, through symbolic links. -/
def find (disk : Disk Name Byte) (entries : Name → Option Nat) (name : Name) : Option Nat :=
  (Links.follow (disk.onward entries) linkLimit name).bind entries

def setInode (disk : Disk Name Byte) (inode : Nat) (value : Inode Name Byte) : Disk Name Byte :=
  { disk with inodes := Function.update disk.inodes inode value }

def issue (disk : Disk Name Byte) (op : DirectoryOp Name) : Disk Name Byte :=
  { disk with cached := op.apply disk.cached, pending := disk.pending ++ [op] }

def create (disk : Disk Name Byte) (name : Name) : Disk Name Byte :=
  ({ disk with next := disk.next + 1 }.setInode disk.next
    { cached := [], durable := [], dirty := true }).issue (.link name disk.next)

def truncateAt (disk : Disk Name Byte) (place : Name) : Disk Name Byte × Nat :=
  match disk.cached place with
  | some inode =>
      (disk.setInode inode { disk.inodes inode with cached := [], dirty := true }, inode)
  | none => (disk.create place, disk.next)

/-- `open` with `O_CREAT | O_TRUNC` and without `O_NOFOLLOW`: the file is the one that a
symbolic link leads to, made there if it does not exist. -/
def openTruncate (disk : Disk Name Byte) (name : Name) : Option (Disk Name Byte × Nat) :=
  (Links.follow (disk.onward disk.cached) linkLimit name).map disk.truncateAt

def append (disk : Disk Name Byte) (inode : Nat) (bytes : List Byte) : Disk Name Byte :=
  disk.setInode inode { disk.inodes inode with
    cached := (disk.inodes inode).cached ++ bytes, dirty := true }

def syncFile (disk : Disk Name Byte) (inode : Nat) : Disk Name Byte :=
  disk.setInode inode { disk.inodes inode with
    durable := (disk.inodes inode).cached, dirty := false }

def unlink (disk : Disk Name Byte) (name : Name) : Disk Name Byte :=
  disk.issue (.unlink name)

/-- Renaming a name that does not exist fails, and one hard link to another does nothing. A
symbolic link is renamed itself, as `unlink` removes it. -/
def rename (disk : Disk Name Byte) (source target : Name) : Option (Disk Name Byte) :=
  (disk.cached source).map fun inode =>
    if disk.cached target = some inode then disk
    else disk.issue (.rename source target inode)

def syncDirectory (disk : Disk Name Byte) : Disk Name Byte :=
  { disk with durable := disk.cached, pending := [] }

/-- One write-back step of the kernel; a clean file has nothing to write back. -/
def writeBack (disk : Disk Name Byte) : WriteBack Byte → Option (Disk Name Byte)
  | .data inode content =>
      if (disk.inodes inode).dirty then
        some (disk.setInode inode { disk.inodes inode with durable := content })
      else none
  | .commit index =>
      disk.pending[index]?.map fun op =>
        { disk with durable := op.apply disk.durable, pending := disk.pending.eraseIdx index }

def read (disk : Disk Name Byte) (name : Name) : Option (List Byte) :=
  (disk.find disk.cached name).map fun inode => (disk.inodes inode).cached

def recover (disk : Disk Name Byte) (name : Name) : Option (List Byte) :=
  (disk.find disk.durable name).map fun inode => (disk.inodes inode).durable

/-- The entries a cut can leave under a name: the one on disk, and whatever a
pending operation would make of it. -/
def Entries (disk : Disk Name Byte) (name : Name) : Set (Option Nat) :=
  { entry | disk.durable name = entry ∨ ∃ op ∈ disk.pending, op.entry name = some entry }

/-- Whichever entry a cut leaves under the name, it is of a regular file that
the kernel no longer writes, and its content is an allowed one. -/
def Leaves (disk : Disk Name Byte) (name : Name) (allowed : Set (Option (List Byte))) : Prop :=
  (none ∈ disk.Entries name → none ∈ allowed) ∧
    ∀ inode, some inode ∈ disk.Entries name →
      inode < disk.next ∧ (disk.inodes inode).link = none ∧ (disk.inodes inode).dirty = false ∧
        some (disk.inodes inode).durable ∈ allowed

section Lookup

variable {disk after : Disk Name Byte} {entries : Name → Option Nat} {name : Name} {inode : Nat}

omit [DecidableEq Name] in
theorem find_entry (regular : ∀ inode, entries name = some inode →
      (disk.inodes inode).link = none) : disk.find entries name = entries name := by
  have ended : disk.onward entries name = none := by
    unfold onward
    cases entry : entries name with
    | none => rfl
    | some inode => exact regular inode entry
  simp only [find, linkLimit, Links.follow_end ended, Option.bind_some]

end Lookup

theorem entries_issue (disk : Disk Name Byte) (op : DirectoryOp Name) (name : Name)
    (entry : Option Nat) :
    entry ∈ (disk.issue op).Entries name ↔
      entry ∈ disk.Entries name ∨ op.entry name = some entry := by
  simp only [Entries, issue, Set.mem_ofPred_eq, List.mem_append, List.mem_singleton]
  constructor
  · rintro (stored | ⟨other, member | rfl, made⟩)
    · exact Or.inl (Or.inl stored)
    · exact Or.inl (Or.inr ⟨other, member, made⟩)
    · exact Or.inr made
  · rintro ((stored | ⟨other, member, made⟩) | made)
    · exact Or.inl stored
    · exact Or.inr ⟨other, Or.inl member, made⟩
    · exact Or.inr ⟨op, Or.inr rfl, made⟩

theorem entries_commit (disk : Disk Name Byte) {index : Nat} {op : DirectoryOp Name}
    (found : disk.pending[index]? = some op) (name : Name) {entry : Option Nat}
    (possible : entry ∈ Entries { disk with
      durable := op.apply disk.durable, pending := disk.pending.eraseIdx index } name) :
    entry ∈ disk.Entries name := by
  rcases possible with stored | ⟨other, member, made⟩
  · simp only [DirectoryOp.apply] at stored
    cases made : op.entry name with
    | none =>
        simp only [made, Option.getD_none] at stored
        exact Or.inl stored
    | some value =>
        simp only [made, Option.getD_some] at stored
        exact Or.inr ⟨op, List.mem_of_getElem? found, stored ▸ made⟩
  · exact Or.inr ⟨other, List.mem_of_mem_eraseIdx member, made⟩

theorem entries_syncDirectory (disk : Disk Name Byte) (name : Name) (entry : Option Nat) :
    entry ∈ disk.syncDirectory.Entries name ↔ disk.cached name = entry := by
  simp [Entries, syncDirectory, eq_comm]

theorem Leaves.recover {disk : Disk Name Byte} {name : Name} {allowed : Set (Option (List Byte))}
    (leaves : disk.Leaves name allowed) : disk.recover name ∈ allowed := by
  have regular : disk.find disk.durable name = disk.durable name :=
    find_entry fun inode stored => (leaves.2 inode (Or.inl stored)).2.1
  rw [Disk.recover, regular]
  cases stored : disk.durable name with
  | none => exact leaves.1 (Or.inl stored)
  | some inode => exact (leaves.2 inode (Or.inl stored)).2.2.2

theorem Leaves.mono {disk : Disk Name Byte} {name : Name} {fewer more : Set (Option (List Byte))}
    (leaves : disk.Leaves name fewer) (subset : fewer ⊆ more) : disk.Leaves name more := by
  constructor
  · intro possible
    exact subset (leaves.1 possible)
  · intro inode possible
    obtain ⟨bound, regular, clean, content⟩ := leaves.2 inode possible
    exact ⟨bound, regular, clean, subset content⟩

theorem Leaves.setInode {disk : Disk Name Byte} {name : Name}
    {allowed : Set (Option (List Byte))} (leaves : disk.Leaves name allowed) {inode : Nat}
    (apart : some inode ∉ disk.Entries name) (value : Inode Name Byte) :
    (disk.setInode inode value).Leaves name allowed := by
  constructor
  · exact leaves.1
  · intro other possible
    have different : other ≠ inode := by
      rintro rfl
      exact apart possible
    have kept := leaves.2 other possible
    simpa only [Disk.setInode, Function.update_of_ne different] using kept

theorem Leaves.issue_other {disk : Disk Name Byte} {name : Name}
    {allowed : Set (Option (List Byte))} (leaves : disk.Leaves name allowed)
    {op : DirectoryOp Name} (silent : op.entry name = none) :
    (disk.issue op).Leaves name allowed := by
  have same : ∀ entry, entry ∈ (disk.issue op).Entries name ↔ entry ∈ disk.Entries name := by
    intro entry
    simp [entries_issue, silent]
  constructor
  · intro possible
    exact leaves.1 ((same none).mp possible)
  · intro inode possible
    exact leaves.2 inode ((same _).mp possible)

theorem Leaves.writeBack {disk after : Disk Name Byte} {name : Name}
    {allowed : Set (Option (List Byte))} (leaves : disk.Leaves name allowed)
    {action : WriteBack Byte} (done : disk.writeBack action = some after) :
    after.Leaves name allowed := by
  cases action with
  | data inode content =>
      simp only [Disk.writeBack] at done
      split at done
      · rename_i dirty
        obtain rfl := Option.some.inj done
        apply leaves.setInode
        intro possible
        have clean := (leaves.2 inode possible).2.2.1
        simp [clean] at dirty
      · simp at done
  | commit index =>
      obtain ⟨op, found, rfl⟩ := Option.map_eq_some_iff.mp done
      constructor
      · intro possible
        exact leaves.1 (entries_commit disk found name possible)
      · intro inode possible
        exact leaves.2 inode (entries_commit disk found name possible)

structure Synced (disk : Disk Name Byte) (inode : Nat) (content : List Byte) : Prop where
  allocated : inode < disk.next
  regular : (disk.inodes inode).link = none
  clean : (disk.inodes inode).dirty = false
  cached : (disk.inodes inode).cached = content
  durable : (disk.inodes inode).durable = content

theorem Synced.writeBack {disk after : Disk Name Byte} {inode : Nat} {content : List Byte}
    (synced : disk.Synced inode content) {action : WriteBack Byte}
    (done : disk.writeBack action = some after) : after.Synced inode content := by
  cases action with
  | data other bytes =>
      simp only [Disk.writeBack] at done
      split at done
      · rename_i dirty
        obtain rfl := Option.some.inj done
        have different : inode ≠ other := by
          rintro rfl
          simp [synced.clean] at dirty
        have same : (disk.setInode other { disk.inodes other with durable := bytes }).inodes inode =
            disk.inodes inode := Function.update_of_ne different _ _
        exact ⟨synced.allocated, same ▸ synced.regular, same ▸ synced.clean, same ▸ synced.cached,
          same ▸ synced.durable⟩
      · simp at done
  | commit index =>
      obtain ⟨op, _, rfl⟩ := Option.map_eq_some_iff.mp done
      exact ⟨synced.allocated, synced.regular, synced.clean, synced.cached, synced.durable⟩

/-- Two disks on which every lookup finds the same. -/
structure Alike (disk after : Disk Name Byte) : Prop where
  entries : after.cached = disk.cached
  next : after.next = disk.next
  data : ∀ inode, (after.inodes inode).cached = (disk.inodes inode).cached
  links : ∀ inode, (after.inodes inode).link = (disk.inodes inode).link

theorem alike_writeBack {disk after : Disk Name Byte} {action : WriteBack Byte}
    (done : disk.writeBack action = some after) : disk.Alike after := by
  cases action with
  | data other bytes =>
      simp only [Disk.writeBack] at done
      split at done
      · obtain rfl := Option.some.inj done
        refine ⟨rfl, rfl, fun inode => ?_, fun inode => ?_⟩
        all_goals
          by_cases same : inode = other
          · simp [Disk.setInode, same]
          · simp [Disk.setInode, Function.update_of_ne same]
      · simp at done
  | commit index =>
      obtain ⟨op, _, rfl⟩ := Option.map_eq_some_iff.mp done
      exact ⟨rfl, rfl, fun _ => rfl, fun _ => rfl⟩

theorem Leaves.rename {disk : Disk Name Byte} {source target : Name}
    {allowed : Set (Option (List Byte))} (leaves : disk.Leaves target allowed)
    {inode : Nat} {content : List Byte} (synced : disk.Synced inode content) :
    (disk.issue (.rename source target inode)).Leaves target (insert (some content) allowed) := by
  have made : (DirectoryOp.rename source target inode).entry target = some (some inode) := by
    simp [DirectoryOp.entry]
  constructor
  · intro possible
    rcases (entries_issue ..).mp possible with before | now
    · exact Or.inr (leaves.1 before)
    · simp [made] at now
  · intro other possible
    rcases (entries_issue ..).mp possible with before | now
    · obtain ⟨bound, regular, clean, kept⟩ := leaves.2 other before
      exact ⟨bound, regular, clean, Or.inr kept⟩
    · obtain rfl : inode = other := by simpa [made] using now
      exact ⟨synced.allocated, synced.regular, synced.clean,
        Or.inl (congrArg some synced.durable)⟩

theorem Synced.leaves_syncDirectory {disk : Disk Name Byte} {name : Name} {inode : Nat}
    {content : List Byte} (synced : disk.Synced inode content)
    (entry : disk.cached name = some inode) : disk.syncDirectory.Leaves name {some content} := by
  constructor
  · intro possible
    have absent := (entries_syncDirectory ..).mp possible
    simp [entry] at absent
  · intro other possible
    have same := (entries_syncDirectory ..).mp possible
    obtain rfl : inode = other := by simpa [entry] using same
    exact ⟨synced.allocated, synced.regular, synced.clean, congrArg some synced.durable⟩

def Plain (disk : Disk Name Byte) (name : Name) : Prop :=
  ∀ inode, disk.cached name = some inode →
    inode < disk.next ∧ (disk.inodes inode).link = none

/-- The name holds this content, in the cache and after every cut: no earlier change of it is
still on its way to the disk. The scratch name beside it is neither a symbolic link nor a hard
link to its file. -/
structure Stored (disk : Disk Name Byte) (name scratch : Name) (content : Option (List Byte)) :
    Prop where
  read : disk.read name = content
  leaves : disk.Leaves name {content}
  plain : disk.Plain name
  plainScratch : disk.Plain scratch
  apart : ∀ inode, disk.cached scratch = some inode →
    disk.cached name ≠ some inode ∧ some inode ∉ disk.Entries name

/-- The name still holds the old content, and the scratch name is a separate
file that holds these bytes so far. -/
structure Staged (disk : Disk Name Byte) (name scratch : Name) (content : Option (List Byte))
    (inode : Nat) (bytes : List Byte) : Prop where
  read : disk.read name = content
  leaves : disk.Leaves name {content}
  plain : disk.Plain name
  entry : disk.cached scratch = some inode
  allocated : inode < disk.next
  regular : (disk.inodes inode).link = none
  distinct : disk.cached name ≠ some inode
  apart : some inode ∉ disk.Entries name
  staged : (disk.inodes inode).cached = bytes

/-- The new file has taken the name in the cache; a cut leaves either one. -/
structure Replaced (disk : Disk Name Byte) (name scratch : Name) (content : Option (List Byte))
    (inode : Nat) (bytes : List Byte) : Prop where
  entry : disk.cached name = some inode
  gone : disk.cached scratch = none
  synced : disk.Synced inode bytes
  leaves : disk.Leaves name {some bytes, content}

def atRest (name : Name) (content : Option (List Byte)) (scratch : Name)
    (leftover : Option (List Byte)) : Disk Name Byte :=
  let entries := fun other =>
    if other = name then content.map fun _ => 0
    else if other = scratch then leftover.map fun _ => 1 else none
  { inodes := fun inode =>
      let bytes := if inode = 0 then content.getD [] else leftover.getD []
      { cached := bytes, durable := bytes, dirty := false }
    next := 2
    cached := entries
    durable := entries
    pending := [] }

section Replace

variable {disk after : Disk Name Byte} {name scratch : Name} {content : Option (List Byte)}
  {inode : Nat} {bytes : List Byte}

theorem atRest_allocated {other : Name} (leftover : Option (List Byte))
    (entry : (atRest name content scratch leftover).cached other = some inode) : inode < 2 := by
  simp only [atRest] at entry
  split at entry
  · obtain ⟨_, _, rfl⟩ := Option.map_eq_some_iff.mp entry
    omega
  · split at entry
    · obtain ⟨_, _, rfl⟩ := Option.map_eq_some_iff.mp entry
      omega
    · cases entry

omit [DecidableEq Name] in
theorem Plain.find (plain : disk.Plain name) : disk.find disk.cached name = disk.cached name :=
  find_entry fun inode entry => (plain inode entry).2

omit [DecidableEq Name] in
theorem Plain.read (plain : disk.Plain name) :
    disk.read name = (disk.cached name).map fun inode => (disk.inodes inode).cached := by
  rw [Disk.read, plain.find]

theorem stored_atRest (different : scratch ≠ name) (content leftover : Option (List Byte)) :
    (atRest name content scratch leftover).Stored name scratch content := by
  have plain : (atRest name content scratch leftover).Plain name :=
    fun inode entry => ⟨atRest_allocated leftover entry, rfl⟩
  refine ⟨?_, ⟨?_, ?_⟩, plain, fun inode entry => ⟨atRest_allocated leftover entry, rfl⟩, ?_⟩
  · rw [plain.read]
    cases content <;> simp [atRest]
  · cases content <;> simp [Entries, atRest]
  · cases content <;> simp [Entries, atRest]
  · cases content <;> cases leftover <;> simp [Entries, atRest, different]

omit [DecidableEq Name] in
theorem Plain.setInode (plain : disk.Plain name) (distinct : disk.cached name ≠ some inode)
    (value : Inode Name Byte) :
    (disk.setInode inode value).Plain name ∧
      (disk.setInode inode value).read name = disk.read name := by
  have same : ∀ other, disk.cached name = some other →
      (disk.setInode inode value).inodes other = disk.inodes other := by
    intro other entry
    refine Function.update_of_ne ?_ _ _
    rintro rfl
    exact distinct entry
  have kept : (disk.setInode inode value).Plain name := by
    intro other entry
    rw [same other entry]
    exact plain other entry
  refine ⟨kept, ?_⟩
  rw [kept.read, plain.read]
  cases entry : disk.cached name with
  | none => simp [Disk.setInode, entry]
  | some other => simp [show (disk.setInode inode value).cached name = some other from entry,
      same other entry]

theorem cached_issue_other {op : DirectoryOp Name} (silent : op.entry name = none) :
    (disk.issue op).cached name = disk.cached name := by
  simp [Disk.issue, DirectoryOp.apply, silent]

theorem Plain.issue_other (plain : disk.Plain name) {op : DirectoryOp Name}
    (silent : op.entry name = none) :
    (disk.issue op).Plain name ∧ (disk.issue op).read name = disk.read name := by
  have same : (disk.issue op).cached name = disk.cached name := cached_issue_other silent
  have kept : (disk.issue op).Plain name := by
    intro inode entry
    exact plain inode (same.symm.trans entry)
  refine ⟨kept, ?_⟩
  rw [kept.read, plain.read, same]
  rfl

theorem Stored.create (stored : disk.Stored name scratch content) (different : scratch ≠ name) :
    (disk.create scratch).Staged name scratch content disk.next [] := by
  have silent : (DirectoryOp.link scratch disk.next).entry name = none := by
    simp [DirectoryOp.entry, different.symm]
  have apart : some disk.next ∉ disk.Entries name := by
    intro possible
    exact Nat.lt_irrefl _ (stored.leaves.2 disk.next possible).1
  have distinct : disk.cached name ≠ some disk.next := by
    intro same
    exact Nat.lt_irrefl _ (stored.plain disk.next same).1
  have roomier : Leaves { disk with next := disk.next + 1 } name {content} := by
    refine ⟨stored.leaves.1, fun inode possible => ?_⟩
    obtain ⟨bound, kept⟩ := stored.leaves.2 inode possible
    exact ⟨Nat.lt_succ_of_lt bound, kept⟩
  have roomy : Plain { disk with next := disk.next + 1 } name := by
    intro inode current
    obtain ⟨bound, regular⟩ := stored.plain inode current
    exact ⟨Nat.lt_succ_of_lt bound, regular⟩
  obtain ⟨set, unset⟩ := roomy.setInode distinct
    { cached := [], durable := [], dirty := true }
  obtain ⟨plain, unchanged⟩ := set.issue_other silent
  have before : Disk.read { disk with next := disk.next + 1 } name = disk.read name := by
    rw [roomy.read, stored.plain.read]
  refine ⟨(unchanged.trans (unset.trans before)).trans stored.read,
    (roomier.setInode apart _).issue_other silent, plain, ?_, Nat.lt_succ_self _, ?_, ?_, ?_,
    ?_⟩
  · simp [Disk.create, Disk.issue, DirectoryOp.apply, DirectoryOp.entry]
  · simp [Disk.create, Disk.issue, Disk.setInode]
  · rw [Disk.create, cached_issue_other silent]
    exact distinct
  · rw [Disk.create, entries_issue, silent]
    rintro (possible | made)
    · exact apart possible
    · simp at made
  · simp [Disk.create, Disk.issue, Disk.setInode]

theorem Stored.openTruncate (stored : disk.Stored name scratch content)
    (different : scratch ≠ name) (opened : disk.openTruncate scratch = some (after, inode)) :
    after.Staged name scratch content inode [] := by
  have ended : disk.onward disk.cached scratch = none := by
    unfold onward
    cases entry : disk.cached scratch with
    | none => rfl
    | some found => exact (stored.plainScratch found entry).2
  rw [Disk.openTruncate, linkLimit, Links.follow_end ended, Option.map_some,
    Option.some.injEq] at opened
  unfold truncateAt at opened
  cases entry : disk.cached scratch with
  | some found =>
      rw [entry] at opened
      obtain ⟨rfl, rfl⟩ := Prod.mk.inj opened
      obtain ⟨distinct, apart⟩ := stored.apart found entry
      obtain ⟨allocated, regular⟩ := stored.plainScratch found entry
      obtain ⟨plain, read⟩ := stored.plain.setInode distinct
        { disk.inodes found with cached := [], dirty := true }
      refine ⟨read.trans stored.read, stored.leaves.setInode apart _, plain, entry, allocated, ?_,
        distinct, apart, ?_⟩
      · simpa [Disk.setInode] using regular
      · simp [Disk.setInode]
  | none =>
      rw [entry] at opened
      obtain ⟨rfl, rfl⟩ := Prod.mk.inj opened
      exact stored.create different

theorem Staged.setInode (staged : disk.Staged name scratch content inode bytes)
    {value : Inode Name Byte} (regular : value.link = none) :
    (disk.setInode inode value).Staged name scratch content inode value.cached := by
  obtain ⟨plain, read⟩ := staged.plain.setInode staged.distinct value
  refine ⟨read.trans staged.read, staged.leaves.setInode staged.apart _, plain, staged.entry,
    staged.allocated, ?_, staged.distinct, staged.apart, ?_⟩
  all_goals simp [Disk.setInode, regular]

theorem Staged.append (staged : disk.Staged name scratch content inode bytes)
    (more : List Byte) :
    (disk.append inode more).Staged name scratch content inode (bytes ++ more) := by
  rw [← staged.staged]
  exact staged.setInode staged.regular

theorem Staged.syncFile (staged : disk.Staged name scratch content inode bytes) :
    (disk.syncFile inode).Staged name scratch content inode bytes ∧
      (disk.syncFile inode).Synced inode bytes := by
  refine ⟨?_, staged.allocated, ?_, ?_, ?_, ?_⟩
  · rw [← staged.staged]
    exact staged.setInode staged.regular
  all_goals simp [Disk.syncFile, Disk.setInode, staged.staged, staged.regular]

theorem entries_writeBack {action : WriteBack Byte} (done : disk.writeBack action = some after)
    {entry : Option Nat} (possible : entry ∈ after.Entries name) : entry ∈ disk.Entries name := by
  cases action with
  | data other bytes =>
      simp only [Disk.writeBack] at done
      split at done
      · obtain rfl := Option.some.inj done
        exact possible
      · simp at done
  | commit index =>
      obtain ⟨op, found, rfl⟩ := Option.map_eq_some_iff.mp done
      exact entries_commit disk found name possible

omit [DecidableEq Name] in
theorem Alike.find (alike : disk.Alike after) (name : Name) :
    after.find after.cached name = disk.find disk.cached name := by
  have onward : after.onward after.cached = disk.onward disk.cached := by
    funext other
    simp only [Disk.onward, alike.entries, alike.links]
  rw [Disk.find, Disk.find, onward, alike.entries]

omit [DecidableEq Name] in
theorem Alike.read (alike : disk.Alike after) (name : Name) :
    after.read name = disk.read name := by
  rw [Disk.read, Disk.read, alike.find]
  cases disk.find disk.cached name with
  | none => rfl
  | some inode => exact congrArg some (alike.data inode)

omit [DecidableEq Name] in
theorem Alike.plain (alike : disk.Alike after) (plain : disk.Plain name) : after.Plain name := by
  intro inode entry
  rw [alike.entries] at entry
  rw [alike.next, alike.links]
  exact plain inode entry

theorem Stored.writeBack (stored : disk.Stored name scratch content) {action : WriteBack Byte}
    (done : disk.writeBack action = some after) : after.Stored name scratch content := by
  have alike := alike_writeBack done
  refine ⟨(alike.read name).trans stored.read, stored.leaves.writeBack done,
    alike.plain stored.plain, alike.plain stored.plainScratch, ?_⟩
  rw [alike.entries]
  intro inode entry
  obtain ⟨distinct, apart⟩ := stored.apart inode entry
  exact ⟨distinct, fun possible => apart (entries_writeBack done possible)⟩

theorem Staged.writeBack (staged : disk.Staged name scratch content inode bytes)
    {action : WriteBack Byte} (done : disk.writeBack action = some after) :
    after.Staged name scratch content inode bytes := by
  have alike := alike_writeBack done
  refine ⟨(alike.read name).trans staged.read, staged.leaves.writeBack done,
    alike.plain staged.plain, ?_, ?_, ?_, ?_,
    fun possible => staged.apart (entries_writeBack done possible), ?_⟩
  · rw [alike.entries]
    exact staged.entry
  · rw [alike.next]
    exact staged.allocated
  · rw [alike.links]
    exact staged.regular
  · rw [alike.entries]
    exact staged.distinct
  · rw [alike.data]
    exact staged.staged

theorem Staged.unlink (staged : disk.Staged name scratch content inode bytes)
    (different : scratch ≠ name) : (disk.unlink scratch).Stored name scratch content := by
  have silent : (DirectoryOp.unlink scratch).entry name = none := by
    simp [DirectoryOp.entry, different.symm]
  have gone : (disk.unlink scratch).cached scratch = none := by
    simp [Disk.unlink, Disk.issue, DirectoryOp.apply, DirectoryOp.entry]
  obtain ⟨plain, read⟩ := staged.plain.issue_other silent
  refine ⟨read.trans staged.read, staged.leaves.issue_other silent, plain, ?_, ?_⟩
  all_goals
    intro other entry
    cases gone.symm.trans entry

theorem Staged.stored (staged : disk.Staged name scratch content inode bytes) :
    disk.Stored name scratch content := by
  refine ⟨staged.read, staged.leaves, staged.plain, ?_, ?_⟩
  all_goals
    intro other entry
    obtain rfl : inode = other := Option.some.inj (staged.entry.symm.trans entry)
  · exact ⟨staged.allocated, staged.regular⟩
  · exact ⟨staged.distinct, staged.apart⟩

/-- Moving a file over the name adds its content to the outcomes; that it is
synced first is what keeps the others out. -/
theorem Staged.rename (staged : disk.Staged name scratch content inode bytes)
    (synced : disk.Synced inode bytes) (different : scratch ≠ name)
    (renamed : disk.rename scratch name = some after) :
    after.Replaced name scratch content inode bytes := by
  simp only [Disk.rename, staged.entry, Option.map_some, if_neg staged.distinct,
    Option.some.injEq] at renamed
  subst renamed
  refine ⟨?_, ?_, ⟨synced.allocated, synced.regular, synced.clean, synced.cached, synced.durable⟩,
    staged.leaves.rename synced⟩
  · simp [Disk.issue, DirectoryOp.apply, DirectoryOp.entry]
  · simp [Disk.issue, DirectoryOp.apply, DirectoryOp.entry, different]

theorem Replaced.writeBack (replaced : disk.Replaced name scratch content inode bytes)
    {action : WriteBack Byte} (done : disk.writeBack action = some after) :
    after.Replaced name scratch content inode bytes := by
  have alike := alike_writeBack done
  refine ⟨?_, ?_, replaced.synced.writeBack done, replaced.leaves.writeBack done⟩
  · rw [alike.entries]
    exact replaced.entry
  · rw [alike.entries]
    exact replaced.gone

/-- Syncing the directory commits the rename: only the new content is left. -/
theorem Replaced.syncDirectory (replaced : disk.Replaced name scratch content inode bytes) :
    disk.syncDirectory.Stored name scratch (some bytes) := by
  have plain : disk.syncDirectory.Plain name := by
    intro other current
    obtain rfl : inode = other := Option.some.inj (replaced.entry.symm.trans current)
    exact ⟨replaced.synced.allocated, replaced.synced.regular⟩
  refine ⟨?_, replaced.synced.leaves_syncDirectory replaced.entry, plain, ?_, ?_⟩
  · rw [plain.read]
    simp [Disk.syncDirectory, replaced.entry, replaced.synced.cached]
  all_goals
    intro other entry
    cases replaced.gone.symm.trans entry

end Replace

end Disk

end Calls

end Durability
