import EdgeHealthd.Library.Durability

/-!
What is read under one name while a scratch name beside it is opened, written, removed or
renamed over it. A lookup may pass through any number of symbolic links, so two names are
told apart by the entries that their lookups pass and by the files that they reach.
-/

namespace Durability

namespace Disk

variable {Name Byte : Type*} {disk after : Disk Name Byte} {name scratch place : Name}
  {inode : Nat}

/-- Where the lookup of a name ends: the entry that is opened, or created. -/
def ending (disk : Disk Name Byte) (name : Name) : Option Name :=
  Links.follow (disk.onward disk.cached) linkLimit name

def way (disk : Disk Name Byte) (name : Name) : List Name :=
  Links.visited (disk.onward disk.cached) linkLimit name

/-- The scratch name does not lead to the file of the name by any link, nor to the place where
that file would be created. -/
structure Apart (disk : Disk Name Byte) (name scratch : Name) : Prop where
  allocated : ∀ other inode, disk.cached other = some inode → inode < disk.next
  outside : scratch ∉ disk.way name
  ending : ∀ place, disk.ending scratch = some place → place ∉ disk.way name
  unshared : ∀ inode, disk.find disk.cached scratch = some inode →
    disk.find disk.cached name ≠ some inode

theorem ending_mem (found : disk.ending name = some place) : place ∈ disk.way name :=
  (Links.follow_last found).1

theorem find_of_ending (found : disk.ending name = some place) :
    disk.find disk.cached name = disk.cached place := by
  rw [Disk.find, show Links.follow _ _ name = some place from found, Option.bind_some]

theorem lookup_congr
    (steps : ∀ passed ∈ disk.way name,
      after.onward after.cached passed = disk.onward disk.cached passed)
    (entries : ∀ passed ∈ disk.way name, after.cached passed = disk.cached passed) :
    after.ending name = disk.ending name ∧ after.way name = disk.way name ∧
      after.find after.cached name = disk.find disk.cached name := by
  obtain ⟨ends, passes⟩ := Links.walk_congr steps
  refine ⟨ends, passes, ?_⟩
  cases found : disk.ending name with
  | none =>
      have lost : after.ending name = none := ends.trans found
      simp only [Disk.ending] at found lost
      simp only [Disk.find, found, lost, Option.bind_none]
  | some place =>
      rw [find_of_ending found, find_of_ending (ends.trans found)]
      exact entries place (ending_mem found)

theorem read_congr
    (found : after.find after.cached name = disk.find disk.cached name)
    (data : ∀ inode, disk.find disk.cached name = some inode →
      (after.inodes inode).cached = (disk.inodes inode).cached) :
    after.read name = disk.read name := by
  rw [Disk.read, Disk.read, found]
  cases same : disk.find disk.cached name with
  | none => rfl
  | some inode => exact congrArg some (data inode same)

theorem Apart.of_lookups (apart : disk.Apart name scratch)
    (allocated : ∀ other inode, after.cached other = some inode → inode < after.next)
    (way : after.way name = disk.way name) (places : after.ending scratch = disk.ending scratch)
    (unshared : ∀ inode, after.find after.cached scratch = some inode →
      after.find after.cached name ≠ some inode) : after.Apart name scratch := by
  refine ⟨allocated, ?_, ?_, unshared⟩
  · rw [way]
    exact apart.outside
  · rw [way, places]
    exact apart.ending

theorem Apart.alike (apart : disk.Apart name scratch) (alike : disk.Alike after) :
    after.Apart name scratch := by
  have steps (passed : Name) :
      after.onward after.cached passed = disk.onward disk.cached passed := by
    simp only [Disk.onward, alike.entries, alike.links]
  have entries (passed : Name) : after.cached passed = disk.cached passed :=
    congrFun alike.entries passed
  refine apart.of_lookups ?_ (lookup_congr (fun passed _ => steps passed) fun passed _ =>
    entries passed).2.1 (lookup_congr (fun passed _ => steps passed) fun passed _ =>
    entries passed).1 ?_
  · rw [alike.entries, alike.next]
    exact apart.allocated
  · rw [alike.find, alike.find]
    exact apart.unshared

theorem ending_of_absent (absent : disk.cached name = none) :
    disk.ending name = some name ∧ disk.find disk.cached name = none := by
  have ended : disk.onward disk.cached name = none := by simp [Disk.onward, absent]
  have reached : disk.ending name = some name := Links.follow_end ended
  exact ⟨reached, (find_of_ending reached).trans absent⟩

theorem Apart.of_absent
    (allocated : ∀ other inode, disk.cached other = some inode → inode < disk.next)
    (outside : scratch ∉ disk.way name) (absent : disk.cached scratch = none) :
    disk.Apart name scratch := by
  obtain ⟨reached, lost⟩ := ending_of_absent absent
  refine ⟨allocated, outside, ?_, ?_⟩
  · intro place found
    obtain rfl := Option.some.inj (reached.symm.trans found)
    exact outside
  · intro inode found
    cases lost.symm.trans found

theorem Apart.name_notMem (apart : disk.Apart name scratch)
    (found : disk.find disk.cached scratch = some inode) : name ∉ disk.way scratch := by
  intro member
  obtain ⟨place, reached, _⟩ := Option.bind_eq_some_iff.mp found
  obtain ⟨rest, enough, ends, _⟩ := Links.follow_from reached member
  exact apart.ending place reached (ending_mem (Links.follow_more ends enough).1)

theorem Apart.entry_ne (apart : disk.Apart name scratch)
    (found : disk.find disk.cached scratch = some inode)
    {entry : Nat} (current : disk.cached scratch = some entry) : disk.cached name ≠ some entry := by
  intro shared
  obtain ⟨place, reached, _⟩ := Option.bind_eq_some_iff.mp found
  have same : disk.onward disk.cached name = disk.onward disk.cached scratch := by
    simp only [Disk.onward, current, shared]
  cases step : disk.onward disk.cached scratch with
  | none =>
      have held : disk.find disk.cached scratch = some entry :=
        (find_of_ending (Links.follow_end step)).trans current
      exact apart.unshared entry held
        ((find_of_ending (Links.follow_end (same.trans step))).trans shared)
  | some further =>
      have along : disk.ending name = some place :=
        (Links.follow_step (same.trans step)).trans ((Links.follow_step step).symm.trans reached)
      exact apart.ending place reached (ending_mem along)

section SetInode

variable {value : Inode Name Byte}

theorem setInode_onward (kept : value.link = (disk.inodes inode).link) :
    (disk.setInode inode value).onward disk.cached = disk.onward disk.cached := by
  funext passed
  unfold onward
  cases disk.cached passed with
  | none => rfl
  | some other =>
      by_cases same : other = inode
      · subst same
        simp [Disk.setInode, kept]
      · simp [Disk.setInode, Function.update_of_ne same]

theorem setInode_find (kept : value.link = (disk.inodes inode).link) (name : Name) :
    (disk.setInode inode value).find disk.cached name = disk.find disk.cached name := by
  rw [Disk.find, Disk.find, setInode_onward kept]

theorem Apart.setInode (apart : disk.Apart name scratch)
    (found : disk.find disk.cached scratch = some inode)
    (kept : value.link = (disk.inodes inode).link) :
    (disk.setInode inode value).Apart name scratch ∧
      (disk.setInode inode value).read name = disk.read name ∧
      (disk.setInode inode value).find disk.cached scratch = some inode := by
  have onward : (disk.setInode inode value).onward (disk.setInode inode value).cached =
      disk.onward disk.cached := setInode_onward kept
  refine ⟨?_, ?_, (setInode_find kept scratch).trans found⟩
  · refine apart.of_lookups apart.allocated ?_ ?_ ?_
    · rw [Disk.way, onward]
      rfl
    · rw [Disk.ending, onward]
      rfl
    · intro other reached
      exact (setInode_find kept name).trans_ne
        (apart.unshared other ((setInode_find kept scratch).symm.trans reached))
  · refine read_congr (setInode_find kept name) ?_
    intro other reached
    have different : other ≠ inode := by
      rintro rfl
      exact apart.unshared other found reached
    simp [Disk.setInode, Function.update_of_ne different]

theorem Apart.append (apart : disk.Apart name scratch)
    (found : disk.find disk.cached scratch = some inode) (bytes : List Byte) :
    (disk.append inode bytes).Apart name scratch ∧
      (disk.append inode bytes).read name = disk.read name ∧
      (disk.append inode bytes).find disk.cached scratch = some inode :=
  apart.setInode found rfl

theorem Apart.syncFile (apart : disk.Apart name scratch)
    (found : disk.find disk.cached scratch = some inode) :
    (disk.syncFile inode).Apart name scratch ∧
      (disk.syncFile inode).read name = disk.read name ∧
      (disk.syncFile inode).find disk.cached scratch = some inode :=
  apart.setInode found rfl

end SetInode

variable [DecidableEq Name]

theorem apart_atRest (different : scratch ≠ name) (content leftover : Option (List Byte)) :
    (atRest name content scratch leftover).Apart name scratch := by
  have ended (other : Name) : (atRest name content scratch leftover).onward
      (atRest name content scratch leftover).cached other = none := by
    unfold onward
    cases (atRest name content scratch leftover).cached other <;> rfl
  have way : (atRest name content scratch leftover).way name = [name] :=
    Links.visited_end (ended name)
  have found (other : Name) : (atRest name content scratch leftover).find
      (atRest name content scratch leftover).cached other =
        (atRest name content scratch leftover).cached other :=
    find_entry fun _ _ => rfl
  refine ⟨fun other inode entry => atRest_allocated leftover entry, ?_, ?_, ?_⟩
  · rw [way]
    simpa using different
  · intro place reached
    obtain rfl := Option.some.inj ((Links.follow_end (ended scratch)).symm.trans reached)
    rw [way]
    simpa using different
  · rw [found, found]
    intro inode one two
    simp only [atRest, if_neg different, if_true] at one two
    obtain ⟨_, _, rfl⟩ := Option.map_eq_some_iff.mp one
    obtain ⟨_, _, zero⟩ := Option.map_eq_some_iff.mp two
    cases zero

section Create

theorem create_inodes
    (allocated : ∀ other inode, disk.cached other = some inode → inode < disk.next)
    {other : Name} (entry : disk.cached other = some inode) :
    (disk.create place).inodes inode = disk.inodes inode :=
  Function.update_of_ne (Nat.ne_of_lt (allocated other inode entry)) _ _

theorem create_onward (absent : disk.cached place = none)
    (allocated : ∀ other inode, disk.cached other = some inode → inode < disk.next) :
    (disk.create place).onward (disk.create place).cached = disk.onward disk.cached := by
  funext passed
  unfold onward
  by_cases here : passed = place
  · subst here
    simp [absent, Disk.create, Disk.issue, Disk.setInode, DirectoryOp.apply, DirectoryOp.entry]
  · have same : (disk.create place).cached passed = disk.cached passed := by
      simp [Disk.create, Disk.issue, Disk.setInode, DirectoryOp.apply, DirectoryOp.entry, here]
    rw [same]
    cases entry : disk.cached passed with
    | none => rfl
    | some inode => simp only [Option.bind_some, create_inodes allocated entry]

end Create

theorem Apart.create (apart : disk.Apart name scratch) (reached : disk.ending scratch = some place)
    (entry : disk.cached place = none) :
    (disk.create place).Apart name scratch ∧ (disk.create place).read name = disk.read name ∧
      (disk.create place).find (disk.create place).cached scratch = some disk.next ∧
      ((disk.create place).inodes disk.next).cached = [] := by
  have outside := apart.ending place reached
  have onward := create_onward entry apart.allocated
  have elsewhere (passed : Name) (other : passed ≠ place) :
      (disk.create place).cached passed = disk.cached passed := by
    simp [Disk.create, Disk.issue, Disk.setInode, DirectoryOp.apply, DirectoryOp.entry, other]
  have here : (disk.create place).cached place = some disk.next := by
    simp [Disk.create, Disk.issue, DirectoryOp.apply, DirectoryOp.entry]
  have kept (passed : Name) (member : passed ∈ disk.way name) :
      (disk.create place).cached passed = disk.cached passed :=
    elsewhere passed (ne_of_mem_of_not_mem member outside)
  obtain ⟨_, way, same⟩ := lookup_congr (fun passed _ => congrFun onward passed) kept
  have places : (disk.create place).ending scratch = disk.ending scratch := by
    rw [Disk.ending, onward]
    rfl
  have fresh := (find_of_ending (places.trans reached)).trans here
  refine ⟨apart.of_lookups ?_ way places ?_, read_congr same ?_, fresh, ?_⟩
  · intro other inode current
    by_cases made : other = place
    · subst made
      obtain rfl := Option.some.inj (here.symm.trans current)
      exact Nat.lt_succ_self _
    · exact Nat.lt_succ_of_lt
        (apart.allocated other inode ((elsewhere other made).symm.trans current))
  · intro other new old
    obtain rfl := Option.some.inj (fresh.symm.trans new)
    rw [same] at old
    obtain ⟨last, _, current⟩ := Option.bind_eq_some_iff.mp old
    exact Nat.lt_irrefl _ (apart.allocated last _ current)
  · intro held old
    obtain ⟨last, _, current⟩ := Option.bind_eq_some_iff.mp old
    rw [create_inodes apart.allocated current]
  · simp [Disk.create, Disk.issue, Disk.setInode]

theorem openTruncate_visible (apart : disk.Apart name scratch)
    (opened : disk.openTruncate scratch = some (after, inode)) :
    after.Apart name scratch ∧ after.read name = disk.read name ∧
      after.find after.cached scratch = some inode ∧ (after.inodes inode).cached = [] := by
  obtain ⟨place, reached, truncated⟩ := Option.map_eq_some_iff.mp opened
  have reached : disk.ending scratch = some place := reached
  have found := find_of_ending reached
  unfold truncateAt at truncated
  cases entry : disk.cached place with
  | some held =>
      rw [entry] at truncated found
      obtain ⟨rfl, rfl⟩ := Prod.mk.inj truncated
      have emptied : { disk.inodes held with cached := [], dirty := true }.link =
          (disk.inodes held).link := rfl
      obtain ⟨kept, read, lookup⟩ := apart.setInode found emptied
      refine ⟨kept, read, lookup, ?_⟩
      simp [Disk.setInode]
  | none =>
      rw [entry] at truncated
      obtain ⟨rfl, rfl⟩ := Prod.mk.inj truncated
      exact apart.create reached entry

theorem lookup_issue {op : DirectoryOp Name}
    (silent : ∀ passed ∈ disk.way name, op.entry passed = none) :
    (disk.issue op).ending name = disk.ending name ∧ (disk.issue op).way name = disk.way name ∧
      (disk.issue op).find (disk.issue op).cached name = disk.find disk.cached name := by
  have entries (passed : Name) (member : passed ∈ disk.way name) :
      (disk.issue op).cached passed = disk.cached passed :=
    cached_issue_other (silent passed member)
  refine lookup_congr (fun passed member => ?_) entries
  simp only [Disk.onward, entries passed member]
  rfl

theorem unlink_visible (apart : disk.Apart name scratch) :
    (disk.unlink scratch).Apart name scratch ∧
      (disk.unlink scratch).read name = disk.read name ∧
      (disk.unlink scratch).cached scratch = none := by
  have silent (passed : Name) (member : passed ∈ disk.way name) :
      (DirectoryOp.unlink scratch).entry passed = none := by
    simp [DirectoryOp.entry, ne_of_mem_of_not_mem member apart.outside]
  have gone : (disk.unlink scratch).cached scratch = none := by
    simp [Disk.unlink, Disk.issue, DirectoryOp.apply, DirectoryOp.entry]
  obtain ⟨_, way, same⟩ := lookup_issue silent
  refine ⟨.of_absent ?_ ?_ gone, read_congr same fun _ _ => rfl, gone⟩
  · intro other inode current
    simp only [Disk.unlink, Disk.issue, DirectoryOp.apply, DirectoryOp.entry] at current
    split at current
    · cases current
    · exact apart.allocated other inode current
  · exact fun member => apart.outside (way ▸ member)

theorem rename_entries {entry : Nat} (different : scratch ≠ name) :
    (disk.issue (.rename scratch name entry)).cached scratch = none ∧
      (disk.issue (.rename scratch name entry)).cached name = some entry := by
  constructor
  · simp [Disk.issue, DirectoryOp.apply, DirectoryOp.entry, different]
  · simp [Disk.issue, DirectoryOp.apply, DirectoryOp.entry]

theorem rename_allocated {entry : Nat}
    (allocated : ∀ other inode, disk.cached other = some inode → inode < disk.next)
    (current : disk.cached scratch = some entry) {other : Name}
    (standing : (disk.issue (.rename scratch name entry)).cached other = some inode) :
    inode < disk.next := by
  simp only [Disk.issue, DirectoryOp.apply, DirectoryOp.entry] at standing
  split at standing
  · cases standing
    exact allocated scratch _ current
  · split at standing
    · cases standing
    · exact allocated other inode standing

/-- The lookup goes on from the other name as it went on from the scratch name. -/
theorem rename_lookup {entry : Nat} (current : disk.cached scratch = some entry)
    (found : disk.find disk.cached scratch = some inode) (unmet : name ∉ disk.way scratch) :
    (disk.issue (.rename scratch name entry)).find
        (disk.issue (.rename scratch name entry)).cached name = some inode ∧
      scratch ∉ (disk.issue (.rename scratch name entry)).way name := by
  have different : scratch ≠ name := by
    rintro rfl
    exact unmet List.mem_cons_self
  have taken : (disk.issue (.rename scratch name entry)).cached name = some entry :=
    (rename_entries different).2
  have onward : (disk.issue (.rename scratch name entry)).onward
      (disk.issue (.rename scratch name entry)).cached name =
        disk.onward disk.cached scratch := by
    simp only [Disk.onward, taken, current]
    rfl
  cases step : disk.onward disk.cached scratch with
  | none =>
      have ended := onward.trans step
      have reached := (find_of_ending (Links.follow_end step)).trans current
      have held : some inode = some entry := found.symm.trans reached
      refine ⟨((find_of_ending (Links.follow_end ended)).trans taken).trans held.symm, ?_⟩
      rw [Disk.way, linkLimit, Links.visited_end ended]
      simpa using different
  | some further =>
      have ended := onward.trans step
      obtain ⟨place, reached, here⟩ := Option.bind_eq_some_iff.mp found
      rw [linkLimit, Links.follow_step step] at reached
      have again := Links.start_notMem step reached
      rw [Disk.way, linkLimit, Links.visited_step step] at unmet
      have avoided (passed : Name) (member : passed ∈ Links.visited
          (disk.onward disk.cached) 40 further) :
          (disk.issue (.rename scratch name entry)).cached passed = disk.cached passed := by
        refine cached_issue_other ?_
        simp [DirectoryOp.entry, ne_of_mem_of_not_mem member again,
          ne_of_mem_of_not_mem member fun member => unmet (List.mem_cons_of_mem _ member)]
      have same (passed : Name) (member : passed ∈ Links.visited
          (disk.onward disk.cached) 40 further) :
          (disk.issue (.rename scratch name entry)).onward
              (disk.issue (.rename scratch name entry)).cached passed =
            disk.onward disk.cached passed := by
        simp only [Disk.onward, avoided passed member]
        rfl
      obtain ⟨ends, passes⟩ := Links.walk_congr same
      constructor
      · rw [Disk.find, linkLimit, Links.follow_step ended, ends, reached, Option.bind_some,
          avoided place (Links.follow_last reached).1]
        exact here
      · rw [Disk.way, linkLimit, Links.visited_step ended, passes, List.mem_cons, not_or]
        exact ⟨different, again⟩

theorem rename_visible (apart : disk.Apart name scratch)
    (found : disk.find disk.cached scratch = some inode)
    (renamed : disk.rename scratch name = some after) :
    after.Apart name scratch ∧ after.read name = some (disk.inodes inode).cached ∧
      after.cached scratch = none := by
  obtain ⟨entry, current, moved⟩ := Option.map_eq_some_iff.mp renamed
  rw [if_neg (apart.entry_ne found current)] at moved
  subst moved
  have unmet := apart.name_notMem found
  have different : scratch ≠ name := by
    rintro rfl
    exact unmet List.mem_cons_self
  have gone : (disk.issue (.rename scratch name entry)).cached scratch = none :=
    (rename_entries different).1
  obtain ⟨shown, outside⟩ := rename_lookup current found unmet
  refine ⟨.of_absent (fun _ _ => rename_allocated apart.allocated current) outside gone, ?_, gone⟩
  rw [Disk.read, shown]
  rfl

end Disk

end Durability
