import EdgeHealthd.Library.Spacing
import Mathlib

/-!
Two gates before a log. `admitted` lets an item through when nothing went through less than
`gap` before it, and counts what it holds back. `reported` lets a value through when it
differs from the last one that went through, or when that one is at least `gap` old.
-/

namespace Throttle

variable {Time Item Value : Type*} [AddCommGroup Time] [LinearOrder Time]

section Admitted

structure Admitted (Time Item : Type*) where
  time : Time
  item : Item
  held : Nat

def admitted (gap : Time) : Option Time → Nat → List (Time × Item) → List (Admitted Time Item)
  | _, _, [] => []
  | last, held, (now, item) :: rest =>
      if Spacing.passes gap last now then ⟨now, item, held⟩ :: admitted gap (some now) 0 rest
      else admitted gap last (held + 1) rest

def pending (gap : Time) : Option Time → Nat → List (Time × Item) → Nat
  | _, held, [] => held
  | last, held, (now, _) :: rest =>
      if Spacing.passes gap last now then pending gap (some now) 0 rest
      else pending gap last (held + 1) rest

theorem admitted_times (gap : Time) (items : List (Time × Item)) : ∀ last held,
    (admitted gap last held items).map Admitted.time =
      Spacing.passed gap last (items.map Prod.fst) := by
  induction items with
  | nil => intro last held; rfl
  | cons entry rest ih =>
      intro last held
      obtain ⟨now, item⟩ := entry
      rw [List.map_cons, Spacing.passed_cons, admitted]
      split
      · rw [List.map_cons, ih]
      · rw [ih]

/-- Less than `gap` after what went through last. -/
def Early (gap : Time) (last : Option Time) (now : Time) : Prop :=
  ∃ before, last = some before ∧ now < before + gap

/-- Which items are admitted, and with which counts: an item that comes early is held back, and
the first one that does not is admitted with the number of those held back before it. What is
held back after the last line is still counted. -/
inductive Gated (gap : Time) :
    Option Time → List (Time × Item) → List (Admitted Time Item) → Nat → Prop
  | quiet {last : Option Time} {waiting : List (Time × Item)}
      (early : ∀ entry ∈ waiting, Early gap last entry.1) :
      Gated gap last waiting [] waiting.length
  | line {last : Option Time} {waiting rest : List (Time × Item)} {now : Time} {item : Item}
      {lines : List (Admitted Time Item)} {held : Nat}
      (early : ∀ entry ∈ waiting, Early gap last entry.1) (due : ¬Early gap last now)
      (later : Gated gap (some now) rest lines held) :
      Gated gap last (waiting ++ (now, item) :: rest) (⟨now, item, waiting.length⟩ :: lines) held

theorem passes_iff {gap : Time} {last : Option Time} {now : Time} :
    Spacing.passes gap last now = true ↔ ¬Early gap last now := by
  cases last <;> simp [Spacing.passes, Early]

/-- `waiting` are the items held back so far. -/
theorem gated_admitted (gap : Time) (items : List (Time × Item)) : ∀ last waiting,
    (∀ entry ∈ waiting, Early gap last entry.1) →
      Gated gap last (waiting ++ items) (admitted gap last waiting.length items)
        (pending gap last waiting.length items) := by
  induction items with
  | nil =>
      intro last waiting early
      rw [List.append_nil]
      exact .quiet early
  | cons entry rest ih =>
      intro last waiting early
      obtain ⟨now, item⟩ := entry
      rw [admitted, pending]
      split
      · rename_i through
        exact .line early (passes_iff.mp through) (ih (some now) [] (List.forall_mem_nil _))
      · rename_i stopped
        have more : ∀ entry ∈ waiting ++ [(now, item)], Early gap last entry.1 := by
          intro entry member
          rcases List.mem_append.mp member with before | new
          · exact early entry before
          · obtain rfl := List.mem_singleton.mp new
            exact not_not.mp (mt passes_iff.mpr stopped)
        have held := ih last (waiting ++ [(now, item)]) more
        rwa [List.append_assoc, List.length_append] at held

variable [IsOrderedAddMonoid Time]

theorem admitted_spaced (gap : Time) (nonneg : 0 ≤ gap) (items : List (Time × Item))
    (last : Option Time) (held : Nat) :
    Spacing.Spaced gap ((admitted gap last held items).map Admitted.time) := by
  rw [admitted_times]
  exact Spacing.passed_spaced gap nonneg _ last

/-- Behind every item stands one that went through, less than `gap` earlier. -/
theorem admitted_covers {gap : Time} (positive : 0 < gap) (items : List (Time × Item)) :
    ∀ last held, items.Pairwise (fun earlier later => earlier.1 ≤ later.1) →
      ∀ entry ∈ items, (∃ before, last = some before ∧ entry.1 < before + gap) ∨
        ∃ line ∈ admitted gap last held items, line.time ≤ entry.1 ∧ entry.1 < line.time + gap := by
  induction items with
  | nil => intro last held _ entry member; cases member
  | cons first rest ih =>
      intro last held ordered entry member
      obtain ⟨now, item⟩ := first
      obtain ⟨after, later⟩ := List.pairwise_cons.mp ordered
      rw [admitted]
      split
      · right
        rcases List.mem_cons.mp member with rfl | inside
        · exact ⟨_, List.mem_cons_self, le_refl now, lt_add_of_pos_right now positive⟩
        · rcases ih (some now) 0 later entry inside with ⟨before, same, close⟩ | ⟨line, shown, close⟩
          · obtain rfl := Option.some.inj same
            exact ⟨_, List.mem_cons_self, after entry inside, close⟩
          · exact ⟨line, List.mem_cons_of_mem _ shown, close⟩
      · rename_i held
        rcases List.mem_cons.mp member with rfl | inside
        · cases last with
          | none => exact absurd rfl held
          | some before =>
              exact Or.inl ⟨before, rfl, by simpa [Spacing.passes] using held⟩
        · exact ih last _ later entry inside

end Admitted

section Reported

variable [DecidableEq Value] (gap : Time) (key : Item → Value)

/-- `last` is the item that went through last. -/
def news (last : Option (Time × Item)) (now : Time) (item : Item) : Bool :=
  last.all fun last => decide (key last.2 ≠ key item ∨ last.1 + gap ≤ now)

def reported : Option (Time × Item) → List (Time × Item) → List (Time × Item)
  | _, [] => []
  | last, (now, item) :: rest =>
      if news gap key last now item then (now, item) :: reported (some (now, item)) rest
      else reported last rest

variable {gap key}

theorem news_none (now : Time) (item : Item) : news gap key none now item = true := rfl

theorem key_of_not_news {last : Time × Item} {now : Time} {item : Item}
    (old : ¬news gap key (some last) now item = true) : key last.2 = key item := by
  simp only [news, Option.all_some, decide_eq_true_eq, not_or, not_not] at old
  exact old.1

theorem reported_sublist (items : List (Time × Item)) : ∀ last,
    (reported gap key last items).Sublist items := by
  induction items with
  | nil => intro last; exact List.Sublist.slnil
  | cons entry rest ih =>
      intro last
      obtain ⟨now, item⟩ := entry
      rw [reported]
      split
      · exact (ih (some (now, item))).cons_cons _
      · exact (ih last).cons _

theorem reported_append (earlier later : List (Time × Item)) : ∀ last,
    reported gap key last (earlier ++ later) =
      reported gap key last earlier ++
        reported gap key ((reported gap key last earlier).getLast?.or last) later := by
  induction earlier with
  | nil => intro last; rfl
  | cons entry rest ih =>
      intro last
      obtain ⟨now, item⟩ := entry
      rw [List.cons_append, reported, reported]
      split
      · rw [ih, List.cons_append, List.getLast?_cons]
        cases (reported gap key (some (now, item)) rest).getLast? <;> rfl
      · exact ih last

theorem reported_destutter_after (items : List (Time × Item)) : ∀ last,
    ((reported gap key (some last) items).map fun entry => key entry.2).destutter' (· ≠ ·)
        (key last.2) =
      (items.map fun entry => key entry.2).destutter' (· ≠ ·) (key last.2) := by
  induction items with
  | nil => intro last; rfl
  | cons entry rest ih =>
      intro last
      obtain ⟨now, item⟩ := entry
      rw [reported]
      split
      · simp only [List.map_cons, List.destutter'_cons]
        split
        · rw [ih (now, item)]
        · rename_i same
          rw [not_not.mp same]
          exact ih (now, item)
      · rename_i old
        have same := key_of_not_news old
        rw [ih last, List.map_cons, List.destutter'_cons_neg _ (not_not.mpr same)]

/-- The values that go through change as the values do: no change is lost and none is made up. -/
theorem reported_destutter (items : List (Time × Item)) :
    ((reported gap key none items).map fun entry => key entry.2).destutter (· ≠ ·) =
      (items.map fun entry => key entry.2).destutter (· ≠ ·) := by
  cases items with
  | nil => rfl
  | cons entry rest =>
      obtain ⟨now, item⟩ := entry
      rw [reported, if_pos (news_none now item)]
      exact reported_destutter_after rest (now, item)

theorem reported_apart_after (items : List (Time × Item)) : ∀ last,
    (last :: reported gap key (some last) items).IsChain
      fun earlier later => key earlier.2 = key later.2 → earlier.1 + gap ≤ later.1 := by
  induction items with
  | nil => intro last; exact List.isChain_singleton last
  | cons entry rest ih =>
      intro last
      obtain ⟨now, item⟩ := entry
      rw [reported]
      split
      · rename_i new
        refine List.isChain_cons_cons.mpr ⟨?_, ih (now, item)⟩
        intro same
        simp only [news, Option.all_some, decide_eq_true_eq] at new
        exact new.resolve_left (not_not.mpr same)
      · exact ih last

theorem reported_apart (items : List (Time × Item)) :
    (reported gap key none items).IsChain
      fun earlier later => key earlier.2 = key later.2 → earlier.1 + gap ≤ later.1 := by
  cases items with
  | nil => exact List.isChain_nil
  | cons entry rest =>
      obtain ⟨now, item⟩ := entry
      rw [reported, if_pos (news_none now item)]
      exact reported_apart_after rest (now, item)

theorem reported_latest_after (items : List (Time × Item)) : ∀ last,
    (reported gap key (some last) items).getLast?.elim (key last.2) (fun entry => key entry.2) =
      items.getLast?.elim (key last.2) fun entry => key entry.2 := by
  induction items with
  | nil => intro last; rfl
  | cons entry rest ih =>
      intro last
      obtain ⟨now, item⟩ := entry
      have next : ((now, item) :: rest).getLast?.elim (key last.2) (fun entry => key entry.2) =
          rest.getLast?.elim (key item) fun entry => key entry.2 := by
        rw [List.getLast?_cons]
        cases rest.getLast? <;> rfl
      rw [reported, next]
      split
      · rw [← ih (now, item), List.getLast?_cons]
        cases (reported gap key (some (now, item)) rest).getLast? <;> rfl
      · rename_i old
        rw [ih last, key_of_not_news old]

theorem reported_latest (items : List (Time × Item)) :
    ((reported gap key none items).getLast?.map fun entry => key entry.2) =
      items.getLast?.map fun entry => key entry.2 := by
  cases items with
  | nil => rfl
  | cons entry rest =>
      obtain ⟨now, item⟩ := entry
      have latest : (reported gap key (some (now, item)) rest).getLast?.elim (key item) _ = _ :=
        reported_latest_after rest (now, item)
      rw [reported, if_pos (news_none now item), List.getLast?_cons, List.getLast?_cons]
      revert latest
      cases (reported gap key (some (now, item)) rest).getLast? <;> cases rest.getLast? <;>
        exact congrArg some

theorem reported_change (past rest : List (Time × Item)) (entry : Time × Item)
    (new : past.getLast?.map (fun before => key before.2) ≠ some (key entry.2)) :
    reported gap key none (past ++ entry :: rest) =
      reported gap key none past ++ entry :: reported gap key (some entry) rest := by
  obtain ⟨now, item⟩ := entry
  have through : news gap key (reported gap key none past).getLast? now item = true := by
    have latest : ((reported gap key none past).getLast?.map fun before => key before.2) =
        past.getLast?.map fun before => key before.2 := reported_latest past
    rw [← latest] at new
    cases last : (reported gap key none past).getLast? with
    | none => rfl
    | some before =>
        rw [last] at new
        have different : key before.2 ≠ key item := fun same => new (congrArg some same)
        simp [news, different]
  rw [reported_append, Option.or_none, reported, if_pos through]

end Reported

end Throttle
