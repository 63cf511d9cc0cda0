import Mathlib.Data.List.Infix

/-!
Following pointers a bounded number of times. Each name points on to at most one other name;
the walk ends at a name that points nowhere, and fails when it takes too many steps.
-/

namespace Links

variable {Name : Type*}

def follow (next : Name → Option Name) : Nat → Name → Option Name
  | 0, _ => none
  | fuel + 1, name =>
      match next name with
      | none => some name
      | some further => follow next fuel further

def visited (next : Name → Option Name) : Nat → Name → List Name
  | 0, _ => []
  | fuel + 1, name =>
      name :: match next name with
        | none => []
        | some further => visited next fuel further

variable {next other : Name → Option Name} {fuel : Nat} {name last further : Name}

theorem follow_end (ended : next name = none) : follow next (fuel + 1) name = some name := by
  simp [follow, ended]

theorem visited_end (ended : next name = none) : visited next (fuel + 1) name = [name] := by
  simp [visited, ended]

theorem follow_step (step : next name = some further) :
    follow next (fuel + 1) name = follow next fuel further := by
  simp [follow, step]

theorem visited_step (step : next name = some further) :
    visited next (fuel + 1) name = name :: visited next fuel further := by
  simp [visited, step]

theorem walk_congr : ∀ {fuel : Nat} {name : Name},
    (∀ passed ∈ visited next fuel name, other passed = next passed) →
      follow other fuel name = follow next fuel name ∧
        visited other fuel name = visited next fuel name := by
  intro fuel
  induction fuel with
  | zero => intro name _; exact ⟨rfl, rfl⟩
  | succ fuel ih =>
      intro name same
      have first : other name = next name := same name List.mem_cons_self
      cases step : next name with
      | none =>
          rw [step] at first
          simp only [follow_end first, follow_end step, visited_end first, visited_end step,
            and_self]
      | some further =>
          rw [step] at first
          rw [visited_step step] at same
          obtain ⟨ends, passes⟩ := ih fun passed member =>
            same passed (List.mem_cons_of_mem _ member)
          simp only [follow_step first, follow_step step, visited_step first, visited_step step,
            ends, passes, and_self]

theorem follow_last : ∀ {fuel : Nat} {name : Name}, follow next fuel name = some last →
    last ∈ visited next fuel name ∧ next last = none := by
  intro fuel
  induction fuel with
  | zero => intro name walk; cases walk
  | succ fuel ih =>
      intro name walk
      cases step : next name with
      | none =>
          obtain rfl := Option.some.inj ((follow_end step).symm.trans walk)
          exact ⟨List.mem_cons_self, step⟩
      | some further =>
          rw [follow_step step] at walk
          rw [visited_step step]
          exact ⟨List.mem_cons_of_mem _ (ih walk).1, (ih walk).2⟩

theorem follow_more : ∀ {fuel : Nat} {name : Name}, follow next fuel name = some last →
    ∀ {more : Nat}, fuel ≤ more →
      follow next more name = some last ∧ visited next more name = visited next fuel name := by
  intro fuel
  induction fuel with
  | zero => intro name walk; cases walk
  | succ fuel ih =>
      intro name walk more enough
      cases more with
      | zero => omega
      | succ more =>
          cases step : next name with
          | none =>
              rw [follow_end step] at walk ⊢
              exact ⟨walk, (visited_end step).trans (visited_end step).symm⟩
          | some further =>
              rw [follow_step step] at walk ⊢
              obtain ⟨ends, passes⟩ := ih walk (Nat.le_of_succ_le_succ enough)
              rw [visited_step step, visited_step step, passes]
              exact ⟨ends, rfl⟩

theorem follow_from {passed : Name} : ∀ {fuel : Nat} {name : Name},
    follow next fuel name = some last → passed ∈ visited next fuel name →
      ∃ rest, rest ≤ fuel ∧ follow next rest passed = some last ∧
        visited next rest passed <:+ visited next fuel name := by
  intro fuel
  induction fuel with
  | zero => intro name walk; cases walk
  | succ fuel ih =>
      intro name walk member
      cases step : next name with
      | none =>
          rw [visited_end step] at member
          obtain rfl := List.mem_singleton.mp member
          exact ⟨fuel + 1, Nat.le_refl _, walk, List.suffix_refl _⟩
      | some further =>
          rw [visited_step step] at member
          rcases List.mem_cons.mp member with rfl | later
          · exact ⟨fuel + 1, Nat.le_refl _, walk, List.suffix_refl _⟩
          · rw [follow_step step] at walk
            obtain ⟨rest, enough, ends, suffix⟩ := ih walk later
            refine ⟨rest, Nat.le_succ_of_le enough, ends, ?_⟩
            rw [visited_step step]
            exact suffix.trans (List.suffix_cons _ _)

theorem start_notMem (step : next name = some further)
    (walk : follow next fuel further = some last) : name ∉ visited next fuel further := by
  intro member
  obtain ⟨rest, enough, ends, suffix⟩ := follow_from walk member
  have again := (follow_more ends (Nat.le_succ_of_le enough)).2
  rw [visited_step step] at again
  have shorter := suffix.length_le
  rw [← again, List.length_cons] at shorter
  exact Nat.not_succ_le_self _ shorter

end Links
