import Mathlib.Data.List.Induction

/-!
Finite runs of two kinds of machine. A reactive machine answers every input with
an output; a labelled machine takes an action only where it is enabled. Both
come with the rule that what one step preserves holds after every run.
-/

namespace Machine

variable {State Input Output Action : Type*}

def respond (step : State → Input → State × Output) : State → List Input → State × List Output
  | state, [] => (state, [])
  | state, input :: rest =>
      let later := respond step (step state input).1 rest
      (later.1, (step state input).2 :: later.2)

theorem respond_append (step : State → Input → State × Output) (state : State)
    (first second : List Input) :
    respond step state (first ++ second) =
      ((respond step (respond step state first).1 second).1,
        (respond step state first).2 ++ (respond step (respond step state first).1 second).2) := by
  induction first generalizing state with
  | nil => rfl
  | cons input rest ih => simp [respond, ih]

theorem respond_snoc (step : State → Input → State × Output) (state : State)
    (past : List Input) (input : Input) :
    respond step state (past ++ [input]) =
      ((step (respond step state past).1 input).1,
        (respond step state past).2 ++ [(step (respond step state past).1 input).2]) := by
  rw [respond_append]
  rfl

theorem respond_length (step : State → Input → State × Output) (state : State)
    (inputs : List Input) : (respond step state inputs).2.length = inputs.length := by
  induction inputs generalizing state with
  | nil => rfl
  | cons input rest ih => simp [respond, ih]

theorem respond_take (step : State → Input → State × Output) (state : State)
    (inputs : List Input) (count : Nat) :
    (respond step state inputs).2.take count = (respond step state (inputs.take count)).2 := by
  induction inputs generalizing state count with
  | nil => simp [respond]
  | cons input rest ih =>
      cases count with
      | zero => rfl
      | succ count => simp [respond, ih]

theorem respond_getElem? (step : State → Input → State × Output) (state : State)
    (inputs : List Input) (index : Nat) :
    (respond step state inputs).2[index]? =
      inputs[index]?.map fun input => (step (respond step state (inputs.take index)).1 input).2 := by
  induction inputs generalizing state index with
  | nil => simp [respond]
  | cons input rest ih =>
      cases index with
      | zero => rfl
      | succ index => simp [respond, ih]

def follow (step : State → Action → Option State) : State → List Action → Option State
  | state, [] => some state
  | state, action :: rest => (step state action).bind fun next => follow step next rest

theorem follow_append (step : State → Action → Option State) (state : State)
    (first second : List Action) :
    follow step state (first ++ second) =
      (follow step state first).bind fun middle => follow step middle second := by
  induction first generalizing state with
  | nil => rfl
  | cons action rest ih =>
      simp only [List.cons_append, follow, Option.bind_assoc]
      congr 1
      funext next
      exact ih next

theorem follow_cons_some {step : State → Action → Option State} {state final : State}
    {action : Action} {rest : List Action} :
    follow step state (action :: rest) = some final ↔
      ∃ next, step state action = some next ∧ follow step next rest = some final := by
  simp only [follow, Option.bind_eq_some_iff]

theorem follow_append_some {step : State → Action → Option State} {state final : State}
    {first second : List Action} :
    follow step state (first ++ second) = some final ↔
      ∃ middle, follow step state first = some middle ∧ follow step middle second = some final := by
  simp only [follow_append, Option.bind_eq_some_iff]

theorem follow_snoc_some {step : State → Action → Option State} {state final : State}
    {past : List Action} {action : Action} :
    follow step state (past ++ [action]) = some final ↔
      ∃ middle, follow step state past = some middle ∧ step middle action = some final := by
  rw [follow_append_some]
  simp [follow]

/-- A property of histories and states that every step extends holds of every run. -/
theorem follow_induction {step : State → Action → Option State} {start : State}
    (property : List Action → State → Prop) (initial : property [] start)
    (preserved : ∀ past state action next, follow step start past = some state →
      property past state → step state action = some next → property (past ++ [action]) next)
    {actions : List Action} {final : State} (run : follow step start actions = some final) :
    property actions final := by
  induction actions using List.reverseRecOn generalizing final with
  | nil =>
      simp only [follow, Option.some.injEq] at run
      exact run ▸ initial
  | append_singleton past action ih =>
      obtain ⟨middle, earlier, last⟩ := follow_snoc_some.mp run
      exact preserved past middle action final earlier (ih earlier) last

/-- A property that the allowed actions preserve survives every run of them. -/
theorem follow_preserves {step : State → Action → Option State} (property : State → Prop)
    (allowed : Action → Prop)
    (preserved : ∀ state action next, allowed action → property state →
      step state action = some next → property next)
    {actions : List Action} {state final : State} (run : follow step state actions = some final)
    (only : ∀ action ∈ actions, allowed action) (holds : property state) : property final := by
  induction actions generalizing state with
  | nil =>
      simp only [follow, Option.some.injEq] at run
      exact run ▸ holds
  | cons action rest ih =>
      obtain ⟨next, taken, later⟩ := follow_cons_some.mp run
      apply ih later
      · intro other member
        exact only other (List.mem_cons_of_mem _ member)
      · exact preserved state action next (only action List.mem_cons_self) holds taken

def Throughout (step : State → Action → Option State) (start : State) (property : State → Prop)
    (actions : List Action) : Prop :=
  ∀ past rest state, actions = past ++ rest → follow step start past = some state →
    property state

def EachStep (step : State → Action → Option State) (start : State)
    (allowed : State → Action → Prop) (actions : List Action) : Prop :=
  ∀ past action rest state, actions = past ++ action :: rest →
    follow step start past = some state → allowed state action

theorem EachStep.nil {step : State → Action → Option State} {start : State}
    {allowed : State → Action → Prop} : EachStep step start allowed [] := by
  intro past action rest state shape _
  exact absurd shape (by simp)

theorem EachStep.head_tail {step : State → Action → Option State} {start : State}
    {allowed : State → Action → Prop} {action : Action} {actions : List Action}
    (first : allowed start action)
    (later : ∀ next, step start action = some next → EachStep step next allowed actions) :
    EachStep step start allowed (action :: actions) := by
  intro past other rest state shape reached
  cases past with
  | nil =>
      obtain ⟨rfl, rfl⟩ := List.cons.inj shape
      simp only [follow, Option.some.injEq] at reached
      exact reached ▸ first
  | cons head past =>
      obtain ⟨rfl, same⟩ := List.cons.inj shape
      obtain ⟨next, taken, reached⟩ := follow_cons_some.mp reached
      exact later next taken past other rest state same reached

theorem EachStep.cons {step : State → Action → Option State} {start next : State}
    {allowed : State → Action → Prop} {action : Action} {actions : List Action}
    (first : allowed start action) (taken : step start action = some next)
    (later : EachStep step next allowed actions) :
    EachStep step start allowed (action :: actions) := by
  refine .head_tail first fun other done => ?_
  obtain rfl := Option.some.inj (taken.symm.trans done)
  exact later

theorem eachStep_snoc {step : State → Action → Option State} {start middle : State}
    {allowed : State → Action → Prop} {past : List Action} {action : Action}
    (reached : follow step start past = some middle) :
    EachStep step start allowed (past ++ [action]) ↔
      EachStep step start allowed past ∧ allowed middle action := by
  constructor
  · intro each
    refine ⟨?_, each past action [] middle rfl reached⟩
    intro before other rest state shape earlier
    refine each before other (rest ++ [action]) state ?_ earlier
    rw [shape, List.append_assoc, List.cons_append]
  · rintro ⟨each, last⟩ before other rest state shape earlier
    rcases List.eq_nil_or_concat rest with rfl | ⟨front, final, rfl⟩
    · obtain ⟨rfl, single⟩ := List.append_inj' shape rfl
      obtain rfl := List.singleton_inj.mp single
      obtain rfl := Option.some.inj (reached.symm.trans earlier)
      exact last
    · rw [List.concat_eq_append, ← List.cons_append, ← List.append_assoc] at shape
      exact each before other front state (List.append_inj_left' shape rfl) earlier

def checkSteps (step : State → Action → Option State) (allowed : State → Action → Prop)
    [∀ state action, Decidable (allowed state action)] : State → List Action → Bool
  | _, [] => true
  | state, action :: rest =>
      decide (allowed state action) &&
        (step state action).all fun next => checkSteps step allowed next rest

theorem eachStep_of_checkSteps {step : State → Action → Option State} {start : State}
    {allowed : State → Action → Prop} [∀ state action, Decidable (allowed state action)]
    {actions : List Action} (checked : checkSteps step allowed start actions) :
    EachStep step start allowed actions := by
  induction actions generalizing start with
  | nil => exact .nil
  | cons action rest ih =>
      simp only [checkSteps, Bool.and_eq_true, decide_eq_true_eq] at checked
      refine .head_tail checked.1 fun next done => ih ?_
      have later := checked.2
      rw [done, Option.all_some] at later
      exact later

/-- An invariant of the allowed steps holds throughout a run of them. -/
theorem throughout_of_eachStep {step : State → Action → Option State} {start : State}
    {actions : List Action} {allowed : State → Action → Prop} (invariant : State → Prop)
    (valid : invariant start)
    (kept : ∀ state action next, invariant state → allowed state action →
      step state action = some next → invariant next)
    (permitted : EachStep step start allowed actions) :
    Throughout step start invariant actions := by
  intro past
  induction past using List.reverseRecOn with
  | nil =>
      intro rest state _ reached
      simp only [follow, Option.some.injEq] at reached
      exact reached ▸ valid
  | append_singleton past action ih =>
      intro rest state shape reached
      obtain ⟨before, earlier, done⟩ := follow_snoc_some.mp reached
      rw [List.append_assoc, List.singleton_append] at shape
      exact kept before action state (ih (action :: rest) before shape earlier)
        (permitted past action rest before shape earlier) done

theorem Throughout.imp {step : State → Action → Option State} {start : State}
    {actions : List Action} {property weaker : State → Prop}
    (always : Throughout step start property actions)
    (follows : ∀ state, property state → weaker state) :
    Throughout step start weaker actions :=
  fun past rest state shape reached => follows state (always past rest state shape reached)

/-- Where the allowed steps are exactly those that keep the property, it holds
throughout a run exactly when every step of the run is allowed. -/
theorem throughout_iff_eachStep {step : State → Action → Option State} {start final : State}
    {actions : List Action} (invariant property : State → Prop)
    (allowed : State → Action → Prop) (valid : invariant start) (initial : property start)
    (kept : ∀ state action next, invariant state → step state action = some next →
      invariant next)
    (exact : ∀ state action next, invariant state → property state →
      step state action = some next → (property next ↔ allowed state action))
    (run : follow step start actions = some final) :
    Throughout step start property actions ↔ EachStep step start allowed actions := by
  have always : ∀ {past : List Action} {state : State}, follow step start past = some state →
      invariant state := by
    intro past state reached
    exact follow_preserves invariant (fun _ => True) (fun before action next _ => kept before
      action next) reached (fun _ _ => trivial) valid
  have taken : ∀ {past : List Action} {action : Action} {rest : List Action} {state : State},
      actions = past ++ action :: rest → follow step start past = some state →
      ∃ next, step state action = some next := by
    intro past action rest state shape reached
    rw [shape] at run
    obtain ⟨middle, before, later⟩ := follow_append_some.mp run
    obtain rfl := Option.some.inj (before.symm.trans reached)
    obtain ⟨next, done, _⟩ := follow_cons_some.mp later
    exact ⟨next, done⟩
  constructor
  · intro holds past action rest state shape reached
    obtain ⟨next, done⟩ := taken shape reached
    refine (exact state action next (always reached) (holds past _ state shape reached) done).mp ?_
    refine holds (past ++ [action]) rest next ?_ (follow_snoc_some.mpr ⟨state, reached, done⟩)
    rw [shape, List.append_assoc]
    rfl
  · intro permitted
    refine (throughout_of_eachStep (fun state => invariant state ∧ property state)
      ⟨valid, initial⟩ ?_ permitted).imp fun _ both => both.2
    rintro state action next ⟨held, holds⟩ permits done
    exact ⟨kept state action next held done, (exact state action next held holds done).mpr permits⟩

end Machine
