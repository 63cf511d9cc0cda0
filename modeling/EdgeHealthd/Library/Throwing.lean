/-!
Computations that return a value or throw. `Returns` says that nothing is thrown;
the rules push it through sequencing, branching and the list traversals of a
scripting language, which stop at the first throw.
-/

namespace Throwing

variable {Failure Value Result Item : Type}

def Returns (computation : Except Failure Value) : Prop :=
  ∃ value, computation = .ok value

theorem returns_ok (value : Value) : Returns (.ok value : Except Failure Value) :=
  ⟨value, rfl⟩

theorem returns_pure (value : Value) : Returns (pure value : Except Failure Value) :=
  ⟨value, rfl⟩

theorem not_returns_error (failure : Failure) : ¬Returns (.error failure : Except Failure Value) := by
  rintro ⟨value, impossible⟩
  cases impossible

theorem ok_bind (value : Value) (next : Value → Except Failure Result) :
    (Except.ok value >>= next) = next value := rfl

theorem bind_eq_ok {first : Except Failure Value} {next : Value → Except Failure Result}
    {result : Result} :
    (first >>= next) = .ok result ↔ ∃ value, first = .ok value ∧ next value = .ok result := by
  cases first with
  | error _ => simp [bind, Except.bind]
  | ok value => simp [bind, Except.bind]

theorem pure_eq_ok {value result : Value} :
    (pure value : Except Failure Value) = .ok result ↔ value = result := by
  simp [pure, Except.pure]

theorem returns_bind (first : Except Failure Value) (next : Value → Except Failure Result) :
    Returns (first >>= next) ↔ ∃ value, first = .ok value ∧ Returns (next value) := by
  cases first with
  | error failure =>
      constructor
      · intro returned
        exact absurd returned (not_returns_error failure)
      · rintro ⟨value, impossible, _⟩
        cases impossible
  | ok value =>
      constructor
      · intro returned
        exact ⟨value, rfl, returned⟩
      · rintro ⟨other, same, returned⟩
        cases same
        exact returned

theorem returns_bind_and {first : Except Failure Value} {next : Value → Except Failure Result}
    {later : Prop} (same : ∀ value, Returns (next value) ↔ later) :
    Returns (first >>= next) ↔ Returns first ∧ later := by
  rw [returns_bind]
  simp only [same]
  constructor
  · rintro ⟨value, found, returned⟩
    exact ⟨⟨value, found⟩, returned⟩
  · rintro ⟨⟨value, found⟩, returned⟩
    exact ⟨value, found, returned⟩

theorem returns_bind_of_total {first : Except Failure Value}
    {next : Value → Except Failure Result} (total : ∀ value, Returns (next value)) :
    Returns (first >>= next) ↔ Returns first := by
  rw [returns_bind_and fun value => iff_true_intro (total value), and_true]

theorem returns_map (computation : Except Failure Value) (change : Value → Result) :
    Returns (change <$> computation) ↔ Returns computation := by
  cases computation with
  | error failure => simp [Returns, Functor.map, Except.map]
  | ok value => simp [Returns, Functor.map, Except.map]

theorem returns_ite {condition : Prop} [Decidable condition]
    (first second : Except Failure Value) :
    Returns (if condition then first else second) ↔
      (condition → Returns first) ∧ (¬condition → Returns second) := by
  by_cases holds : condition <;> simp [holds]

theorem returns_mapM {step : Item → Except Failure Value} {items : List Item}
    (total : ∀ item ∈ items, Returns (step item)) : Returns (items.mapM step) := by
  induction items with
  | nil => exact returns_pure []
  | cons item rest ih =>
      obtain ⟨value, found⟩ := total item List.mem_cons_self
      obtain ⟨values, later⟩ := ih fun other member => total other (List.mem_cons_of_mem _ member)
      rw [List.mapM_cons, found, ok_bind, later, ok_bind]
      exact returns_pure _

/-- `Array.prototype.filter` with a predicate that may throw. -/
def filter (test : Item → Except Failure Bool) : List Item → Except Failure (List Item)
  | [] => .ok []
  | item :: rest => do
      let kept ← test item
      let later ← filter test rest
      return if kept then item :: later else later

theorem filter_eq_ok {test : Item → Except Failure Bool} {keep : Item → Bool} {items : List Item}
    (decided : ∀ item ∈ items, test item = .ok (keep item)) :
    filter test items = .ok (items.filter keep) := by
  induction items with
  | nil => rfl
  | cons item rest ih =>
      have here := decided item List.mem_cons_self
      have later := ih fun other member => decided other (List.mem_cons_of_mem _ member)
      rw [filter, here, ok_bind, later, ok_bind, List.filter_cons]
      rfl

theorem returns_filter (test : Item → Except Failure Bool) (items : List Item) :
    Returns (filter test items) ↔ ∀ item ∈ items, Returns (test item) := by
  induction items with
  | nil => simp [filter, returns_ok]
  | cons item rest ih =>
      simp only [filter, List.mem_cons, forall_eq_or_imp]
      rw [returns_bind, ← ih]
      constructor
      · rintro ⟨kept, found, returned⟩
        obtain ⟨later, traversed, _⟩ := (returns_bind _ _).mp returned
        exact ⟨⟨kept, found⟩, ⟨later, traversed⟩⟩
      · rintro ⟨⟨kept, found⟩, later, traversed⟩
        exact ⟨kept, found, (returns_bind _ _).mpr ⟨later, traversed, returns_pure _⟩⟩

/-- `Array.prototype.some`: the first item that passes ends the search. -/
def any (test : Item → Except Failure Bool) : List Item → Except Failure Bool
  | [] => .ok false
  | item :: rest => do
      if ← test item then return true
      any test rest

theorem any_eq_ok {test : Item → Except Failure Bool} {passes : Item → Bool} {items : List Item}
    (decided : ∀ item ∈ items, test item = .ok (passes item)) :
    any test items = .ok (items.any passes) := by
  induction items with
  | nil => rfl
  | cons item rest ih =>
      have here := decided item List.mem_cons_self
      have later := ih fun other member => decided other (List.mem_cons_of_mem _ member)
      rw [any, here, ok_bind, List.any_cons]
      cases passes item with
      | true => rfl
      | false => exact later

theorem returns_any_of_none {test : Item → Except Failure Bool} {items : List Item}
    (none : ∀ item ∈ items, test item ≠ .ok true) :
    Returns (any test items) ↔ ∀ item ∈ items, Returns (test item) := by
  induction items with
  | nil => simp [any, returns_ok]
  | cons item rest ih =>
      have here := none item List.mem_cons_self
      have later := ih fun other member => none other (List.mem_cons_of_mem _ member)
      simp only [any, List.mem_cons, forall_eq_or_imp]
      rw [returns_bind, ← later]
      constructor
      · rintro ⟨passed, found, returned⟩
        cases passed with
        | true => exact absurd found here
        | false => exact ⟨⟨false, found⟩, returned⟩
      · rintro ⟨⟨passed, found⟩, returned⟩
        cases passed with
        | true => exact absurd found here
        | false => exact ⟨false, found, returned⟩

end Throwing
