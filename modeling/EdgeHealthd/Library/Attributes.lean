import Mathlib.Data.List.TakeWhile

/-!
Reading a buffer of length-prefixed attributes through a pointer. The memory is
the list of bytes from the pointer to the end of the buffer, and a read past
that end has no result. The walk over the attributes tests every one against
the same size, so it stops only where a length field makes it stop.
-/

namespace Attributes

abbrev Memory := List UInt8

def littleEndian (bytes : List UInt8) : Nat :=
  bytes.foldr (fun byte rest => byte.toNat + 256 * rest) 0

namespace Memory

def slice (memory : Memory) (offset width : Nat) : Option (List UInt8) :=
  let bytes := (memory.drop offset).take width
  if bytes.length = width then some bytes else none

def read (memory : Memory) (offset width : Nat) : Option Nat :=
  (memory.slice offset width).map littleEndian

/-- A C string; it has no end where no zero byte follows. -/
def cString (memory : Memory) (offset : Nat) : Option (List UInt8) :=
  if (memory.drop offset).contains 0 then some ((memory.drop offset).takeWhile (· != 0)) else none

theorem slice_eq_some {memory : Memory} {offset width : Nat} {bytes : List UInt8}
    (found : memory.slice offset width = some bytes) :
    (memory.drop offset).take width = bytes ∧ width ≤ memory.length - offset := by
  simp only [slice, Option.ite_none_right_eq_some, Option.some.injEq] at found
  refine ⟨found.2, ?_⟩
  have size := found.1
  simp only [List.length_take, List.length_drop] at size
  omega

theorem slice_isSome {memory : Memory} {offset width : Nat} (bound : offset + width ≤ memory.length) :
    ∃ bytes, memory.slice offset width = some bytes := by
  refine ⟨(memory.drop offset).take width, ?_⟩
  simp only [slice, Option.ite_none_right_eq_some, and_true]
  simp only [List.length_take, List.length_drop]
  omega

theorem slice_append {memory : Memory} {offset width : Nat} {bytes : List UInt8}
    (found : memory.slice offset width = some bytes) (after : Memory) :
    slice (memory ++ after) offset width = some bytes := by
  obtain ⟨taken, bound⟩ := slice_eq_some found
  have same : ((memory ++ after).drop offset).take width = (memory.drop offset).take width := by
    by_cases short : offset ≤ memory.length
    · rw [List.drop_append_of_le_length short, List.take_append_of_le_length]
      simpa using bound
    · have none : width = 0 := by omega
      simp [none]
  simp only [slice, same] at found ⊢
  exact found

theorem read_append {memory : Memory} {offset width value : Nat}
    (found : memory.read offset width = some value) (after : Memory) :
    read (memory ++ after) offset width = some value := by
  obtain ⟨bytes, taken, rfl⟩ := Option.map_eq_some_iff.mp found
  simp [read, slice_append taken]

theorem read_bound {memory : Memory} {offset width value : Nat}
    (found : memory.read offset width = some value) : width ≤ memory.length - offset := by
  obtain ⟨bytes, taken, _⟩ := Option.map_eq_some_iff.mp found
  exact (slice_eq_some taken).2

theorem read_isSome {memory : Memory} {offset width : Nat}
    (bound : offset + width ≤ memory.length) : ∃ value, memory.read offset width = some value := by
  obtain ⟨bytes, taken⟩ := slice_isSome bound
  exact ⟨littleEndian bytes, by simp [read, taken]⟩

theorem slice_isSome_iff {memory : Memory} {offset width : Nat} (some : 0 < width) :
    (memory.slice offset width).isSome ↔ offset + width ≤ memory.length := by
  constructor
  · intro present
    obtain ⟨bytes, taken⟩ := Option.isSome_iff_exists.mp present
    have bound := (slice_eq_some taken).2
    omega
  · intro bound
    exact Option.isSome_iff_exists.mpr (slice_isSome bound)

theorem read_isSome_iff {memory : Memory} {offset width : Nat} (some : 0 < width) :
    (memory.read offset width).isSome ↔ offset + width ≤ memory.length := by
  rw [read, Option.isSome_map]
  exact slice_isSome_iff some

theorem cString_isSome_iff {memory : Memory} {offset : Nat} :
    (memory.cString offset).isSome ↔ 0 ∈ memory.drop offset := by
  unfold cString
  split
  · rename_i ended
    simpa using ended
  · rename_i endless
    simpa using endless

theorem cString_append {memory : Memory} {offset : Nat} {text : List UInt8}
    (found : memory.cString offset = some text) (after : Memory) :
    cString (memory ++ after) offset = some text := by
  simp only [cString, Option.ite_none_right_eq_some, Option.some.injEq] at found ⊢
  obtain ⟨ended, rfl⟩ := found
  have short : offset ≤ memory.length := by
    by_contra long
    rw [List.drop_of_length_le (by omega)] at ended
    simp at ended
  rw [List.drop_append_of_le_length short]
  constructor
  · simp only [List.contains_eq_mem, List.mem_append, decide_eq_true_eq] at ended ⊢
    exact Or.inl ended
  · have stops : (memory.drop offset).takeWhile (· != 0) ≠ memory.drop offset := by
      intro whole
      have every := List.takeWhile_eq_self_iff.mp whole 0 (by simpa using ended)
      simp at every
    rw [List.takeWhile_append]
    split
    · rename_i whole
      exact absurd ((List.takeWhile_prefix _).eq_of_length whole) stops
    · rfl

end Memory

/-- The second computation gives whatever result the first one has. -/
def Extends {Value : Type*} (first second : Option Value) : Prop :=
  ∀ value, first = some value → second = some value

section Extends

variable {Value Result : Type*} {first second : Option Value}

theorem Extends.refl (value : Option Value) : Extends value value := fun _ found => found

theorem Extends.map (extended : Extends first second) (update : Value → Result) :
    Extends (first.map update) (second.map update) := by
  intro result found
  obtain ⟨value, present, rfl⟩ := Option.map_eq_some_iff.mp found
  simp [extended value present]

theorem Extends.bind (extended : Extends first second) {left right : Value → Option Result}
    (later : ∀ value, Extends (left value) (right value)) :
    Extends (first.bind left) (second.bind right) := by
  intro result found
  obtain ⟨value, present, rest⟩ := Option.bind_eq_some_iff.mp found
  simp [extended value present, later value result rest]

theorem Extends.ite {condition : Prop} [Decidable condition] {third fourth : Option Value}
    (yes : Extends first second) (no : Extends third fourth) :
    Extends (if condition then first else third) (if condition then second else fourth) := by
  split
  · exact yes
  · exact no

def Yields (property : Value → Prop) (computed : Option Value) : Prop :=
  ∀ value, computed = some value → property value

variable {property : Value → Prop}

theorem Yields.some {value : Value} (holds : property value) :
    Yields property (some value) :=
  fun _ same => Option.some.inj same ▸ holds

theorem Yields.map {source : Option Result} {update : Result → Value}
    (holds : ∀ value, property (update value)) : Yields property (source.map update) := by
  intro value found
  obtain ⟨origin, _, rfl⟩ := Option.map_eq_some_iff.mp found
  exact holds origin

theorem Yields.bind {source : Option Result} {later : Result → Option Value}
    (holds : ∀ value, Yields property (later value)) : Yields property (source.bind later) := by
  intro value found
  obtain ⟨origin, _, rest⟩ := Option.bind_eq_some_iff.mp found
  exact holds origin value rest

theorem Yields.ite {condition : Prop} [Decidable condition] (yes : Yields property first)
    (no : Yields property second) : Yields property (if condition then first else second) := by
  split
  · exact yes
  · exact no

theorem Memory.extends_slice (memory after : Memory) (offset width : Nat) :
    Extends (memory.slice offset width) (slice (memory ++ after) offset width) :=
  fun _ found => slice_append found after

theorem Memory.extends_read (memory after : Memory) (offset width : Nat) :
    Extends (memory.read offset width) (read (memory ++ after) offset width) :=
  fun _ found => read_append found after

theorem Memory.extends_cString (memory after : Memory) (offset : Nat) :
    Extends (memory.cString offset) (cString (memory ++ after) offset) :=
  fun _ found => cString_append found after

end Extends

def align4 (length : Nat) : Nat := (length + 3) / 4 * 4

theorem le_align4 (length : Nat) : length ≤ align4 length := by
  unfold align4
  omega

/-- The length field is read only where the size leaves room for a header. -/
def attrOk (attr : Memory) (size : Int) : Option Bool :=
  if size < 4 then some false
  else (attr.read 0 2).map fun length : Nat => decide (4 ≤ length ∧ (length : Int) ≤ size)

section Walk

variable {State : Type*}

def walkFuel (visit : Memory → State → Option State) (size : Int) :
    Nat → Memory → State → Option State
  | 0, _, _ => none
  | fuel + 1, attr, state =>
      match attrOk attr size with
      | none => none
      | some false => some state
      | some true =>
          (visit attr state).bind fun visited =>
            (attr.read 0 2).bind fun length =>
              walkFuel visit size fuel (attr.drop (align4 length)) visited

def walk (visit : Memory → State → Option State) (size : Int) (attr : Memory) (state : State) :
    Option State :=
  walkFuel visit size (attr.length + 1) attr state

def attributesFuel : Nat → Memory → List Memory
  | 0, _ => []
  | fuel + 1, rest =>
      match rest.read 0 2 with
      | none => []
      | some length =>
          if 4 ≤ length ∧ length ≤ rest.length then
            rest :: attributesFuel fuel (rest.drop (align4 length))
          else []

/-- The attributes that lie inside a payload, each as the bytes from its header
to the end of the payload. -/
def attributesIn (payload : Memory) : List Memory :=
  attributesFuel (payload.length + 1) payload

/-- The walk over a message's attributes ends at a length field that lies inside
the message, and everything it visits before is readable there. -/
inductive StopsInside (readable : Memory → Prop) (size : Int) : Memory → Prop
  | short {rest : Memory} : size < 4 → StopsInside readable size rest
  | stop {rest : Memory} {length : Nat} : rest.read 0 2 = some length →
      length < 4 ∨ size < length → StopsInside readable size rest
  | next {rest : Memory} {length : Nat} : rest.read 0 2 = some length → 4 ≤ length →
      (length : Int) ≤ size → readable rest →
      StopsInside readable size (rest.drop (align4 length)) → StopsInside readable size rest

variable {visit : Memory → State → Option State} {readable : Memory → Prop} {size : Int}

theorem StopsInside.read_of_room {rest : Memory} (stops : StopsInside readable size rest)
    (room : 4 ≤ size) : 2 ≤ rest.length := by
  cases stops with
  | short small => omega
  | stop found _ => simpa using Memory.read_bound found
  | next found _ _ _ _ => simpa using Memory.read_bound found

theorem attrOk_append {attr : Memory} {answer : Bool} (found : attrOk attr size = some answer)
    (after : Memory) : attrOk (attr ++ after) size = some answer := by
  unfold attrOk at found ⊢
  split at found
  · rename_i small
    rw [if_pos small]
    exact found
  · rename_i room
    rw [if_neg room]
    obtain ⟨length, present, rfl⟩ := Option.map_eq_some_iff.mp found
    simp [Memory.read_append present]

/-- Where the walk stops inside the message, what follows the message is never
read, and the walk is the fold over the attributes inside. -/
theorem StopsInside.fold {rest : Memory} (stops : StopsInside readable size rest)
    (fits : rest.length ≤ size.toNat)
    (visits : ∀ attr state, readable attr → ∃ next, visit attr state = some next)
    (stable : ∀ attr state after, Extends (visit attr state) (visit (attr ++ after) state))
    (state : State) :
    ∃ final, (∀ fuel, rest.length < fuel →
        (attributesFuel fuel rest).foldlM (fun state attr => visit attr state) state =
          some final) ∧
      ∀ after fuel, (rest ++ after).length < fuel →
        walkFuel visit size fuel (rest ++ after) state = some final := by
  induction stops generalizing state with
  | @short rest small =>
      refine ⟨state, fun fuel enough => ?_, fun after fuel enough => ?_⟩
      · obtain ⟨fuel, rfl⟩ := Nat.exists_eq_succ_of_ne_zero (by omega : fuel ≠ 0)
        cases present : rest.read 0 2 with
        | none => simp [attributesFuel, present]
        | some length =>
            have nothing : ¬(4 ≤ length ∧ length ≤ rest.length) := by omega
            simp [attributesFuel, present, nothing]
      · obtain ⟨fuel, rfl⟩ := Nat.exists_eq_succ_of_ne_zero (by omega : fuel ≠ 0)
        simp [walkFuel, attrOk, small]
  | @stop rest length found outside =>
      refine ⟨state, fun fuel enough => ?_, fun after fuel enough => ?_⟩
      · obtain ⟨fuel, rfl⟩ := Nat.exists_eq_succ_of_ne_zero (by omega : fuel ≠ 0)
        have nothing : ¬(4 ≤ length ∧ length ≤ rest.length) := by omega
        simp [attributesFuel, found, nothing]
      · obtain ⟨fuel, rfl⟩ := Nat.exists_eq_succ_of_ne_zero (by omega : fuel ≠ 0)
        have refused : attrOk (rest ++ after) size = some false := by
          apply attrOk_append
          have nothing : ¬(4 ≤ length ∧ (length : Int) ≤ size) := by omega
          by_cases small : size < 4
          · simp [attrOk, small]
          · simp only [attrOk, small, if_false, found, Option.map_some, nothing, decide_false]
        simp [walkFuel, refused]
  | @next rest length found enough within legible later ih =>
      have room : align4 length + 2 ≤ rest.length := by
        have more := later.read_of_room (by omega)
        simp only [List.length_drop] at more
        omega
      have whole := le_align4 length
      obtain ⟨visited, seen⟩ := visits rest state legible
      obtain ⟨final, folded, walked⟩ := ih (by simp only [List.length_drop]; omega) visited
      refine ⟨final, fun fuel more => ?_, fun after fuel more => ?_⟩
      · obtain ⟨fuel, rfl⟩ := Nat.exists_eq_succ_of_ne_zero (by omega : fuel ≠ 0)
        have inside : 4 ≤ length ∧ length ≤ rest.length := by omega
        have rest_folded := folded fuel (by simp only [List.length_drop]; omega)
        simp [attributesFuel, found, inside, seen, rest_folded]
      · obtain ⟨fuel, rfl⟩ := Nat.exists_eq_succ_of_ne_zero (by omega : fuel ≠ 0)
        have accepted : attrOk (rest ++ after) size = some true := by
          apply attrOk_append
          have big : ¬size < 4 := by omega
          simp only [attrOk, big, if_false, found, Option.map_some, enough, within, and_self,
            decide_true]
        have rest_walked := walked after fuel (by
          simp only [List.length_append, List.length_drop] at more ⊢
          omega)
        rw [← List.drop_append_of_le_length (by omega)] at rest_walked
        simp [walkFuel, accepted, stable rest state after visited seen,
          Memory.read_append found after, rest_walked]

theorem stopsInside_of_walkFuel
    (reads : ∀ attr state next, visit attr state = some next → readable attr)
    {fuel : Nat} {rest : Memory} {state final : State}
    (walked : walkFuel visit size fuel rest state = some final) :
    StopsInside readable size rest := by
  induction fuel generalizing rest state with
  | zero => simp [walkFuel] at walked
  | succ fuel ih =>
      by_cases small : size < 4
      · exact .short small
      · cases found : rest.read 0 2 with
        | none => simp [walkFuel, attrOk, small, found] at walked
        | some length =>
            by_cases accepted : 4 ≤ length ∧ (length : Int) ≤ size
            · simp only [walkFuel, attrOk, small, if_false, found, Option.map_some, accepted,
                and_self, decide_true, Option.bind_some, Option.bind_eq_some_iff] at walked
              obtain ⟨visited, seen, later⟩ := walked
              exact .next found accepted.1 accepted.2 (reads rest state visited seen) (ih later)
            · exact .stop found (by omega)

theorem foldlM_visits {Item State : Type*} {visit : State → Item → Option State}
    {items : List Item} {state final : State} (folded : items.foldlM visit state = some final) :
    ∀ item ∈ items, ∃ before next, visit before item = some next := by
  induction items generalizing state with
  | nil => simp
  | cons item rest ih =>
      rw [List.foldlM_cons] at folded
      obtain ⟨next, visited, later⟩ := Option.bind_eq_some_iff.mp folded
      intro other member
      rcases List.mem_cons.mp member with rfl | inside
      · exact ⟨state, next, visited⟩
      · exact ih later other inside

theorem walk_preserves (property : State → Prop)
    (kept : ∀ attr state next, property state → visit attr state = some next → property next)
    {attr : Memory} {state final : State} (holds : property state)
    (walked : walk visit size attr state = some final) : property final := by
  unfold walk at walked
  generalize attr.length + 1 = fuel at walked
  induction fuel generalizing attr state with
  | zero => simp [walkFuel] at walked
  | succ fuel ih =>
      unfold walkFuel at walked
      split at walked
      · simp at walked
      · exact Option.some.inj walked ▸ holds
      · obtain ⟨visited, seen, rest⟩ := Option.bind_eq_some_iff.mp walked
        obtain ⟨length, _, later⟩ := Option.bind_eq_some_iff.mp rest
        exact ih (kept attr state visited holds seen) later

theorem walk_short (small : size < 4) (attr : Memory) (state : State) :
    walk visit size attr state = some state := by
  simp [walk, walkFuel, attrOk, small]

/-- The walk over the attributes behind the header of a message is the fold over
the attributes inside the message, whatever follows it. -/
theorem StopsInside.walk {message : Memory} {header : Nat}
    (stops : StopsInside readable (message.length - header) (message.drop header))
    (visits : ∀ attr state, readable attr → ∃ next, visit attr state = some next)
    (stable : ∀ attr state after, Extends (visit attr state) (visit (attr ++ after) state))
    (state : State) :
    ∃ final, (attributesIn (message.drop header)).foldlM (fun state attr => visit attr state)
        state = some final ∧
      ∀ after, Attributes.walk visit (message.length - header) ((message ++ after).drop header)
        state = some final := by
  obtain ⟨final, folded, walked⟩ := stops.fold
    (by simp only [List.length_drop]; omega) visits stable state
  refine ⟨final, folded _ (Nat.lt_succ_self _), fun after => ?_⟩
  by_cases short : header ≤ message.length
  · rw [List.drop_append_of_le_length short]
    exact walked after _ (Nat.lt_succ_self _)
  · have small : ((message.length : Int) - header) < 4 := by omega
    have same := walked [] _ (Nat.lt_succ_self _)
    rw [walk_short small]
    simpa [walkFuel, attrOk, small] using same

/-- Attributes one after the other, up to the last byte. -/
inductive Tiled : Memory → Prop
  | nil : Tiled []
  | cons {rest : Memory} {length : Nat} : rest.read 0 2 = some length → 4 ≤ length →
      align4 length ≤ rest.length → Tiled (rest.drop (align4 length)) → Tiled rest

theorem Tiled.not_stopsInside {rest : Memory} (tiled : Tiled rest)
    (fits : (rest.length : Int) ≤ size) (room : 4 ≤ size) : ¬StopsInside readable size rest := by
  induction tiled with
  | nil =>
      intro stops
      have more := stops.read_of_room room
      simp at more
  | @cons rest length found enough whole later ih =>
      have covered := le_align4 length
      intro stops
      cases stops with
      | short small => omega
      | stop other outside =>
          obtain rfl := Option.some.inj (found.symm.trans other)
          omega
      | next other _ _ _ further =>
          obtain rfl := Option.some.inj (found.symm.trans other)
          refine ih ?_ further
          simp only [List.length_drop]
          omega

/-- Where the walk refuses what stands behind a payload that its attributes fill,
it is the fold over these attributes. -/
theorem Tiled.fold {rest after : Memory} (tiled : Tiled rest)
    (fits : (rest.length : Int) ≤ size) (refused : attrOk after size = some false)
    (visits : ∀ attr state, readable attr → ∃ next, visit attr state = some next)
    (stable : ∀ attr state more, Extends (visit attr state) (visit (attr ++ more) state))
    {fuel : Nat} (enough : rest.length < fuel)
    (legible : ∀ attr ∈ attributesFuel fuel rest, readable attr) (state : State) :
    ∃ final, (attributesFuel fuel rest).foldlM (fun state attr => visit attr state) state =
        some final ∧
      ∀ steps, (rest ++ after).length < steps →
        walkFuel visit size steps (rest ++ after) state = some final := by
  induction tiled generalizing fuel state with
  | nil =>
      refine ⟨state, ?_, fun steps more => ?_⟩
      · obtain ⟨fuel, rfl⟩ := Nat.exists_eq_succ_of_ne_zero (by omega : fuel ≠ 0)
        rfl
      · obtain ⟨steps, rfl⟩ := Nat.exists_eq_succ_of_ne_zero (by omega : steps ≠ 0)
        simp [walkFuel, refused]
  | @cons rest length found big whole later ih =>
      have covered := le_align4 length
      have inside : 4 ≤ length ∧ length ≤ rest.length := by omega
      obtain ⟨fuel, rfl⟩ := Nat.exists_eq_succ_of_ne_zero (by omega : fuel ≠ 0)
      simp only [attributesFuel, found, inside, and_self, if_true, List.forall_mem_cons]
        at legible
      obtain ⟨visited, seen⟩ := visits rest state legible.1
      obtain ⟨final, folded, walked⟩ := ih (by simp only [List.length_drop]; omega)
        (by simp only [List.length_drop]; omega) legible.2 visited
      refine ⟨final, ?_, fun steps more => ?_⟩
      · simp [attributesFuel, found, inside, seen, folded]
      · obtain ⟨steps, rfl⟩ := Nat.exists_eq_succ_of_ne_zero (by omega : steps ≠ 0)
        have accepted : attrOk (rest ++ after) size = some true := by
          apply attrOk_append
          have room : ¬size < 4 := by omega
          have within : (length : Int) ≤ size := by omega
          simp only [attrOk, room, if_false, found, Option.map_some, big, within, and_self,
            decide_true]
        have rest_walked := walked steps (by
          simp only [List.length_append, List.length_drop] at more ⊢
          omega)
        rw [← List.drop_append_of_le_length whole] at rest_walked
        simp [walkFuel, accepted, stable rest state after visited seen,
          Memory.read_append found after, rest_walked]

theorem Tiled.walk {payload after : Memory} (tiled : Tiled payload)
    (refused : attrOk after payload.length = some false)
    (visits : ∀ attr state, readable attr → ∃ next, visit attr state = some next)
    (stable : ∀ attr state more, Extends (visit attr state) (visit (attr ++ more) state))
    (legible : ∀ attr ∈ attributesIn payload, readable attr) (state : State) :
    ∃ final, (attributesIn payload).foldlM (fun state attr => visit attr state) state =
        some final ∧
      Attributes.walk visit payload.length (payload ++ after) state = some final := by
  obtain ⟨final, folded, walked⟩ := tiled.fold (Int.le_refl _) refused visits stable
    (Nat.lt_succ_self _) legible state
  exact ⟨final, folded, walked _ (Nat.lt_succ_self _)⟩

end Walk

end Attributes
