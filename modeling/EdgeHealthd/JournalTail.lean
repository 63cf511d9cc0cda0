import EdgeHealthd.JournalReader
import Mathlib.Data.List.Range

/-!
The journal reader on an append-only journal with a cursor that never fails.
Only the scan deadline can cut a rebuild short. What the reader has buffered and
which entries it has read are compared with the journal itself.
-/

namespace EdgeHealthd

open Machine

/-- An append-only journal. `position` counts the entries at or before the
cursor; `landed` is where the last rebuild started, `reads` are the entries read
since, and `allowance` is what the scan deadline leaves of the current call. -/
structure TailJournal where
  entries : List JournalEntry := []
  position : Nat := 0
  landed : Nat := 0
  reads : List Nat := []
  allowance : Option Nat := none
  deriving DecidableEq

def tailApi : JournalApi TailJournal where
  openSystem journal := (true, journal)
  openLocal journal := (true, journal)
  seekTail journal :=
    (true, { journal with
      position := journal.entries.length, landed := journal.entries.length, reads := [] })
  previousSkip count journal :=
    let moved := min count journal.entries.length
    if moved = 0 then (0, journal)
    else (moved, { journal with
      position := journal.entries.length - moved + 1, landed := journal.entries.length - moved })
  deadlinePassed journal :=
    match journal.allowance with
    | none => (false, journal)
    | some 0 => (true, journal)
    | some (count + 1) => (false, { journal with allowance := some count })
  readCurrent journal :=
    (journal.entries[journal.position - 1]?.getD {},
      { journal with reads := journal.reads ++ [journal.position - 1] })
  next journal :=
    if journal.position < journal.entries.length then
      (1, { journal with position := journal.position + 1 })
    else (0, journal)
  wait journal := (true, journal)

section TailApi

variable (journal : TailJournal)

@[simp]
theorem tailApi_openSystem : tailApi.openSystem journal = (true, journal) := rfl

@[simp]
theorem tailApi_wait : tailApi.wait journal = (true, journal) := rfl

@[simp]
theorem tailApi_seekTail :
    tailApi.seekTail journal = (true, { journal with
      position := journal.entries.length, landed := journal.entries.length, reads := [] }) := rfl

@[simp]
theorem tailApi_readCurrent :
    tailApi.readCurrent journal = (journal.entries[journal.position - 1]?.getD {},
      { journal with reads := journal.reads ++ [journal.position - 1] }) := rfl

theorem tailApi_previousSkip_none {count : Nat} (nothing : min count journal.entries.length = 0) :
    tailApi.previousSkip count journal = (0, journal) :=
  if_pos nothing

theorem tailApi_previousSkip_some {count : Nat} (moved : min count journal.entries.length ≠ 0) :
    tailApi.previousSkip count journal = (((min count journal.entries.length : Nat) : Int),
      { journal with
        position := journal.entries.length - min count journal.entries.length + 1
        landed := journal.entries.length - min count journal.entries.length }) :=
  if_neg moved

theorem tailApi_next_more (more : journal.position < journal.entries.length) :
    tailApi.next journal = (1, { journal with position := journal.position + 1 }) :=
  if_pos more

theorem tailApi_next_end (ended : ¬journal.position < journal.entries.length) :
    tailApi.next journal = (0, journal) :=
  if_neg ended

end TailApi

inductive TailEvent
  | append (entry : JournalEntry)
  | call (call : ReaderCall) (allowance : Option Nat)

def tailStep (config : Config) (fuel : Nat) (state : JournalReader × TailJournal) :
    TailEvent → Option (JournalReader × TailJournal)
  | .append entry =>
      some (state.1, { state.2 with entries := state.2.entries ++ [entry] })
  | .call call allowance => call.run tailApi config fuel (state.1, { state.2 with allowance })

namespace JournalReader

def iterations (allowance : Option Nat) (wanted : Nat) : Nat :=
  match allowance with
  | none => wanted
  | some count => min count wanted

theorem rebuildLoop_succ {Journal : Type} (api : JournalApi Journal) (cap fuel : Nat)
    (journal : Journal) (buffer : List JournalEntry) :
    rebuildLoop api cap (fuel + 1) journal buffer =
      if (api.deadlinePassed journal).1 then some (buffer, (api.deadlinePassed journal).2)
      else
        let current := api.readCurrent (api.deadlinePassed journal).2
        let pushed := if (buffer ++ [current.1]).length > cap then (buffer ++ [current.1]).drop 1
          else buffer ++ [current.1]
        if (api.next current.2).1 > 0 then rebuildLoop api cap fuel (api.next current.2).2 pushed
        else some (pushed, (api.next current.2).2) := rfl

theorem rebuildFromTail_eq {Journal : Type} (api : JournalApi Journal) (cap fuel : Nat)
    (journal : Journal) :
    rebuildFromTail api cap fuel journal =
      if (api.seekTail journal).1 then
        if (api.previousSkip cap (api.seekTail journal).2).1 > 0 then
          rebuildLoop api cap fuel (api.previousSkip cap (api.seekTail journal).2).2 []
        else some ([], (api.previousSkip cap (api.seekTail journal).2).2)
      else some ([], (api.seekTail journal).2) := rfl

/-- A deadline that has not passed allows one iteration and then the rest. -/
theorem deadlinePassed_tail {journal : TailJournal} (running : journal.allowance ≠ some 0) :
    ∃ allowance, tailApi.deadlinePassed journal = (false, { journal with allowance }) ∧
      ∀ wanted, iterations journal.allowance (wanted + 1) = iterations allowance wanted + 1 := by
  obtain ⟨entries, position, landed, reads, allowance⟩ := journal
  cases allowance with
  | none => exact ⟨none, rfl, fun _ => rfl⟩
  | some count =>
      cases count with
      | zero => exact absurd rfl running
      | succ count =>
          refine ⟨some count, rfl, fun wanted => ?_⟩
          simp only [iterations]
          omega

theorem rebuildLoop_tail {cap fuel remaining : Nat} {journal : TailJournal}
    {buffer : List JournalEntry} (enough : remaining < fuel) (more : 0 < remaining)
    (cursor : journal.position + remaining = journal.entries.length + 1)
    (started : 0 < journal.position) (room : buffer.length + remaining ≤ cap) :
    ∃ allowance, rebuildLoop tailApi cap fuel journal buffer =
      some (buffer ++ (journal.entries.drop (journal.position - 1)).take
          (iterations journal.allowance remaining),
        { journal with
          position := min journal.entries.length
            (journal.position + iterations journal.allowance remaining)
          reads := journal.reads ++ List.range' (journal.position - 1)
            (iterations journal.allowance remaining)
          allowance }) := by
  induction remaining generalizing fuel journal buffer with
  | zero => omega
  | succ remaining ih =>
      obtain ⟨fuel, rfl⟩ := Nat.exists_eq_succ_of_ne_zero (by omega : fuel ≠ 0)
      by_cases stopped : journal.allowance = some 0
      · obtain ⟨entries, position, landed, reads, allowance⟩ := journal
        obtain rfl : allowance = some 0 := stopped
        have stays : min entries.length position = position := by
          simp only at cursor
          omega
        exact ⟨some 0, by simp [rebuildLoop, tailApi, iterations, stays]⟩
      · obtain ⟨allowance, running, counted⟩ := deadlinePassed_tail stopped
        have bound : journal.position - 1 < journal.entries.length := by omega
        have short : ¬(buffer ++ [journal.entries[journal.position - 1]]).length > cap := by
          simp only [List.length_append, List.length_singleton]
          omega
        have taken : ∀ count, (journal.entries.drop (journal.position - 1)).take (count + 1) =
            journal.entries[journal.position - 1] ::
              (journal.entries.drop journal.position).take count := by
          intro count
          rw [List.drop_eq_getElem_cons bound, List.take_succ_cons]
          congr 3
          omega
        have listed : ∀ count, List.range' (journal.position - 1) (count + 1) =
            (journal.position - 1) :: List.range' journal.position count := by
          intro count
          rw [List.range'_succ]
          congr 2
          omega
        rw [counted, taken, listed]
        rw [rebuildLoop_succ]
        simp only [running, Bool.false_eq_true, if_false, tailApi_readCurrent,
          List.getElem?_eq_getElem bound, Option.getD_some, short]
        by_cases last : remaining = 0
        · subst last
          have ended : ¬journal.position < journal.entries.length := by omega
          have none : iterations allowance 0 = 0 := by
            cases allowance <;> simp [iterations]
          have stays : min journal.entries.length (journal.position + 1) = journal.position := by
            omega
          have stop := tailApi_next_end { journal with
            allowance, reads := journal.reads ++ [journal.position - 1] } ended
          refine ⟨allowance, ?_⟩
          rw [stop]
          simp [none, stays]
        · have further : journal.position < journal.entries.length := by omega
          obtain ⟨left, rest⟩ := @ih fuel
            { journal with
              allowance, reads := journal.reads ++ [journal.position - 1]
              position := journal.position + 1 }
            (buffer ++ [journal.entries[journal.position - 1]]) (by omega) (by omega)
            (by simp only; omega) (by simp only; omega)
            (by simp only [List.length_append, List.length_singleton]; omega)
          have move := tailApi_next_more { journal with
            allowance, reads := journal.reads ++ [journal.position - 1] } further
          refine ⟨left, ?_⟩
          rw [move]
          simp only [gt_iff_lt, Int.one_pos, if_true, rest]
          simp only [Nat.add_sub_cancel, List.append_assoc, List.singleton_append]
          congr 3
          omega

theorem iterations_le (allowance : Option Nat) (wanted : Nat) :
    iterations allowance wanted ≤ wanted := by
  cases allowance with
  | none => exact Nat.le_refl wanted
  | some count => exact Nat.min_le_right count wanted

def rebuiltJournal (moved : Nat) (journal : TailJournal) (allowance : Option Nat) :
    TailJournal :=
  { journal with
    position := min journal.entries.length
      (journal.entries.length - moved + 1 + iterations journal.allowance moved)
    landed := journal.entries.length - moved
    reads := List.range' (journal.entries.length - moved) (iterations journal.allowance moved)
    allowance }

theorem rebuildFromTail_tail {cap fuel : Nat} (journal : TailJournal) (enough : cap < fuel) :
    ∃ allowance, rebuildFromTail tailApi cap fuel journal =
      some ((journal.entries.drop (journal.entries.length - min cap journal.entries.length)).take
          (iterations journal.allowance (min cap journal.entries.length)),
        rebuiltJournal (min cap journal.entries.length) journal allowance) := by
  by_cases nothing : min cap journal.entries.length = 0
  · refine ⟨journal.allowance, ?_⟩
    have none : iterations journal.allowance 0 = 0 := by
      have bound := iterations_le journal.allowance 0
      omega
    rw [rebuildFromTail_eq, tailApi_seekTail]
    simp only [if_true]
    rw [tailApi_previousSkip_none]
    swap
    · exact nothing
    simp [rebuiltJournal, nothing, none]
  · obtain ⟨allowance, looped⟩ := @rebuildLoop_tail cap fuel (min cap journal.entries.length)
      { journal with
        position := journal.entries.length - min cap journal.entries.length + 1
        landed := journal.entries.length - min cap journal.entries.length
        reads := [] }
      [] (by omega) (by omega) (by simp only; omega) (by simp only; omega)
      (by simp only [List.length_nil]; omega)
    refine ⟨allowance, ?_⟩
    have moved : ((min cap journal.entries.length : Nat) : Int) > 0 := by omega
    rw [rebuildFromTail_eq, tailApi_seekTail]
    simp only [if_true]
    rw [tailApi_previousSkip_some]
    swap
    · exact nothing
    simp only [moved, if_true, looped]
    simp [rebuiltJournal]

theorem readNew_tail (budget : Nat) (journal : TailJournal) (buffer : List JournalEntry)
    (behind : journal.position ≤ journal.entries.length) :
    readNew tailApi budget journal buffer =
      (if journal.entries.length - journal.position < budget then .caughtUp else .budgetUsed,
        buffer ++ (journal.entries.drop journal.position).take budget,
        { journal with
          position := min journal.entries.length (journal.position + budget)
          reads := journal.reads ++ List.range' journal.position
            (min budget (journal.entries.length - journal.position)) }) := by
  induction budget generalizing journal buffer with
  | zero =>
      obtain ⟨entries, position, landed, reads, allowance⟩ := journal
      have stays : min entries.length position = position := Nat.min_eq_right behind
      simp [readNew, stays]
  | succ budget ih =>
      by_cases more : journal.position < journal.entries.length
      · have taken : (journal.entries.drop journal.position).take (budget + 1) =
            journal.entries[journal.position] ::
              (journal.entries.drop (journal.position + 1)).take budget := by
          rw [List.drop_eq_getElem_cons more, List.take_succ_cons]
        have counted : min (budget + 1) (journal.entries.length - journal.position) =
            min budget (journal.entries.length - (journal.position + 1)) + 1 := by omega
        have same : journal.entries.length - journal.position < budget + 1 ↔
            journal.entries.length - (journal.position + 1) < budget := by omega
        have reached : min journal.entries.length (journal.position + 1 + budget) =
            min journal.entries.length (journal.position + (budget + 1)) := by omega
        unfold readNew
        rw [tailApi_next_more _ more]
        simp only [show ¬(1 : Int) < 0 by decide, show ¬(1 : Int) = 0 by decide, if_false,
          tailApi_readCurrent, Nat.add_sub_cancel, List.getElem?_eq_getElem more,
          Option.getD_some]
        rw [ih _ _ (Nat.succ_le_of_lt more)]
        simp only [taken, counted, same, reached, List.range'_succ, List.append_assoc,
          List.singleton_append]
      · have caught : journal.position = journal.entries.length := by omega
        unfold readNew
        rw [tailApi_next_end _ more]
        obtain ⟨entries, position, landed, reads, allowance⟩ := journal
        simp only at caught
        subst caught
        simp

theorem evictFrom_of_le {cap : Nat} {buffer : List JournalEntry} (fits : buffer.length ≤ cap) :
    evictFrom cap buffer = buffer := by
  simp [evictFrom, Nat.sub_eq_zero_of_le fits]

theorem prime_tail {cap fuel : Nat} (journal : TailJournal) (enough : cap < fuel) :
    ∃ allowance, prime tailApi cap fuel journal =
      some ({ available := true
              buffer := (journal.entries.drop
                (journal.entries.length - min cap journal.entries.length)).take
                (iterations journal.allowance (min cap journal.entries.length)) },
        rebuiltJournal (min cap journal.entries.length) journal allowance) := by
  obtain ⟨allowance, rebuilt⟩ := rebuildFromTail_tail journal enough
  refine ⟨allowance, ?_⟩
  rw [prime, rebuilt, Option.map_some]
  simp only
  rw [evictFrom_of_le]
  simp only [List.length_take, List.length_drop]
  omega

/-- The call seeks to the tail: the first open, or a backlog of twice the buffer. -/
def Rebuilds (cap : Nat) (state : JournalReader × TailJournal) (call : ReaderCall) : Prop :=
  call = .init ∨ state.1.available = false ∨
    state.2.position + 2 * cap ≤ state.2.entries.length

theorem run_tail_rebuilds {config : Config} {fuel : Nat} {call : ReaderCall}
    {state : JournalReader × TailJournal} (enough : bufferCap config < fuel)
    (behind : state.2.position ≤ state.2.entries.length)
    (rebuilds : Rebuilds (bufferCap config) state call) :
    ∃ allowance, call.run tailApi config fuel state =
      some ({ available := true
              buffer := (state.2.entries.drop (state.2.entries.length -
                min (bufferCap config) state.2.entries.length)).take
                (iterations state.2.allowance
                  (min (bufferCap config) state.2.entries.length)) },
        rebuiltJournal (min (bufferCap config) state.2.entries.length) state.2 allowance) := by
  obtain ⟨reader, journal⟩ := state
  have opened : openAndPrime tailApi (bufferCap config) fuel reader journal =
      prime tailApi (bufferCap config) fuel journal := rfl
  cases call with
  | init => exact prime_tail journal enough
  | ingest =>
      cases available : reader.available with
      | false =>
          have same : ReaderCall.run tailApi config fuel .ingest (reader, journal) =
              prime tailApi (bufferCap config) fuel journal := by
            simp [ReaderCall.run, ingest, available, opened]
          rw [same]
          exact prime_tail journal enough
      | true =>
          have backlog : ¬journal.entries.length - journal.position < 2 * bufferCap config := by
            have behindBy : journal.position + 2 * bufferCap config ≤ journal.entries.length := by
              simpa [Rebuilds, available] using rebuilds
            omega
          have same : ReaderCall.run tailApi config fuel .ingest (reader, journal) =
              prime tailApi (bufferCap config) fuel (readNew tailApi (2 * bufferCap config)
                journal reader.buffer).2.2 := by
            simp [ReaderCall.run, ingest, available, readNew_tail _ _ _ behind, backlog]
          rw [same, readNew_tail _ _ _ behind]
          exact prime_tail _ enough

theorem run_tail_follows {config : Config} {fuel : Nat} {call : ReaderCall}
    {state : JournalReader × TailJournal}
    (behind : state.2.position ≤ state.2.entries.length)
    (follows : ¬Rebuilds (bufferCap config) state call) :
    call.run tailApi config fuel state =
      some ({ available := true
              buffer := evictFrom (bufferCap config)
                (state.1.buffer ++ state.2.entries.drop state.2.position) },
        { state.2 with
          position := state.2.entries.length
          reads := state.2.reads ++ List.range' state.2.position
            (state.2.entries.length - state.2.position) }) := by
  obtain ⟨reader, journal⟩ := state
  change journal.position ≤ journal.entries.length at behind
  obtain ⟨notInit, available, near⟩ :
      call ≠ .init ∧ reader.available = true ∧
        ¬journal.position + 2 * bufferCap config ≤ journal.entries.length := by
    simpa [Rebuilds] using follows
  cases call with
  | init => exact absurd rfl notInit
  | ingest =>
      have caught : journal.entries.length - journal.position < 2 * bufferCap config := by omega
      have whole : (journal.entries.drop journal.position).take (2 * bufferCap config) =
          journal.entries.drop journal.position := by
        rw [List.take_of_length_le]
        simp only [List.length_drop]
        omega
      have reached : min journal.entries.length (journal.position + 2 * bufferCap config) =
          journal.entries.length := by omega
      have counted : min (2 * bufferCap config) (journal.entries.length - journal.position) =
          journal.entries.length - journal.position := by omega
      simp [ReaderCall.run, ingest, available, readNew_tail _ _ _ behind, caught, whole, reached,
        counted]

theorem tailStep_call_cases {config : Config} {fuel : Nat} (enough : bufferCap config < fuel)
    {state : JournalReader × TailJournal}
    (behind : state.2.position ≤ state.2.entries.length) (call : ReaderCall)
    (allowance : Option Nat) :
    (Rebuilds (bufferCap config) state call ∧
      ∃ left, tailStep config fuel state (.call call allowance) =
        some ({ available := true
                buffer := (state.2.entries.drop (state.2.entries.length -
                  min (bufferCap config) state.2.entries.length)).take
                  (iterations allowance (min (bufferCap config) state.2.entries.length)) },
          rebuiltJournal (min (bufferCap config) state.2.entries.length)
            { state.2 with allowance } left)) ∨
    (¬Rebuilds (bufferCap config) state call ∧
      tailStep config fuel state (.call call allowance) =
        some ({ available := true
                buffer := evictFrom (bufferCap config)
                  (state.1.buffer ++ state.2.entries.drop state.2.position) },
          { state.2 with
            allowance
            position := state.2.entries.length
            reads := state.2.reads ++ List.range' state.2.position
              (state.2.entries.length - state.2.position) })) := by
  obtain ⟨reader, journal⟩ := state
  have behindCall : (reader, { journal with allowance }).2.position ≤
      (reader, { journal with allowance }).2.entries.length := behind
  by_cases rebuilds : Rebuilds (bufferCap config) (reader, journal) call
  · exact Or.inl ⟨rebuilds, run_tail_rebuilds enough behindCall rebuilds⟩
  · exact Or.inr ⟨rebuilds, run_tail_follows behindCall rebuilds⟩

def StoppedByDeadline (cap : Nat) (state : JournalReader × TailJournal) : TailEvent → Prop
  | .append _ => False
  | .call call allowance =>
      Rebuilds cap state call ∧
        ∃ count, allowance = some count ∧ count < min cap state.2.entries.length

theorem iterations_lt_iff (allowance : Option Nat) (wanted : Nat) :
    iterations allowance wanted < wanted ↔ ∃ count, allowance = some count ∧ count < wanted := by
  cases allowance with
  | none => simp [iterations]
  | some count =>
      simp only [iterations, Option.some.injEq, exists_eq_left']
      omega

/-- The cursor stands inside the journal, behind where the last rebuild landed. -/
def Placed (state : JournalReader × TailJournal) : Prop :=
  state.2.landed ≤ state.2.position ∧ state.2.position ≤ state.2.entries.length

/-- Everything from where the last rebuild landed up to the cursor has been
read, once and in order. -/
def Contiguous (state : JournalReader × TailJournal) : Prop :=
  state.2.reads = List.range' state.2.landed (state.2.position - state.2.landed)

theorem placed_step {config : Config} {fuel : Nat} (enough : bufferCap config < fuel)
    (state : JournalReader × TailJournal) (event : TailEvent)
    (next : JournalReader × TailJournal) (placed : Placed state)
    (done : tailStep config fuel state event = some next) : Placed next := by
  cases event with
  | append entry =>
      obtain rfl := Option.some.inj done
      refine ⟨placed.1, ?_⟩
      simp only [List.length_append]
      exact Nat.le_add_right_of_le placed.2
  | call call allowance =>
      rcases tailStep_call_cases enough placed.2 call allowance with ⟨_, left, ran⟩ | ⟨_, ran⟩
      · obtain rfl := Option.some.inj (ran.symm.trans done)
        simp only [Placed, rebuiltJournal]
        omega
      · obtain rfl := Option.some.inj (ran.symm.trans done)
        exact ⟨Nat.le_trans placed.1 placed.2, Nat.le_refl _⟩

theorem contiguous_rebuilt {moved : Nat} {journal : TailJournal} {allowance : Option Nat}
    (reader : JournalReader) (within : moved ≤ journal.entries.length) :
    Contiguous (reader, rebuiltJournal moved journal allowance) ↔
      ¬iterations journal.allowance moved < moved := by
  have bound := iterations_le journal.allowance moved
  simp only [Contiguous, rebuiltJournal]
  constructor
  · intro same short
    have lengths := congrArg List.length same
    simp only [List.length_range'] at lengths
    omega
  · intro complete
    congr 1
    omega

theorem contiguous_step {config : Config} {fuel : Nat} (enough : bufferCap config < fuel)
    (state : JournalReader × TailJournal) (event : TailEvent)
    (next : JournalReader × TailJournal) (placed : Placed state) (contiguous : Contiguous state)
    (done : tailStep config fuel state event = some next) :
    Contiguous next ↔ ¬StoppedByDeadline (bufferCap config) state event := by
  cases event with
  | append entry =>
      obtain rfl := Option.some.inj done
      simp only [StoppedByDeadline, not_false_eq_true, iff_true]
      exact contiguous
  | call call allowance =>
      rcases tailStep_call_cases enough placed.2 call allowance with
        ⟨rebuilds, left, ran⟩ | ⟨follows, ran⟩
      · obtain rfl := Option.some.inj (ran.symm.trans done)
        refine (contiguous_rebuilt _ (Nat.min_le_right _ _)).trans ?_
        simp only [iterations_lt_iff, StoppedByDeadline, rebuilds, true_and]
      · obtain rfl := Option.some.inj (ran.symm.trans done)
        simp only [StoppedByDeadline, follows, false_and, not_false_eq_true, iff_true]
        obtain ⟨landed, behind⟩ := placed
        unfold Contiguous at contiguous ⊢
        have middle : state.2.landed + (state.2.position - state.2.landed) = state.2.position := by
          omega
        have total : (state.2.position - state.2.landed) +
            (state.2.entries.length - state.2.position) =
            state.2.entries.length - state.2.landed := by omega
        rw [contiguous]
        calc List.range' state.2.landed (state.2.position - state.2.landed) ++
              List.range' state.2.position (state.2.entries.length - state.2.position)
            = List.range' state.2.landed (state.2.position - state.2.landed) ++
              List.range' (state.2.landed + (state.2.position - state.2.landed))
                (state.2.entries.length - state.2.position) := by rw [middle]
          _ = List.range' state.2.landed (state.2.entries.length - state.2.landed) := by
              rw [List.range'_append_1, total]

/-- The entries read since the last rebuild are contiguous throughout a run
exactly when no rebuild of the run is stopped by its deadline. -/
theorem reads_contiguous_iff (config : Config) (fuel : Nat) (enough : bufferCap config < fuel)
    (entries : List JournalEntry) (events : List TailEvent) (final : JournalReader × TailJournal)
    (run : follow (tailStep config fuel) ({}, { entries }) events = some final) :
    Throughout (tailStep config fuel) ({}, { entries }) Contiguous events ↔
      EachStep (tailStep config fuel) ({}, { entries })
        (fun state event => ¬StoppedByDeadline (bufferCap config) state event) events :=
  throughout_iff_eachStep Placed Contiguous _ ⟨Nat.le_refl 0, Nat.zero_le _⟩ rfl
    (placed_step enough) (contiguous_step enough) run

def twoEntryConfig : Config := { journalBufferMaxEntries := 2 }

theorem reads_contiguous_withinDeadline :
    ∃ final, follow (tailStep twoEntryConfig 3) ({}, { entries := [{}, {}] })
        [.call .init (some 2), .append {}, .call .ingest none] = some final ∧
      (Throughout (tailStep twoEntryConfig 3) ({}, { entries := [{}, {}] }) Contiguous
          [.call .init (some 2), .append {}, .call .ingest none] ↔
        EachStep (tailStep twoEntryConfig 3) ({}, { entries := [{}, {}] })
          (fun state event => ¬StoppedByDeadline (bufferCap twoEntryConfig) state event)
          [.call .init (some 2), .append {}, .call .ingest none]) :=
  ⟨_, rfl, reads_contiguous_iff _ _ (by decide) _ _ _ rfl⟩

theorem entry_lost_at_deadline :
    (follow (tailStep twoEntryConfig 3) ({}, { entries := [{}, {}] })
      [.call .init (some 1), .append {}, .call .ingest none]).map
      (fun state => (state.2.landed, state.2.reads, state.2.position)) = some (0, [0, 2], 3) := by
  decide

def appended : TailEvent → Option JournalEntry
  | .append entry => some entry
  | .call _ _ => none

def Unhurried : TailEvent → Prop
  | .append _ => True
  | .call _ allowance => allowance = none

/-- What the reader has buffered of what it has passed. -/
def Mirrors (cap : Nat) (state : JournalReader × TailJournal) : Prop :=
  state.2.position ≤ state.2.entries.length ∧
    (state.1.available = true →
      state.1.buffer = evictFrom cap (state.2.entries.take state.2.position))

theorem evictFrom_append (cap : Nat) (first second : List JournalEntry) :
    evictFrom cap (evictFrom cap first ++ second) = evictFrom cap (first ++ second) := by
  have joined : first.drop (first.length - cap) ++ second =
      (first ++ second).drop (first.length - cap) := by
    rw [List.drop_append_of_le_length (Nat.sub_le _ _)]
  unfold evictFrom
  rw [joined, List.drop_drop]
  congr 1
  simp only [List.length_drop, List.length_append]
  omega

theorem mirrors_append {cap : Nat} {state : JournalReader × TailJournal}
    (mirrors : Mirrors cap state) (entry : JournalEntry) :
    Mirrors cap (state.1, { state.2 with entries := state.2.entries ++ [entry] }) := by
  obtain ⟨behind, buffered⟩ := mirrors
  constructor
  · simp only [List.length_append]
    omega
  · intro available
    rw [buffered available]
    simp only [List.take_append_of_le_length behind]

theorem call_mirrors {config : Config} {fuel : Nat} (enough : bufferCap config < fuel)
    {state : JournalReader × TailJournal} (mirrors : Mirrors (bufferCap config) state)
    (call : ReaderCall) :
    ∃ after, tailStep config fuel state (.call call none) = some after ∧
      after.2.entries = state.2.entries ∧ after.2.position = state.2.entries.length ∧
      after.1.buffer = evictFrom (bufferCap config) state.2.entries := by
  obtain ⟨behind, buffered⟩ := mirrors
  rcases tailStep_call_cases enough behind call none with ⟨_, left, ran⟩ | ⟨follows, ran⟩
  · refine ⟨_, ran, rfl, ?_, ?_⟩
    · simp only [rebuiltJournal, iterations]
      omega
    · have whole : (state.2.entries.drop (state.2.entries.length -
          min (bufferCap config) state.2.entries.length)).take
          (min (bufferCap config) state.2.entries.length) =
          state.2.entries.drop (state.2.entries.length -
            min (bufferCap config) state.2.entries.length) := by
        rw [List.take_of_length_le]
        simp only [List.length_drop]
        omega
      simp only [iterations, whole, evictFrom]
      congr 1
      omega
  · refine ⟨_, ran, rfl, rfl, ?_⟩
    have available : state.1.available = true := by
      cases open_ : state.1.available with
      | true => rfl
      | false => exact absurd (Or.inr (Or.inl open_)) follows
    simp only [buffered available, evictFrom_append, List.take_append_drop]

theorem run_mirrors {config : Config} {fuel : Nat} (enough : bufferCap config < fuel)
    (entries : List JournalEntry) {events : List TailEvent}
    (unhurried : ∀ event ∈ events, Unhurried event) :
    ∃ state, follow (tailStep config fuel) ({}, { entries }) events = some state ∧
      Mirrors (bufferCap config) state ∧
      state.2.entries = entries ++ events.filterMap appended := by
  induction events using List.reverseRecOn with
  | nil =>
      refine ⟨_, rfl, ⟨Nat.zero_le _, ?_⟩, by simp⟩
      intro available
      simp at available
  | append_singleton past event ih =>
      obtain ⟨before, earlier, mirrors, present⟩ :=
        ih fun other member => unhurried other (List.mem_append_left _ member)
      have calm := unhurried event (by simp)
      cases event with
      | append entry =>
          refine ⟨_, follow_snoc_some.mpr ⟨before, earlier, rfl⟩, mirrors_append mirrors entry, ?_⟩
          simp [present, appended]
      | call call allowance =>
          obtain rfl : allowance = none := calm
          obtain ⟨after, ran, same, position, buffer⟩ := call_mirrors enough mirrors call
          refine ⟨after, follow_snoc_some.mpr ⟨before, earlier, ran⟩, ⟨?_, fun _ => ?_⟩, ?_⟩
          · rw [position, same]
          · rw [buffer, position, same, List.take_length]
          · simp [same, present, appended]

/-- After every call, whatever was appended in between, the buffer is the tail
of the journal: its last entries, as many as the buffer holds, in order. -/
theorem buffer_eq_tail (config : Config) (fuel : Nat) (enough : bufferCap config < fuel)
    (entries : List JournalEntry) (events : List TailEvent)
    (unhurried : ∀ event ∈ events, Unhurried event) (call : ReaderCall) :
    ∃ state, follow (tailStep config fuel) ({}, { entries }) (events ++ [.call call none]) =
        some state ∧
      state.1.buffer = (entries ++ events.filterMap appended).drop
        ((entries ++ events.filterMap appended).length - bufferCap config) := by
  obtain ⟨before, earlier, mirrors, present⟩ := run_mirrors enough entries unhurried
  obtain ⟨after, ran, _, _, buffer⟩ := call_mirrors enough mirrors call
  refine ⟨after, follow_snoc_some.mpr ⟨before, earlier, ran⟩, ?_⟩
  rw [buffer, present, evictFrom]

theorem buffer_eq_tail_burst :
    ∃ state, follow (tailStep twoEntryConfig 3) ({}, {})
        ([.call .init none, .append { priority := 0 }, .append { priority := 1 },
          .append { priority := 2 }, .append { priority := 3 }] ++ [.call .ingest none]) =
        some state ∧
      state.1.buffer = [{ priority := 2 }, { priority := 3 }] := by
  obtain ⟨state, run, buffer⟩ := buffer_eq_tail twoEntryConfig 3 (by decide) []
    [.call .init none, .append { priority := 0 }, .append { priority := 1 },
      .append { priority := 2 }, .append { priority := 3 }] (by simp [Unhurried]) .ingest
  exact ⟨state, run, buffer.trans (by decide)⟩

end JournalReader

end EdgeHealthd
