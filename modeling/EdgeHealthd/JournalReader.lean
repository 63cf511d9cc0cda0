import EdgeHealthd.JournalReaderCore
import EdgeHealthd.Library.Machine

/-!
The journal buffer under every behaviour of the journal library: how many
entries it holds after a call, and what it still holds after the handle is lost.
-/

namespace EdgeHealthd

open Machine

namespace JournalReader

variable {Journal : Type} {api : JournalApi Journal} {cap : Nat}

theorem evictFrom_length (cap : Nat) (buffer : List JournalEntry) :
    (evictFrom cap buffer).length ≤ cap := by
  simp only [evictFrom, List.length_drop]
  omega

theorem prime_some {fuel : Nat} {journal : Journal} {after : JournalReader × Journal}
    (done : prime api cap fuel journal = some after) :
    after.1.available = true ∧ after.1.buffer.length ≤ cap := by
  obtain ⟨rebuilt, _, rfl⟩ := Option.map_eq_some_iff.mp done
  exact ⟨rfl, evictFrom_length cap rebuilt.1⟩

def openFails (api : JournalApi Journal) (journal : Journal) : Bool :=
  !(api.openSystem journal).1 && !(api.openLocal (api.openSystem journal).2).1

theorem openAndPrime_cases {fuel : Nat} {reader : JournalReader} {journal : Journal}
    {after : JournalReader × Journal}
    (done : openAndPrime api cap fuel reader journal = some after) :
    (openFails api journal = false ∧ after.1.available = true ∧ after.1.buffer.length ≤ cap) ∨
    (openFails api journal = true ∧ after.1 = { reader with available := false }) := by
  unfold openAndPrime at done
  by_cases opened : (api.openSystem journal).1 = true
  · simp only [opened, if_true] at done
    exact Or.inl ⟨by simp [openFails, opened], prime_some done⟩
  · by_cases local_ : (api.openLocal (api.openSystem journal).2).1 = true
    · simp only [opened, if_false, local_, if_true, Bool.false_eq_true] at done
      exact Or.inl ⟨by simp [openFails, local_], prime_some done⟩
    · simp only [opened, if_false, local_, Bool.false_eq_true, Option.some.injEq] at done
      subst done
      exact Or.inr ⟨by simp [openFails, opened, local_], rfl⟩

def failsAfter (api : JournalApi Journal) : Nat → Journal → Option Nat
  | 0, _ => none
  | budget + 1, journal =>
      if (api.next journal).1 < 0 then some 0
      else if (api.next journal).1 = 0 then none
      else (failsAfter api budget (api.readCurrent (api.next journal).2).2).map (· + 1)

theorem readNew_grows (api : JournalApi Journal) (budget : Nat) (journal : Journal) (buffer : List JournalEntry) :
    ∃ read, (readNew api budget journal buffer).2.1 = buffer ++ read ∧
      failsAfter api budget journal =
        if (readNew api budget journal buffer).1 = .failed then some read.length else none := by
  induction budget generalizing journal buffer with
  | zero => exact ⟨[], by simp [readNew], by simp [readNew, failsAfter]⟩
  | succ budget ih =>
      by_cases failed : (api.next journal).1 < 0
      · exact ⟨[], by simp [readNew, failed], by simp [readNew, failsAfter, failed]⟩
      · by_cases ended : (api.next journal).1 = 0
        · exact ⟨[], by simp [readNew, ended], by simp [readNew, failsAfter, ended]⟩
        · obtain ⟨read, grown, fails⟩ := ih (api.readCurrent (api.next journal).2).2
            (buffer ++ [(api.readCurrent (api.next journal).2).1])
          refine ⟨(api.readCurrent (api.next journal).2).1 :: read, ?_, ?_⟩
          · simp only [readNew, failed, ended, if_false, grown]
            simp
          · simp only [readNew, failsAfter, failed, ended, if_false, fails]
            split <;> simp

/-- How many entries a call reads before it loses the handle; `none` where it
ends with an open handle. -/
def lostAfter (api : JournalApi Journal) (cap : Nat) (state : JournalReader × Journal) :
    ReaderCall → Option Nat
  | .init => if openFails api state.2 then some 0 else none
  | .ingest =>
      if !state.1.available then if openFails api state.2 then some 0 else none
      else if !(api.wait state.2).1 then some 0
      else failsAfter api (2 * cap) (api.wait state.2).2

/-- What a call leaves behind: either an open handle and a full buffer at most,
or no handle and the old buffer with everything read before the error. -/
def CallLeaves (cap : Nat) (lost : Option Nat) (before after : JournalReader) : Prop :=
  (lost = none ∧ after.available = true ∧ after.buffer.length ≤ cap) ∨
    ∃ read, lost = some read.length ∧ after.available = false ∧
      after.buffer = before.buffer ++ read

theorem openAndPrime_leaves {fuel : Nat} {reader : JournalReader} {journal : Journal}
    {after : JournalReader × Journal}
    (done : openAndPrime api cap fuel reader journal = some after) :
    CallLeaves cap (if openFails api journal then some 0 else none) reader after.1 := by
  rcases openAndPrime_cases done with ⟨opened, available, bounded⟩ | ⟨failed, same⟩
  · exact Or.inl ⟨by simp [opened], available, bounded⟩
  · exact Or.inr ⟨[], by simp [failed], by simp [same], by simp [same]⟩

theorem ingest_leaves {fuel : Nat} {state after : JournalReader × Journal}
    (done : ingest api cap fuel state.1 state.2 = some after) :
    CallLeaves cap (lostAfter api cap state .ingest) state.1 after.1 := by
  unfold ingest at done
  by_cases closed : state.1.available = true
  · simp only [closed, Bool.not_true, Bool.false_eq_true, if_false] at done
    by_cases waited : (api.wait state.2).1 = true
    · have lost : lostAfter api cap state .ingest =
          failsAfter api (2 * cap) (api.wait state.2).2 := by
        simp [lostAfter, closed, waited]
      obtain ⟨read, grown, fails⟩ := readNew_grows api (2 * cap) (api.wait state.2).2
        state.1.buffer
      rw [lost, fails]
      simp only [waited, Bool.not_true, Bool.false_eq_true, if_false] at done
      rcases result : readNew api (2 * cap) (api.wait state.2).2 state.1.buffer with
        ⟨ended, buffer, journal⟩
      rw [result] at done grown
      cases ended with
      | failed =>
          obtain rfl := Option.some.inj done
          exact Or.inr ⟨read, by simp, rfl, grown⟩
      | caughtUp =>
          obtain rfl := Option.some.inj done
          exact Or.inl ⟨by simp, rfl, evictFrom_length cap buffer⟩
      | budgetUsed => exact Or.inl ⟨by simp, prime_some done⟩
    · simp only [waited, Bool.not_false, if_true, Option.some.injEq] at done
      subst done
      exact Or.inr ⟨[], by simp [lostAfter, closed, waited], rfl, by simp⟩
  · simp only [closed, Bool.not_false, if_true] at done
    have lost : lostAfter api cap state .ingest =
        if openFails api state.2 then some 0 else none := by
      simp [lostAfter, closed]
    rw [lost]
    exact openAndPrime_leaves done

theorem run_leaves {config : Config} {fuel : Nat} {call : ReaderCall}
    {state after : JournalReader × Journal} (done : call.run api config fuel state = some after) :
    CallLeaves (bufferCap config) (lostAfter api (bufferCap config) state call) state.1
      after.1 := by
  cases call with
  | init => exact openAndPrime_leaves done
  | ingest => exact ingest_leaves done

def callStep (api : JournalApi Journal) (config : Config) (fuel : Nat)
    (state : JournalReader × Journal) (call : ReaderCall) : Option (JournalReader × Journal) :=
  call.run api config fuel state

def LossFits (api : JournalApi Journal) (config : Config) (state : JournalReader × Journal)
    (call : ReaderCall) : Prop :=
  ∀ read, lostAfter api (bufferCap config) state call = some read →
    state.1.buffer.length + read ≤ bufferCap config

/-- The buffer stays within its bound throughout a run exactly when no call of
the run loses the handle after reading more entries than fit. -/
theorem buffer_bounded_iff (api : JournalApi Journal) (config : Config) (fuel : Nat)
    (journal : Journal) (calls : List ReaderCall) (final : JournalReader × Journal)
    (run : follow (callStep api config fuel) ({}, journal) calls = some final) :
    Throughout (callStep api config fuel) ({}, journal)
        (fun state => state.1.buffer.length ≤ bufferCap config) calls ↔
      EachStep (callStep api config fuel) ({}, journal) (LossFits api config) calls := by
  refine throughout_iff_eachStep (fun _ => True) _ _ trivial (Nat.zero_le _)
    (fun _ _ _ _ _ => trivial) ?_ run
  intro state call after _ bounded done
  rcases run_leaves done with ⟨kept, _, fits⟩ | ⟨read, lost, _, grown⟩
  · simp [LossFits, kept, fits]
  · simp [LossFits, lost, grown]

theorem failsAfter_le (api : JournalApi Journal) {budget read : Nat} {journal : Journal}
    (fails : failsAfter api budget journal = some read) : read ≤ budget := by
  induction budget generalizing journal read with
  | zero => cases fails
  | succ budget ih =>
      simp only [failsAfter] at fails
      split at fails
      · cases fails
        exact Nat.zero_le _
      · split at fails
        · cases fails
        · obtain ⟨earlier, later, rfl⟩ := Option.map_eq_some_iff.mp fails
          exact Nat.succ_le_succ (ih later)

theorem lostAfter_le {state : JournalReader × Journal} {call : ReaderCall} {read : Nat}
    (lost : lostAfter api cap state call = some read) :
    read ≤ if state.1.available then 2 * cap else 0 := by
  cases call with
  | init =>
      simp only [lostAfter] at lost
      split at lost <;> cases lost
      exact Nat.zero_le _
  | ingest =>
      simp only [lostAfter] at lost
      by_cases available : state.1.available = true
      · simp only [available, Bool.not_true, Bool.false_eq_true, if_false] at lost
        rw [if_pos available]
        split at lost
        · cases lost
          exact Nat.zero_le _
        · exact failsAfter_le api lost
      · simp only [available, Bool.not_false, if_true] at lost
        split at lost <;> cases lost
        exact Nat.zero_le _

theorem buffer_holdable (api : JournalApi Journal) (config : Config) (fuel : Nat)
    (journal : Journal) (calls : List ReaderCall) (final : JournalReader × Journal)
    (run : follow (callStep api config fuel) ({}, journal) calls = some final) :
    final.1.buffer.length ≤ 3 * bufferCap config := by
  have held := follow_preserves (fun state : JournalReader × Journal =>
    state.1.buffer.length ≤ 3 * bufferCap config ∧
      (state.1.available = true → state.1.buffer.length ≤ bufferCap config))
    (fun _ => True) ?_ run (fun _ _ => trivial) ⟨Nat.zero_le _, nofun⟩
  · exact held.1
  · rintro state call after _ ⟨within, full⟩ done
    rcases run_leaves done with ⟨_, _, fits⟩ | ⟨read, lost, closed, grown⟩
    · exact ⟨by omega, fun _ => fits⟩
    · have few := lostAfter_le lost
      refine ⟨?_, ?_⟩
      · rw [grown, List.length_append]
        split at few
        · have fits := full ‹_›
          omega
        · omega
      · intro available
        rw [closed] at available
        cases available

section Entries

variable {holds : JournalEntry → Prop} (reads : ∀ journal, holds (api.readCurrent journal).1)

include reads

theorem readNew_entries (budget : Nat) (journal : Journal) {buffer : List JournalEntry}
    (kept : ∀ entry ∈ buffer, holds entry) :
    ∀ entry ∈ (readNew api budget journal buffer).2.1, holds entry := by
  induction budget generalizing journal buffer with
  | zero => exact kept
  | succ budget ih =>
      simp only [readNew]
      split
      · exact kept
      · split
        · exact kept
        · apply ih
          exact List.forall_mem_append.mpr ⟨kept, by simpa using reads _⟩

theorem rebuildLoop_entries {fuel : Nat} {journal : Journal} {buffer : List JournalEntry}
    {rebuilt : List JournalEntry × Journal} (kept : ∀ entry ∈ buffer, holds entry)
    (done : rebuildLoop api cap fuel journal buffer = some rebuilt) :
    ∀ entry ∈ rebuilt.1, holds entry := by
  induction fuel generalizing journal buffer with
  | zero => cases done
  | succ fuel ih =>
      simp only [rebuildLoop] at done
      split at done
      · cases done
        exact kept
      · have pushed : ∀ entry ∈ buffer ++ [(api.readCurrent (api.deadlinePassed journal).2).1],
            holds entry := List.forall_mem_append.mpr ⟨kept, by simpa using reads _⟩
        have bounded : ∀ entry ∈ (if (buffer ++
            [(api.readCurrent (api.deadlinePassed journal).2).1]).length > cap
              then (buffer ++ [(api.readCurrent (api.deadlinePassed journal).2).1]).drop 1
              else buffer ++ [(api.readCurrent (api.deadlinePassed journal).2).1]),
            holds entry := by
          split
          · exact fun entry member => pushed entry (List.mem_of_mem_drop member)
          · exact pushed
        split at done
        · exact ih bounded done
        · cases done
          exact bounded

theorem prime_entries {fuel : Nat} {journal : Journal} {after : JournalReader × Journal}
    (done : prime api cap fuel journal = some after) : ∀ entry ∈ after.1.buffer, holds entry := by
  obtain ⟨rebuilt, found, rfl⟩ := Option.map_eq_some_iff.mp done
  have filled : ∀ entry ∈ rebuilt.1, holds entry := by
    simp only [rebuildFromTail] at found
    split at found
    · split at found
      · exact rebuildLoop_entries reads (by simp) found
      · cases found
        simp
    · cases found
      simp
  exact fun entry member => filled entry (List.mem_of_mem_drop member)

theorem openAndPrime_entries {fuel : Nat} {reader : JournalReader} {journal : Journal}
    {after : JournalReader × Journal} (kept : ∀ entry ∈ reader.buffer, holds entry)
    (done : openAndPrime api cap fuel reader journal = some after) :
    ∀ entry ∈ after.1.buffer, holds entry := by
  simp only [openAndPrime] at done
  split at done
  · exact prime_entries reads done
  · split at done
    · exact prime_entries reads done
    · cases done
      exact kept

theorem ingest_entries {fuel : Nat} {reader : JournalReader} {journal : Journal}
    {after : JournalReader × Journal} (kept : ∀ entry ∈ reader.buffer, holds entry)
    (done : ingest api cap fuel reader journal = some after) :
    ∀ entry ∈ after.1.buffer, holds entry := by
  simp only [ingest] at done
  split at done
  · exact openAndPrime_entries reads kept done
  · split at done
    · cases done
      exact kept
    · have grown := readNew_entries reads (2 * cap) (api.wait journal).2 kept
      split at done
      · rename_i same
        rw [same] at grown
        cases done
        exact grown
      · rename_i same
        rw [same] at grown
        cases done
        exact fun entry member => grown entry (List.mem_of_mem_drop member)
      · exact prime_entries reads done

theorem buffer_entries (config : Config) (fuel : Nat) (journal : Journal)
    {calls : List ReaderCall} {final : JournalReader × Journal}
    (run : follow (callStep api config fuel) ({}, journal) calls = some final) :
    ∀ entry ∈ final.1.buffer, holds entry := by
  refine follow_preserves (fun state : JournalReader × Journal =>
    ∀ entry ∈ state.1.buffer, holds entry) (fun _ => True) ?_ run (fun _ _ => trivial) (by simp)
  intro state call after _ kept done
  cases call with
  | init => exact openAndPrime_entries reads kept done
  | ingest => exact ingest_entries reads kept done

end Entries

def scriptedJournal (entry : JournalEntry) : JournalApi (List Int) where
  openSystem script := (!script.isEmpty, script)
  openLocal script := (!script.isEmpty, script)
  seekTail script := (true, script)
  previousSkip _ script := (0, script)
  deadlinePassed script := (false, script)
  readCurrent script := (entry, script)
  next script := (script.headD 0, script.tail)
  wait script := (true, script)

def oneEntryConfig : Config := { journalBufferMaxEntries := 1 }

theorem buffer_bounded_caughtUp :
    ∃ final, follow (callStep (scriptedJournal {}) oneEntryConfig 1) ({}, [1, 0])
        [.init, .ingest] = some final ∧
      (Throughout (callStep (scriptedJournal {}) oneEntryConfig 1) ({}, [1, 0])
          (fun state => state.1.buffer.length ≤ bufferCap oneEntryConfig) [.init, .ingest] ↔
        EachStep (callStep (scriptedJournal {}) oneEntryConfig 1) ({}, [1, 0])
          (LossFits (scriptedJournal {}) oneEntryConfig) [.init, .ingest]) :=
  ⟨_, rfl, buffer_bounded_iff _ _ _ _ _ _ rfl⟩

theorem buffer_exceeds_cap :
    bufferCap oneEntryConfig = 1 ∧
      follow (callStep (scriptedJournal {}) oneEntryConfig 1) ({}, [1, 0, 1, -5])
        [.init, .ingest, .ingest] = some ({ available := false, buffer := [{}, {}] }, []) := by
  decide

def LosesNothing (api : JournalApi Journal) (config : Config) (state : JournalReader × Journal)
    (call : ReaderCall) : Prop :=
  ∀ read, lostAfter api (bufferCap config) state call = some read →
    state.1.buffer = [] ∧ read = 0

theorem degraded_empty_iff (api : JournalApi Journal) (config : Config) (fuel : Nat)
    (journal : Journal) (calls : List ReaderCall) (final : JournalReader × Journal)
    (run : follow (callStep api config fuel) ({}, journal) calls = some final) :
    Throughout (callStep api config fuel) ({}, journal)
        (fun state => state.1.available = false → state.1.buffer = []) calls ↔
      EachStep (callStep api config fuel) ({}, journal) (LosesNothing api config) calls := by
  refine throughout_iff_eachStep (fun _ => True) _ _ trivial (fun _ => rfl)
    (fun _ _ _ _ _ => trivial) ?_ run
  intro state call after _ _ done
  rcases run_leaves done with ⟨kept, available, _⟩ | ⟨read, lost, degraded, grown⟩
  · simp [LosesNothing, kept, available]
  · simp [LosesNothing, lost, degraded, grown]

def Silent (config : Config) (reader : JournalReader) : Prop :=
  (∀ clock, reader.overallSeverity config clock = .ok) ∧
    (∀ clock, reader.errorCount config clock = 0) ∧
    (∀ now, reader.recentErrors config now = []) ∧
    (∀ now unit, reader.excerptForUnit config now unit = []) ∧
    ∀ clocks, JournalProbe.collect config clocks (some reader) = .ok { overall := .ok }

theorem silent_of_empty (config : Config) (reader : JournalReader) (empty : reader.buffer = []) :
    Silent config reader := by
  refine ⟨?_, ?_, ?_, ?_, ?_⟩
  · simp [overallSeverity, overallSeverityOf, empty]
  · simp [errorCount, errorCountOf, empty]
  · simp [recentErrors, recentErrorsOf, filterJournalEntries, empty]
  · simp [excerptForUnit, excerptForUnitOf, filterJournalEntries, empty]
  · simp [JournalProbe.collect, overallSeverity, overallSeverityOf, errorCount, errorCountOf,
      recentErrors, recentErrorsOf, filterJournalEntries, empty]

/-- In a run where no call loses the handle while entries are buffered or after
reading some, the degraded reader answers every query with nothing. -/
theorem degraded_silent (api : JournalApi Journal) (config : Config) (fuel : Nat)
    (journal : Journal) (calls : List ReaderCall) (final : JournalReader × Journal)
    (run : follow (callStep api config fuel) ({}, journal) calls = some final)
    (lossless : EachStep (callStep api config fuel) ({}, journal) (LosesNothing api config)
      calls) :
    Throughout (callStep api config fuel) ({}, journal)
      (fun state => state.1.available = false → Silent config state.1) calls := by
  have empties := (degraded_empty_iff api config fuel journal calls final run).mpr lossless
  intro past rest state shape reached degraded
  exact silent_of_empty config state.1 (empties past rest state shape reached degraded)

theorem degraded_silent_unopened :
    ∃ final, follow (callStep (scriptedJournal {}) {} 1) ({}, []) [.init] = some final ∧
      Throughout (callStep (scriptedJournal {}) {} 1) ({}, [])
        (fun state => state.1.available = false → Silent {} state.1) [.init] := by
  refine ⟨_, rfl, degraded_silent _ _ _ _ _ _ rfl ?_⟩
  intro past call rest state shape reached read lost
  cases past with
  | nil =>
      obtain ⟨rfl, rfl⟩ := List.cons.inj shape
      obtain rfl := Option.some.inj reached
      simpa [lostAfter, openFails, scriptedJournal, eq_comm] using lost
  | cons first others => simp at shape

theorem degraded_serves_lost_entries :
    follow (callStep (scriptedJournal { priority := 3, message := [120] }) {} 1) ({}, [1, -5])
        [.init, .ingest] =
      some ({ available := false, buffer := [{ priority := 3, message := [120] }] }, []) ∧
    ¬Silent {} { available := false, buffer := [{ priority := 3, message := [120] }] } := by
  refine ⟨by decide, fun silent => ?_⟩
  have severity := silent.1 fun _ => 0
  revert severity
  decide

end JournalReader

end EdgeHealthd
