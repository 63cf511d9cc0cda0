import EdgeHealthd.JournalWindow

/-!
The two excerpt queries as `src/journal_reader.cpp` and `src/journal.cpp` run
them: a copy of the selected entries in reverse, then one loop that skips, trims,
cuts, appends and stops. Both return the newest lines that qualify.
-/

namespace EdgeHealthd

namespace JournalDetail

-- The `while` loop that takes line ends off the back of the message.
def popLineEnds (message : ByteString) : ByteString :=
  if message ≠ [] ∧ message.getLast?.any isLineEnd then popLineEnds message.dropLast
  else message
  termination_by message.length
  decreasing_by
    rename_i loops
    have positive := List.length_pos_iff.mpr loops.1
    rw [List.length_dropLast]
    omega

def windowCutoff (config : Config) (now : UInt64) : Option UInt64 :=
  match config.logExcerptWindowSec with
  | some window => if window > 0 then some (now - window * usecPerSec) else none
  | none => none

def filterLoop (config : Config) (cutoff : Option UInt64) :
    List JournalEntry → List ByteString → List ByteString
  | [], out => out
  | entry :: rest, out =>
      if cutoff.any (fun cutoff => entry.realtimeUsec < cutoff) then
        filterLoop config cutoff rest out
      else if config.logExcerptMinPriority.any (fun priority => ¬ entry.priority ≤ priority) then
        filterLoop config cutoff rest out
      else
        let trimmed := popLineEnds entry.message
        let line := if trimmed.length > 512 then trimmed.take 512 else trimmed
        let out := if !line.isEmpty then out ++ [line] else out
        -- The test follows the append, so an entry without a line is tested as well.
        if out.length ≥ maxLines config then out else filterLoop config cutoff rest out

def filterJournalEntries (config : Config) (now : UInt64) (entries : List JournalEntry) :
    List ByteString :=
  if entries.isEmpty then []
  else filterLoop config (windowCutoff config now) entries []

-- `rbegin` to `rend`, with a `push_back` for each entry that passes the test.
def reverseCopy (selects : JournalEntry → Bool) (buffer : List JournalEntry) :
    List JournalEntry :=
  buffer.reverse.foldl (fun out entry => if selects entry then out ++ [entry] else out) []

def recentErrors (config : Config) (now : UInt64) (buffer : List JournalEntry) :
    List ByteString :=
  filterJournalEntries config now
    (reverseCopy (fun entry => entry.priority ≤ errorPriority config) buffer)

def excerptForUnit (config : Config) (now : UInt64) (buffer : List JournalEntry)
    (unit : ByteString) : List ByteString :=
  filterJournalEntries config now (reverseCopy (fun entry => entry.matchesUnit unit) buffer)

theorem popLineEnds_snoc (message : ByteString) (byte : UInt8) :
    popLineEnds (message ++ [byte]) =
      if isLineEnd byte then popLineEnds message else message ++ [byte] := by
  rw [popLineEnds, List.getLast?_concat, List.dropLast_concat, Option.any_some]
  by_cases lineEnd : isLineEnd byte
  · rw [if_pos ⟨List.concat_ne_nil _ _, lineEnd⟩, if_pos lineEnd]
  · rw [if_neg fun loops => lineEnd loops.2, if_neg lineEnd]

theorem popLineEnds_eq (message : ByteString) : popLineEnds message = trimLineEnds message := by
  induction message using List.reverseRecOn with
  | nil =>
      rw [popLineEnds]
      rfl
  | append_singleton message byte ih => rw [popLineEnds_snoc, trimLineEnds_snoc, ih]

theorem cut_eq (line : ByteString) :
    (if line.length > 512 then line.take 512 else line) = line.take 512 := by
  split
  · rfl
  · rename_i short
    exact (List.take_of_length_le (by omega)).symm

theorem reverseCopy_eq (selects : JournalEntry → Bool) (buffer : List JournalEntry) :
    reverseCopy selects buffer = buffer.reverse.filter selects := by
  have copied : ∀ (entries out : List JournalEntry),
      entries.foldl (fun out entry => if selects entry then out ++ [entry] else out) out =
        out ++ entries.filter selects := by
    intro entries
    induction entries with
    | nil => simp
    | cons entry rest ih =>
        intro out
        rw [List.foldl_cons, ih, List.filter_cons]
        split
        · rw [List.append_assoc, List.singleton_append]
        · rfl
  rw [reverseCopy, copied, List.nil_append]

theorem windowCutoff_some {config : Config} {window : UInt64}
    (configured : config.logExcerptWindowSec = some window) (now : UInt64) :
    windowCutoff config now = if window = 0 then none else some (now - window * usecPerSec) := by
  rw [windowCutoff, configured]
  by_cases zero : window = 0
  · rw [if_pos zero]
    exact if_neg fun positive => UInt64.pos_iff_ne_zero.mp positive zero
  · rw [if_neg zero]
    exact if_pos (UInt64.pos_iff_ne_zero.mpr zero)

theorem inWindow_eq (config : Config) (now : UInt64) (entry : JournalEntry) :
    inWindow config now entry =
      !(windowCutoff config now).any fun cutoff => entry.realtimeUsec < cutoff := by
  cases configured : config.logExcerptWindowSec with
  | none => rw [inWindow, windowCutoff, configured, Option.any_none, Bool.not_false]
  | some window =>
      rw [windowCutoff_some configured]
      by_cases zero : window = 0
      · rw [if_pos zero, inWindow, configured, Option.any_none, Bool.not_false]
        exact Bool.or_eq_true_iff.mpr (Or.inl (beq_iff_eq.mpr zero))
      · rw [if_neg zero, inWindow, configured, Option.any_some]
        dsimp only
        rw [beq_eq_false_iff_ne.mpr zero, Bool.false_or, ← decide_not]
        exact decide_eq_decide.mpr UInt64.not_lt.symm

end JournalDetail

def meetsPriority (config : Config) (entry : JournalEntry) : Bool :=
  match config.logExcerptMinPriority with
  | none => true
  | some priority => entry.priority ≤ priority

def linesOf (config : Config) (inside : JournalEntry → Bool) (entries : List JournalEntry) :
    List ByteString :=
  (((entries.filter inside).filter (meetsPriority config)).map fun entry =>
    (trimLineEnds entry.message).take 512).filter (· != [])

/-- Every line that qualifies for a query, the newest first. -/
def qualifyingLines (config : Config) (inside selects : JournalEntry → Bool)
    (buffer : List JournalEntry) : List ByteString :=
  linesOf config inside (buffer.reverse.filter selects)

theorem meetsPriority_eq (config : Config) (entry : JournalEntry) :
    meetsPriority config entry =
      !config.logExcerptMinPriority.any fun priority => ¬ entry.priority ≤ priority := by
  unfold meetsPriority
  cases config.logExcerptMinPriority with
  | none => rfl
  | some priority => simp only [Option.any_some, ← decide_not, not_not]

theorem linesOf_append (config : Config) (inside : JournalEntry → Bool)
    (newer older : List JournalEntry) :
    linesOf config inside (newer ++ older) =
      linesOf config inside newer ++ linesOf config inside older := by
  simp only [linesOf, List.filter_append, List.map_append]

theorem linesOf_cons (config : Config) (inside : JournalEntry → Bool) (entry : JournalEntry)
    (older : List JournalEntry) :
    linesOf config inside (entry :: older) =
      linesOf config inside [entry] ++ linesOf config inside older :=
  linesOf_append config inside [entry] older

theorem linesOf_skipped {config : Config} {inside : JournalEntry → Bool} {entry : JournalEntry}
    (skipped : inside entry = false ∨ meetsPriority config entry = false ∨
      (trimLineEnds entry.message).take 512 = []) : linesOf config inside [entry] = [] := by
  unfold linesOf
  by_cases within : inside entry
  · rw [List.filter_cons_of_pos within, List.filter_nil]
    by_cases urgent : meetsPriority config entry
    · have empty : (trimLineEnds entry.message).take 512 = [] := by
        simpa [within, urgent] using skipped
      rw [List.filter_cons_of_pos urgent, List.filter_nil, List.map_singleton, empty]
      rfl
    · rw [List.filter_cons_of_neg urgent]
      rfl
  · rw [List.filter_cons_of_neg within]
    rfl

theorem linesOf_kept {config : Config} {inside : JournalEntry → Bool} {entry : JournalEntry}
    (within : inside entry = true) (urgent : meetsPriority config entry = true)
    (line : (trimLineEnds entry.message).take 512 ≠ []) :
    linesOf config inside [entry] = [(trimLineEnds entry.message).take 512] := by
  rw [linesOf, List.filter_cons_of_pos within, List.filter_nil, List.filter_cons_of_pos urgent,
    List.filter_nil, List.map_singleton, List.filter_cons_of_pos (by simpa using line),
    List.filter_nil]

theorem linesOf_length_le (config : Config) (inside : JournalEntry → Bool)
    (entry : JournalEntry) : (linesOf config inside [entry]).length ≤ 1 := by
  unfold linesOf
  refine (List.length_filter_le ..).trans ?_
  rw [List.length_map]
  exact ((List.length_filter_le ..).trans (List.length_filter_le ..)).trans_eq rfl

namespace JournalDetail

theorem filterLoop_cons (config : Config) (now : UInt64) (entry : JournalEntry)
    (rest : List JournalEntry) (out : List ByteString) (room : out.length < maxLines config) :
    filterLoop config (windowCutoff config now) (entry :: rest) out =
      if (out ++ linesOf config (inWindow config now) [entry]).length ≥ maxLines config then
        out ++ linesOf config (inWindow config now) [entry]
      else filterLoop config (windowCutoff config now) rest
        (out ++ linesOf config (inWindow config now) [entry]) := by
  simp only [filterLoop, popLineEnds_eq, cut_eq]
  by_cases old : (windowCutoff config now).any fun cutoff => entry.realtimeUsec < cutoff
  · have outside : inWindow config now entry = false := by rw [inWindow_eq, old, Bool.not_true]
    rw [if_pos old, linesOf_skipped (.inl outside), List.append_nil, if_neg (by omega)]
  rw [if_neg old]
  rw [Bool.not_eq_true] at old
  have within : inWindow config now entry = true := by rw [inWindow_eq, old, Bool.not_false]
  by_cases minor : config.logExcerptMinPriority.any fun priority => ¬ entry.priority ≤ priority
  · have skipped : meetsPriority config entry = false := by
      rw [meetsPriority_eq, minor, Bool.not_true]
    rw [if_pos minor, linesOf_skipped (.inr (.inl skipped)), List.append_nil, if_neg (by omega)]
  rw [if_neg minor]
  rw [Bool.not_eq_true] at minor
  have urgent : meetsPriority config entry = true := by
    rw [meetsPriority_eq, minor, Bool.not_false]
  by_cases empty : (trimLineEnds entry.message).take 512 = []
  · rw [linesOf_skipped (.inr (.inr empty)), empty, List.append_nil]
    rfl
  · have pushed : (!((trimLineEnds entry.message).take 512).isEmpty) = true := by
      rw [Bool.not_eq_true', List.isEmpty_eq_false_iff]
      exact empty
    rw [if_pos pushed, linesOf_kept within urgent empty]

theorem filterLoop_eq (config : Config) (now : UInt64) (entries : List JournalEntry)
    (out : List ByteString) (room : out.length < maxLines config) :
    filterLoop config (windowCutoff config now) entries out =
      (out ++ linesOf config (inWindow config now) entries).take (maxLines config) := by
  induction entries generalizing out with
  | nil =>
      show out = (out ++ []).take (maxLines config)
      rw [List.append_nil, List.take_of_length_le room.le]
  | cons entry rest ih =>
      rw [filterLoop_cons config now entry rest out room,
        linesOf_cons config (inWindow config now) entry rest, ← List.append_assoc]
      by_cases full : (out ++ linesOf config (inWindow config now) [entry]).length ≥
          maxLines config
      · have single := linesOf_length_le config (inWindow config now) entry
        have exact : (out ++ linesOf config (inWindow config now) [entry]).length =
            maxLines config := by
          rw [List.length_append] at full ⊢
          omega
        rw [if_pos full, ← exact, List.take_left]
      · rw [if_neg full, ih _ (by omega)]

theorem filterJournalEntries_eq_take (config : Config) (now : UInt64)
    (entries : List JournalEntry) :
    filterJournalEntries config now entries =
      (linesOf config (inWindow config now) entries).take (maxLines config) := by
  unfold filterJournalEntries
  split
  · rename_i empty
    rw [List.isEmpty_iff.mp empty, linesOf]
    exact List.take_nil.symm
  · exact filterLoop_eq config now entries [] (maxLines_pos config)

end JournalDetail

/-- The declarative filter returns what the loop of the source collects. -/
theorem filterJournalEntries_loop (config : Config) (now : UInt64) (entries : List JournalEntry) :
    filterJournalEntries config now entries =
      JournalDetail.filterJournalEntries config now entries := by
  rw [JournalDetail.filterJournalEntries_eq_take, linesOf, List.filter_filter]
  have tests : (fun entry => meetsPriority config entry && inWindow config now entry) =
      fun entry => isExcerpted config now entry := by
    funext entry
    rw [Bool.and_comm]
    rfl
  rw [tests]
  rfl

theorem recentErrorsOf_loop (config : Config) (now : UInt64) (buffer : List JournalEntry) :
    recentErrorsOf config now buffer = JournalDetail.recentErrors config now buffer := by
  rw [recentErrorsOf, filterJournalEntries_loop, JournalDetail.recentErrors,
    JournalDetail.reverseCopy_eq]

theorem excerptForUnitOf_loop (config : Config) (now : UInt64) (buffer : List JournalEntry)
    (unit : ByteString) :
    excerptForUnitOf config now buffer unit =
      JournalDetail.excerptForUnit config now buffer unit := by
  rw [excerptForUnitOf, filterJournalEntries_loop, JournalDetail.excerptForUnit,
    JournalDetail.reverseCopy_eq]

theorem qualifyingLines_append (config : Config) (inside selects : JournalEntry → Bool)
    (older newer : List JournalEntry) :
    qualifyingLines config inside selects (older ++ newer) =
      qualifyingLines config inside selects newer ++
        qualifyingLines config inside selects older := by
  rw [qualifyingLines, List.reverse_append, List.filter_append, linesOf_append]
  rfl

theorem qualifyingLines_without (config : Config) (inside selects : JournalEntry → Bool)
    (older newer : List JournalEntry) (entry : JournalEntry)
    (lineless : qualifyingLines config inside selects [entry] = []) :
    qualifyingLines config inside selects (older ++ entry :: newer) =
      qualifyingLines config inside selects (older ++ newer) := by
  rw [qualifyingLines_append, ← List.singleton_append, qualifyingLines_append, lineless,
    List.append_nil, ← qualifyingLines_append]

theorem qualifyingLines_recent {config : Config} {now window : UInt64}
    (configured : config.logExcerptWindowSec = some window) (positive : 0 < window)
    (fits : WindowFits now window) (selects : JournalEntry → Bool)
    (buffer : List JournalEntry) :
    qualifyingLines config (inWindow config now) selects buffer =
      qualifyingLines config (fun entry => IsRecent now window entry) selects buffer := by
  have same : inWindow config now = fun entry => decide (IsRecent now window entry) := by
    funext entry
    rw [Bool.eq_iff_iff, decide_eq_true_eq]
    exact fits.inWindow_iff_isRecent configured positive entry
  rw [same]

/-- Each query returns the first `maxLines` of the qualifying lines, newest first.
What qualifies among the newer entries comes before what qualifies among the older
ones, and an entry without a line changes nothing. -/
theorem journal_excerpts_newest_first (config : Config) (now : UInt64)
    (buffer : List JournalEntry) (unit : ByteString) :
    JournalDetail.excerptForUnit config now buffer unit =
      (qualifyingLines config (inWindow config now)
        (fun entry => entry.matchesUnit unit) buffer).take (maxLines config) ∧
    JournalDetail.recentErrors config now buffer =
      (qualifyingLines config (inWindow config now)
        (fun entry => entry.priority ≤ errorPriority config) buffer).take (maxLines config) ∧
    (∀ selects older newer,
      qualifyingLines config (inWindow config now) selects (older ++ newer) =
        qualifyingLines config (inWindow config now) selects newer ++
          qualifyingLines config (inWindow config now) selects older) ∧
    (∀ selects older entry newer,
      qualifyingLines config (inWindow config now) selects [entry] = [] →
      qualifyingLines config (inWindow config now) selects (older ++ entry :: newer) =
        qualifyingLines config (inWindow config now) selects (older ++ newer)) ∧
    (∀ window, config.logExcerptWindowSec = some window → 0 < window → WindowFits now window →
      ∀ selects, qualifyingLines config (inWindow config now) selects buffer =
        qualifyingLines config (fun entry => IsRecent now window entry) selects buffer) := by
  refine ⟨?_, ?_, ?_, ?_, ?_⟩
  · rw [JournalDetail.excerptForUnit, JournalDetail.reverseCopy_eq,
      JournalDetail.filterJournalEntries_eq_take, qualifyingLines]
  · rw [JournalDetail.recentErrors, JournalDetail.reverseCopy_eq,
      JournalDetail.filterJournalEntries_eq_take, qualifyingLines]
  · intro selects older newer
    exact qualifyingLines_append config _ selects older newer
  · intro selects older entry newer lineless
    exact qualifyingLines_without config _ selects older newer entry lineless
  · intro window configured positive fits selects
    exact qualifyingLines_recent configured positive fits selects buffer

theorem journal_excerpts_in_2024 :
    JournalDetail.recentErrors minuteConfig 1704067200000000
        [errorAt 1704067150000000, { errorAt 1704067160000000 with message := [10] }] =
      [[0x78]] ∧
    qualifyingLines minuteConfig (inWindow minuteConfig 1704067200000000) (fun _ => true)
        ([errorAt 1704067150000000] ++ { errorAt 1704067160000000 with message := [10] } :: []) =
      qualifyingLines minuteConfig (inWindow minuteConfig 1704067200000000) (fun _ => true)
        ([errorAt 1704067150000000] ++ []) ∧
    qualifyingLines minuteConfig (inWindow minuteConfig 1704067200000000) (fun _ => true)
        [errorAt 1704067139999999] =
      qualifyingLines minuteConfig (fun entry => IsRecent 1704067200000000 60 entry)
        (fun _ => true) [errorAt 1704067139999999] := by
  refine ⟨?_, ?_, ?_⟩
  · rw [(journal_excerpts_newest_first minuteConfig 1704067200000000 _ []).2.1]
    decide
  · exact (journal_excerpts_newest_first minuteConfig 1704067200000000 [] []).2.2.2.1 _ _ _ _
      (by decide)
  · exact (journal_excerpts_newest_first minuteConfig 1704067200000000 _ []).2.2.2.2 60 rfl
      (by decide) (Or.inl (by decide)) _

end EdgeHealthd
