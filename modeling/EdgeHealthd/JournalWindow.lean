import EdgeHealthd.JournalLines
import EdgeHealthd.JournalReader

/-!
The reporting window. The cutoff is a difference of unsigned 64-bit numbers: it is
the integer one while the window does not reach behind the epoch, and otherwise
wraps around to a time in the far future.
-/

namespace EdgeHealthd

def windowUsec (window : UInt64) : Nat := window.toNat * 1000000

def IsRecent (now window : UInt64) (entry : JournalEntry) : Prop :=
  (now.toNat : Int) - windowUsec window ≤ entry.realtimeUsec.toNat

instance (now window : UInt64) (entry : JournalEntry) : Decidable (IsRecent now window entry) :=
  inferInstanceAs (Decidable ((now.toNat : Int) - windowUsec window ≤ entry.realtimeUsec.toNat))

/-- The window starts at the epoch or later, or its length in microseconds wraps
around to the current time itself. -/
def WindowFits (now window : UInt64) : Prop :=
  windowUsec window ≤ now.toNat ∨ windowUsec window % 2 ^ 64 = now.toNat

theorem cutoff_toNat (now window : UInt64) :
    (now - window * usecPerSec).toNat =
      (2 ^ 64 - windowUsec window % 2 ^ 64 + now.toNat) % 2 ^ 64 := by
  rw [UInt64.toNat_sub, UInt64.toNat_mul]
  rfl

theorem inWindow_iff {config : Config} {window : UInt64}
    (configured : config.logExcerptWindowSec = some window) (positive : 0 < window)
    (now : UInt64) (entry : JournalEntry) :
    inWindow config now entry = true ↔
      (2 ^ 64 - windowUsec window % 2 ^ 64 + now.toNat) % 2 ^ 64 ≤ entry.realtimeUsec.toNat := by
  have nonzero : (window == 0) = false := by
    rw [beq_eq_false_iff_ne]
    rintro rfl
    exact absurd positive (by decide)
  rw [← cutoff_toNat, ← UInt64.le_iff_toNat_le]
  simp [inWindow, configured, nonzero]

theorem WindowFits.inWindow_iff_isRecent {config : Config} {now window : UInt64}
    (fits : WindowFits now window) (configured : config.logExcerptWindowSec = some window)
    (positive : 0 < window) (entry : JournalEntry) :
    inWindow config now entry = true ↔ IsRecent now window entry := by
  have bound := now.toNat_lt
  rw [inWindow_iff configured positive, IsRecent]
  unfold WindowFits at fits
  omega

def epochEntry (config : Config) : JournalEntry :=
  { realtimeUsec := 0, priority := config.logExcerptMinPriority.getD 6, message := [0x78] }

theorem WindowFits.of_epoch {config : Config} {now window : UInt64}
    (configured : config.logExcerptWindowSec = some window) (positive : 0 < window)
    (kept : IsRecent now window (epochEntry config) →
      inWindow config now (epochEntry config) = true) : WindowFits now window := by
  have bound := now.toNat_lt
  have zero : (epochEntry config).realtimeUsec.toNat = 0 := rfl
  rw [inWindow_iff configured positive, IsRecent, zero] at kept
  unfold WindowFits
  omega

def Config.windowless (config : Config) : Config := { config with logExcerptWindowSec := none }

theorem filterJournalEntries_window (config : Config) (now : UInt64)
    (entries : List JournalEntry) :
    filterJournalEntries config now entries =
      filterJournalEntries config.windowless now
        (entries.filter fun entry => inWindow config now entry) := by
  have always : ∀ entry, inWindow config.windowless now entry = true := fun _ => rfl
  have tests : (entries.filter fun entry => inWindow config now entry).filter
      (fun entry => isExcerpted config.windowless now entry) =
      entries.filter fun entry => isExcerpted config now entry := by
    rw [List.filter_filter]
    refine List.filter_congr fun entry _ => ?_
    rw [isExcerpted, isExcerpted, always, Bool.true_and, Bool.and_comm]
    rfl
  rw [filterJournalEntries_eq, filterJournalEntries_eq, reportedEntries, reportedEntries, tests]
  rfl

theorem maxLines_pos (config : Config) : 0 < maxLines config := by
  unfold maxLines
  split
  · rename_i configured
    rw [bne_iff_ne] at configured
    exact Nat.pos_of_ne_zero fun zero => configured (UInt32.toNat_inj.mp zero)
  · decide

theorem filterJournalEntries_nil (config : Config) (now : UInt64) :
    filterJournalEntries config now [] = [] := by
  simp [filterJournalEntries]

theorem filterJournalEntries_epochEntry (config : Config) (now : UInt64) :
    filterJournalEntries config.windowless now [epochEntry config] = [[0x78]] := by
  have kept : isExcerpted config.windowless now (epochEntry config) = true := by
    cases least : config.logExcerptMinPriority with
    | none => simp [isExcerpted, inWindow, Config.windowless, least]
    | some priority => simp [isExcerpted, inWindow, Config.windowless, epochEntry, least]
  have line : excerptLine (epochEntry config).message = [0x78] := by
    show excerptLine [0x78] = [0x78]
    decide
  have room := List.take_of_length_le (l := [epochEntry config]) (maxLines_pos config.windowless)
  rw [filterJournalEntries_eq, reportedEntries, List.filter_cons_of_pos kept, List.filter_nil,
    List.filter_cons_of_pos (by rw [line]; decide), List.filter_nil, room, List.map_singleton, line]

theorem window_exact_iff (config : Config) (now window : UInt64)
    (configured : config.logExcerptWindowSec = some window) (positive : 0 < window) :
    ((∀ entry, inWindow config now entry = true ↔ IsRecent now window entry) ↔
      WindowFits now window) ∧
    ((∀ entries, filterJournalEntries config now entries =
        filterJournalEntries config.windowless now
          (entries.filter fun entry => IsRecent now window entry)) ↔
      WindowFits now window) := by
  refine ⟨⟨?_, ?_⟩, ⟨?_, ?_⟩⟩
  · intro agree
    exact .of_epoch configured positive (agree (epochEntry config)).mpr
  · intro fits entry
    exact fits.inWindow_iff_isRecent configured positive entry
  · intro agree
    refine .of_epoch configured positive fun recent => ?_
    have same := agree [epochEntry config]
    rw [List.filter_cons_of_pos (by simpa using recent), List.filter_nil,
      filterJournalEntries_epochEntry, filterJournalEntries_window] at same
    by_contra dropped
    rw [List.filter_cons_of_neg dropped, List.filter_nil, filterJournalEntries_nil] at same
    cases same
  · intro fits entries
    rw [filterJournalEntries_window]
    congr 1
    refine List.filter_congr fun entry _ => ?_
    rw [Bool.eq_iff_iff, decide_eq_true_eq]
    exact fits.inWindow_iff_isRecent configured positive entry

def minuteConfig : Config := { logExcerptWindowSec := some 60 }

def errorAt (realtimeUsec : UInt64) : JournalEntry :=
  { realtimeUsec, priority := 3, message := [0x78] }

theorem window_exact_in_2024 :
    inWindow minuteConfig 1704067200000000 (errorAt 1704067140000000) = true ∧
      inWindow minuteConfig 1704067200000000 (errorAt 1704067139999999) = false := by
  have exact := (window_exact_iff minuteConfig 1704067200000000 60 rfl (by decide)).1.mpr
    (Or.inl (by decide))
  refine ⟨(exact _).mpr (by decide), ?_⟩
  rw [← Bool.not_eq_true, exact]
  decide

theorem recent_entry_dropped_after_boot :
    IsRecent 30000000 60 (errorAt 29000000) ∧
      inWindow minuteConfig 30000000 (errorAt 29000000) = false ∧
      filterJournalEntries minuteConfig 30000000 [errorAt 29000000] = [] ∧
      filterJournalEntries minuteConfig.windowless 30000000 [errorAt 29000000] = [[0x78]] := by
  decide

section Counts

variable (config : Config)

def isCounted (clock : Nat → UInt64) (indexed : JournalEntry × Nat) : Bool :=
  indexed.1.priority ≤ errorPriority config && inWindow config (clock indexed.2) indexed.1

theorem errorCountOf_toNat (clock : Nat → UInt64) {buffer : List JournalEntry}
    (small : buffer.length < 2 ^ 32) :
    (errorCountOf config clock buffer).toNat = buffer.zipIdx.countP (isCounted config clock) := by
  have bound : buffer.zipIdx.countP (isCounted config clock) ≤ buffer.length := by
    rw [← List.length_zipIdx (l := buffer) (i := 0)]
    exact List.countP_le_length
  show (UInt32.ofNat (buffer.zipIdx.countP (isCounted config clock))).toNat = _
  rw [UInt32.toNat_ofNat']
  exact Nat.mod_eq_of_lt (by omega)

theorem errorCountOf_eq_zero (clock : Nat → UInt64) {buffer : List JournalEntry}
    (small : buffer.length < 2 ^ 32) :
    errorCountOf config clock buffer = 0 ↔
      ∀ indexed ∈ buffer.zipIdx, isCounted config clock indexed = false := by
  rw [← UInt32.toNat_inj, errorCountOf_toNat config clock small]
  show _ = 0 ↔ _
  rw [List.countP_eq_zero]
  simp only [Bool.not_eq_true]

theorem not_quiet_of_any (clock : Nat → UInt64) {buffer : List JournalEntry} {limit : Int}
    (severe : limit ≤ 3)
    (found : ((buffer.zipIdx.filter fun indexed => inWindow config (clock indexed.2) indexed.1).any
      fun indexed => indexed.1.priority ≤ limit) = true) :
    ¬∀ indexed ∈ buffer.zipIdx, inWindow config (clock indexed.2) indexed.1 = true →
      3 < indexed.1.priority := by
  intro quiet
  obtain ⟨indexed, member, urgent⟩ := List.any_eq_true.mp found
  obtain ⟨listed, visible⟩ := List.mem_filter.mp member
  have later := quiet indexed listed visible
  have early : indexed.1.priority ≤ limit := of_decide_eq_true urgent
  omega

theorem overallSeverityOf_eq_ok (clock : Nat → UInt64) (buffer : List JournalEntry) :
    overallSeverityOf config clock buffer = .ok ↔
      ∀ indexed ∈ buffer.zipIdx, inWindow config (clock indexed.2) indexed.1 = true →
        3 < indexed.1.priority := by
  simp only [overallSeverityOf]
  split
  · rename_i critical
    exact iff_of_false (by decide) (not_quiet_of_any config clock (by decide) critical)
  · split
    · rename_i warned
      exact iff_of_false (by decide) (not_quiet_of_any config clock (by decide) warned)
    · rename_i silent
      refine iff_of_true rfl ?_
      intro indexed listed visible
      by_contra urgent
      apply silent
      refine List.any_eq_true.mpr ⟨indexed, List.mem_filter.mpr ⟨listed, visible⟩, ?_⟩
      simpa using urgent

def latestError : JournalEntry :=
  { realtimeUsec := UInt64.ofNat (2 ^ 64 - 1), priority := 3, message := [0x78] }

theorem inWindow_latestError (now : UInt64) : inWindow config now latestError = true := by
  unfold inWindow
  split
  · rfl
  · rename_i window _
    have bound := (now - window * usecPerSec).toNat_lt
    have latest : latestError.realtimeUsec.toNat = 2 ^ 64 - 1 := by decide
    rw [Bool.or_eq_true, decide_eq_true_eq, ge_iff_le, UInt64.le_iff_toNat_le, latest]
    omega

theorem valid_buffer_small (valid : config.validate = none) : 3 * bufferCap config < 2 ^ 32 := by
  simp only [Config.validate, ite_some_eq_none_iff] at valid
  obtain ⟨_, _, _, _, _, _, _, _, cap, _⟩ := valid
  have bound : config.journalBufferMaxEntries.toNat ≤ 100000 :=
    UInt32.le_iff_toNat_le.mp (UInt32.not_lt.mp cap)
  unfold bufferCap
  split <;> omega

/-- An error count of zero means that the section is ok, over the buffers that a
reader can hold, exactly when the count covers all priorities that severity does. -/
theorem zero_errors_ok_iff (valid : config.validate = none) :
    (∀ (Journal : Type) (api : JournalApi Journal) (fuel : Nat) (journal : Journal)
      (calls : List ReaderCall) (final : JournalReader × Journal),
      Machine.follow (JournalReader.callStep api config fuel) ({}, journal) calls = some final →
      final.1.buffer.length < 2 ^ 32) ∧
    ((∀ (buffer : List JournalEntry) (now : UInt64), buffer.length < 2 ^ 32 →
      errorCountOf config (fun _ => now) buffer = 0 →
      overallSeverityOf config (fun _ => now) buffer = .ok) ↔
      ∀ priority, config.logExcerptMinPriority = some priority → 3 ≤ priority) := by
  refine ⟨?_, ?_, ?_⟩
  · intro Journal api fuel journal calls final run
    have held := JournalReader.buffer_holdable api config fuel journal calls final run
    have small := valid_buffer_small config valid
    omega
  · intro agree priority configured
    by_contra low
    have uncounted : errorCountOf config (fun _ => 0) [latestError] = 0 := by
      rw [errorCountOf_eq_zero config _ (by decide)]
      intro indexed listed
      obtain rfl : indexed = (latestError, 0) := by simpa using listed
      have above : ¬latestError.priority ≤ errorPriority config := by
        rw [errorPriority, configured]
        exact low
      simp [isCounted, above]
    have ok := agree [latestError] 0 (by decide) uncounted
    rw [overallSeverityOf_eq_ok] at ok
    exact absurd (ok (latestError, 0) (by simp) (inWindow_latestError config 0)) (by decide)
  · intro covers buffer now small none
    have least : 3 ≤ errorPriority config := by
      unfold errorPriority
      cases configured : config.logExcerptMinPriority with
      | none => exact Int.le_refl 3
      | some priority => exact covers priority configured
    rw [errorCountOf_eq_zero config _ small] at none
    rw [overallSeverityOf_eq_ok]
    intro indexed listed visible
    by_contra urgent
    have counted := none indexed listed
    simp only [isCounted, visible, Bool.and_true, decide_eq_false_iff_not] at counted
    omega

theorem zero_errors_ok_defaults :
    errorCountOf {} (fun _ => 5) [{}] = 0 ∧ overallSeverityOf {} (fun _ => 5) [{}] = .ok := by
  have none : errorCountOf {} (fun _ => 5) [{}] = 0 := by decide
  exact ⟨none, (zero_errors_ok_iff {} (by decide)).2.mpr nofun [{}] 5 (by decide) none⟩

def critConfig : Config := { logExcerptMinPriority := some 2 }

theorem warn_without_errors :
    critConfig.validate = none ∧ errorCountOf critConfig (fun _ => 5) [latestError] = 0 ∧
      recentErrorsOf critConfig 5 [latestError] = [] ∧
      overallSeverityOf critConfig (fun _ => 5) [latestError] = .warn := by
  decide

/-- The readings of one collection never go back, and none is smaller than the window. -/
structure ClocksOrdered (buffer : List JournalEntry) (clocks : QueryClocks) : Prop where
  severity : ∀ i j, i ≤ j → j < buffer.length → clocks.severity i ≤ clocks.severity j
  between : ∀ i j, i < buffer.length → j < buffer.length → clocks.severity i ≤ clocks.count j
  count : ∀ i j, i ≤ j → j < buffer.length → clocks.count i ≤ clocks.count j
  last : ∀ i, i < buffer.length → clocks.count i ≤ clocks.errors
  late : ∀ window, config.logExcerptWindowSec = some window →
    (∀ i, i < buffer.length → windowUsec window ≤ (clocks.severity i).toNat ∧
      windowUsec window ≤ (clocks.count i).toNat) ∧ windowUsec window ≤ clocks.errors.toNat

variable {config}

theorem ClocksOrdered.inWindow_earlier {buffer : List JournalEntry} {clocks : QueryClocks}
    (ordered : ClocksOrdered config buffer clocks) {index : Nat} (listed : index < buffer.length)
    {entry : JournalEntry} (visible : inWindow config clocks.errors entry = true) :
    inWindow config (clocks.count index) entry = true := by
  cases configured : config.logExcerptWindowSec with
  | none => simp [inWindow, configured]
  | some window =>
      by_cases zero : window = 0
      · simp [inWindow, configured, zero]
      · have positive : 0 < window := UInt64.pos_iff_ne_zero.mpr zero
        obtain ⟨each, final⟩ := ordered.late window configured
        have forward := UInt64.le_iff_toNat_le.mp (ordered.last index listed)
        have later : WindowFits clocks.errors window := Or.inl final
        have earlier : WindowFits (clocks.count index) window := Or.inl (each index listed).2
        rw [later.inWindow_iff_isRecent configured positive, IsRecent] at visible
        rw [earlier.inWindow_iff_isRecent configured positive, IsRecent]
        omega

theorem ClocksOrdered.counted {buffer : List JournalEntry} {clocks : QueryClocks}
    (ordered : ClocksOrdered config buffer clocks) {indexed : JournalEntry × Nat}
    (listed : indexed ∈ buffer.zipIdx)
    (reported : (decide (indexed.1.priority ≤ errorPriority config) &&
      inWindow config clocks.errors indexed.1) = true) :
    isCounted config clocks.count indexed = true := by
  obtain ⟨urgent, visible⟩ := Bool.and_eq_true_iff.mp reported
  have inside : indexed.2 < buffer.length := by
    have found := List.mem_zipIdx_iff_getElem?.mp listed
    exact (List.getElem?_eq_some_iff.mp found).1
  exact Bool.and_eq_true_iff.mpr ⟨urgent, ordered.inWindow_earlier inside visible⟩

theorem ClocksOrdered.lines_le_counted {buffer : List JournalEntry} {clocks : QueryClocks}
    (ordered : ClocksOrdered config buffer clocks) :
    (recentErrorsOf config clocks.errors buffer).length ≤
      buffer.zipIdx.countP (isCounted config clocks.count) := by
  have excerpted : ∀ entry, isExcerpted config clocks.errors entry = true →
      inWindow config clocks.errors entry = true :=
    fun entry kept => (Bool.and_eq_true_iff.mp kept).1
  calc (recentErrorsOf config clocks.errors buffer).length
      ≤ (buffer.reverse.filter fun entry => entry.priority ≤ errorPriority config).countP
          fun entry => isExcerpted config clocks.errors entry := by
        rw [recentErrorsOf, filterJournalEntries_eq, List.length_map, List.countP_eq_length_filter]
        exact ((List.take_sublist _ _).trans List.filter_sublist).length_le
    _ ≤ (buffer.reverse.filter fun entry => entry.priority ≤ errorPriority config).countP
          fun entry => inWindow config clocks.errors entry :=
        List.countP_mono_left fun entry _ => excerpted entry
    _ = buffer.countP fun entry => inWindow config clocks.errors entry &&
          entry.priority ≤ errorPriority config := by
        rw [List.countP_filter, List.countP_reverse]
    _ = buffer.zipIdx.countP fun indexed => inWindow config clocks.errors indexed.1 &&
          indexed.1.priority ≤ errorPriority config := by
        have firsts : buffer.zipIdx.map Prod.fst = buffer := List.zipIdx_map_fst 0 buffer
        conv_lhs => rw [← firsts, List.countP_map]
        rfl
    _ ≤ buffer.zipIdx.countP (isCounted config clocks.count) := by
        refine List.countP_mono_left fun indexed listed reported => ?_
        rw [Bool.and_comm] at reported
        exact ordered.counted listed reported

theorem ClocksOrdered.line_counted {buffer : List JournalEntry} {clocks : QueryClocks}
    (ordered : ClocksOrdered config buffer clocks) {line : ByteString}
    (listed : line ∈ recentErrorsOf config clocks.errors buffer) :
    ∃ index entry, buffer[index]? = some entry ∧
      isCounted config clocks.count (entry, index) = true ∧ line = excerptLine entry.message := by
  rw [recentErrorsOf, filterJournalEntries_eq] at listed
  obtain ⟨entry, reported, rfl⟩ := List.mem_map.mp listed
  have selected := List.mem_of_mem_filter (List.mem_of_mem_take reported)
  obtain ⟨member, excerpted⟩ := List.mem_filter.mp selected
  obtain ⟨kept, urgent⟩ := List.mem_filter.mp member
  obtain ⟨index, bound, found⟩ := List.getElem_of_mem (List.mem_reverse.mp kept)
  have at_index : buffer[index]? = some entry := List.getElem?_eq_some_iff.mpr ⟨bound, found⟩
  refine ⟨index, entry, at_index, ?_, rfl⟩
  refine ordered.counted (List.mem_zipIdx_iff_getElem?.mpr at_index) ?_
  exact Bool.and_eq_true_iff.mpr ⟨urgent, (Bool.and_eq_true_iff.mp excerpted).1⟩

/-- The count of a collection covers its lines: each line is that of a counted
entry, and with fewer than 2^32 entries there are no more lines than the count. -/
theorem recent_errors_counted (config : Config) (clocks : QueryClocks)
    (reader : Option JournalReader)
    (ordered : ∀ held, reader = some held → ClocksOrdered config held.buffer clocks) :
    ∃ status, JournalProbe.collect config clocks reader = .ok status ∧
      ((∀ held, reader = some held → held.buffer.length < 2 ^ 32) →
        status.recentErrors.length ≤ status.errorCount.toNat) ∧
      ∀ line ∈ status.recentErrors, ∃ held index entry, reader = some held ∧
        held.buffer[index]? = some entry ∧
        isCounted config clocks.count (entry, index) = true ∧
        line = excerptLine entry.message := by
  cases reader with
  | none =>
      refine ⟨_, rfl, fun _ => Nat.zero_le _, ?_⟩
      intro line listed
      cases listed
  | some held =>
      have forward := ordered held rfl
      refine ⟨_, rfl, ?_, ?_⟩
      · intro small
        show (recentErrorsOf config clocks.errors held.buffer).length ≤
          (errorCountOf config clocks.count held.buffer).toNat
        rw [errorCountOf_toNat config clocks.count (small held rfl)]
        exact forward.lines_le_counted
      · intro line listed
        obtain ⟨index, entry, found, counted, same⟩ := forward.line_counted listed
        exact ⟨held, index, entry, rfl, found, counted, same⟩

def floodedReader (count : Nat) : JournalReader :=
  { available := true, buffer := List.replicate count latestError }

def stillClocks (now : UInt64) : QueryClocks := ⟨fun _ => now, fun _ => now, now⟩

theorem stillClocks_ordered (buffer : List JournalEntry) (now : UInt64) :
    ClocksOrdered {} buffer (stillClocks now) :=
  ⟨fun _ _ _ _ => UInt64.le_refl _, fun _ _ _ _ => UInt64.le_refl _,
    fun _ _ _ _ => UInt64.le_refl _, fun _ _ => UInt64.le_refl _, nofun⟩

theorem floodedReader_count (count : Nat) (clock : Nat → UInt64) :
    (floodedReader count).errorCount {} clock = UInt32.ofNat count := by
  have all : ∀ indexed ∈ (List.replicate count latestError).zipIdx,
      isCounted {} clock indexed = true := by
    intro indexed listed
    have found := List.mem_zipIdx_iff_getElem?.mp listed
    have same := List.eq_of_mem_replicate (List.mem_of_getElem? found)
    rw [isCounted, same]
    rfl
  have counted := List.countP_eq_length.mpr all
  rw [List.length_zipIdx, List.length_replicate] at counted
  exact congrArg UInt32.ofNat counted

theorem floodedReader_lines (count : Nat) (now : UInt64) :
    ((floodedReader count).recentErrors {} now).length = min 20 count := by
  show (recentErrorsOf {} now (List.replicate count latestError)).length = _
  rw [recentErrorsOf, filterJournalEntries_eq, reportedEntries, List.reverse_replicate,
    List.filter_replicate_of_pos (by decide), List.filter_replicate_of_pos (by rfl),
    List.filter_replicate_of_pos (by decide), List.take_replicate, List.length_map,
    List.length_replicate]
  rfl

theorem recent_errors_counted_flood :
    ∃ status, JournalProbe.collect {} (stillClocks 5) (some (floodedReader 30)) = .ok status ∧
      status.recentErrors.length ≤ status.errorCount.toNat := by
  obtain ⟨status, collected, covered, _⟩ := recent_errors_counted {} (stillClocks 5)
    (some (floodedReader 30)) fun held _ => stillClocks_ordered held.buffer 5
  refine ⟨status, collected, covered ?_⟩
  rintro held ⟨⟩
  decide

theorem collect_floodedReader (count : Nat) :
    ∃ status, JournalProbe.collect {} (stillClocks 5) (some (floodedReader count)) = .ok status ∧
      status.recentErrors.length = min 20 count ∧ status.errorCount = UInt32.ofNat count :=
  ⟨_, rfl, floodedReader_lines count 5, floodedReader_count count _⟩

theorem error_count_wraps :
    ¬∀ (config : Config) (clocks : QueryClocks) (reader : JournalReader) (status : JournalStatus),
      ClocksOrdered config reader.buffer clocks →
      JournalProbe.collect config clocks (some reader) = .ok status →
      status.recentErrors.length ≤ status.errorCount.toNat := by
  intro claimed
  obtain ⟨status, collected, lines, count⟩ := collect_floodedReader (2 ^ 32)
  have covered := claimed {} (stillClocks 5) (floodedReader (2 ^ 32)) status
    (stillClocks_ordered _ 5) collected
  rw [lines, count] at covered
  exact absurd covered (by decide)

end Counts

end EdgeHealthd
