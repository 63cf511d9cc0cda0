import EdgeHealthd.JournalReaderCore
import EdgeHealthd.JournalText

/-!
The lines that the journal queries return. A message is stored as well-formed
UTF-8; taking line ends off keeps it so, and cutting it at 512 bytes keeps it so
exactly when the cut falls between two characters.
-/

namespace EdgeHealthd

def trimLineEnds (message : ByteString) : ByteString :=
  (message.reverse.dropWhile isLineEnd).reverse

theorem excerptLine_eq (message : ByteString) :
    excerptLine message = (trimLineEnds message).take 512 := rfl

theorem trimLineEnds_snoc (message : ByteString) (byte : UInt8) :
    trimLineEnds (message ++ [byte]) =
      if isLineEnd byte then trimLineEnds message else message ++ [byte] := by
  unfold trimLineEnds
  rw [List.reverse_append, List.reverse_singleton, List.singleton_append, List.dropWhile_cons]
  split
  · rfl
  · rw [List.reverse_cons, List.reverse_reverse]

theorem isLineEnd_starts {byte : UInt8} (lineEnd : isLineEnd byte = true) :
    Utf8.code.Starts byte := by
  simp only [isLineEnd, Bool.or_eq_true, beq_iff_eq] at lineEnd
  rcases lineEnd with rfl | rfl
  · exact Or.inl (by decide)
  · exact Or.inl (by decide)

theorem trimLineEnds_wellFormed {message : ByteString} (formed : Utf8.code.WellFormed message) :
    Utf8.code.WellFormed (trimLineEnds message) := by
  induction message using List.reverseRecOn with
  | nil => exact formed
  | append_singleton message byte ih =>
      rw [trimLineEnds_snoc]
      split
      · rename_i lineEnd
        have last : (message ++ [byte])[message.length]? = some byte := by simp
        have shorter := (formed.take_iff last).mpr (isLineEnd_starts lineEnd)
        rw [List.take_left] at shorter
        exact ih shorter
      · exact formed

/-- The message fits, or the first byte that is cut off begins a character. -/
def CutsCleanly (message : ByteString) : Prop :=
  ∀ byte, (trimLineEnds message)[512]? = some byte → byte.IsUTF8FirstByte

theorem excerptLine_wellFormed_iff {message : ByteString}
    (formed : Utf8.code.WellFormed message) :
    Utf8.code.WellFormed (excerptLine message) ↔ CutsCleanly message := by
  have trimmed := trimLineEnds_wellFormed formed
  rw [excerptLine_eq]
  cases cut : (trimLineEnds message)[512]? with
  | none =>
      rw [List.take_of_length_le (List.getElem?_eq_none_iff.mp cut)]
      refine iff_of_true trimmed ?_
      intro byte found
      rw [cut] at found
      cases found
  | some byte =>
      rw [trimmed.take_iff cut]
      constructor
      · intro starts other found
        rw [cut] at found
        cases found
        exact starts
      · intro clean
        exact clean byte cut

def maxLines (config : Config) : Nat :=
  if config.logExcerptMaxLines != 0 then config.logExcerptMaxLines.toNat else 20

def isExcerpted (config : Config) (now : UInt64) (entry : JournalEntry) : Bool :=
  inWindow config now entry &&
    match config.logExcerptMinPriority with
    | none => true
    | some priority => entry.priority ≤ priority

def reportedEntries (config : Config) (now : UInt64) (entries : List JournalEntry) :
    List JournalEntry :=
  ((entries.filter fun entry => isExcerpted config now entry).filter fun entry =>
    excerptLine entry.message != []).take (maxLines config)

theorem filterJournalEntries_eq (config : Config) (now : UInt64) (entries : List JournalEntry) :
    filterJournalEntries config now entries =
      (reportedEntries config now entries).map fun entry => excerptLine entry.message := by
  simp only [filterJournalEntries, reportedEntries, List.map_take, List.filter_map]
  rfl

theorem reportedEntries_subset (config : Config) (now : UInt64) (entries : List JournalEntry) :
    reportedEntries config now entries ⊆ entries := by
  intro entry reported
  exact List.mem_of_mem_filter (List.mem_of_mem_filter (List.mem_of_mem_take reported))

theorem lines_wellFormed_iff (config : Config) (now : UInt64) (entries : List JournalEntry)
    (stored : ∀ entry ∈ entries, Utf8.code.WellFormed entry.message) :
    (∀ line ∈ filterJournalEntries config now entries, Utf8.code.WellFormed line) ↔
      ∀ entry ∈ reportedEntries config now entries, CutsCleanly entry.message := by
  rw [filterJournalEntries_eq, List.forall_mem_map]
  refine forall₂_congr fun entry reported => ?_
  exact excerptLine_wellFormed_iff (stored entry (reportedEntries_subset config now entries reported))

def Sanitized (entry : JournalEntry) : Prop := ∃ raw, sanitizeUtf8 raw = some entry.message

theorem Sanitized.wellFormed {entry : JournalEntry} (sanitized : Sanitized entry) :
    Utf8.code.WellFormed entry.message := by
  obtain ⟨raw, stored⟩ := sanitized
  obtain ⟨clean, same, repaired⟩ := sanitizeUtf8_repairs raw
  obtain rfl := Option.some.inj (stored.symm.trans same)
  exact repaired.wellFormed

/-- The lines of each query are well-formed exactly when no reported message is
cut inside a character. -/
theorem journal_lines_wellFormed_iff (config : Config) (now : UInt64)
    (buffer : List JournalEntry) (stored : ∀ entry ∈ buffer, Sanitized entry) (unit : ByteString) :
    ((∀ line ∈ filterJournalEntries config now buffer, Utf8.code.WellFormed line) ↔
      ∀ entry ∈ reportedEntries config now buffer, CutsCleanly entry.message) ∧
    ((∀ line ∈ recentErrorsOf config now buffer, Utf8.code.WellFormed line) ↔
      ∀ entry ∈ reportedEntries config now
        (buffer.reverse.filter fun entry => entry.priority ≤ errorPriority config),
        CutsCleanly entry.message) ∧
    ((∀ line ∈ excerptForUnitOf config now buffer unit, Utf8.code.WellFormed line) ↔
      ∀ entry ∈ reportedEntries config now
        (buffer.reverse.filter fun entry => entry.matchesUnit unit),
        CutsCleanly entry.message) := by
  have formed : ∀ entry ∈ buffer, Utf8.code.WellFormed entry.message :=
    fun entry member => (stored entry member).wellFormed
  have selected : ∀ test : JournalEntry → Bool, ∀ entry ∈ buffer.reverse.filter test,
      Utf8.code.WellFormed entry.message := by
    intro test entry member
    exact formed entry (List.mem_reverse.mp (List.mem_of_mem_filter member))
  refine ⟨?_, ?_, ?_⟩
  · exact lines_wellFormed_iff config now buffer formed
  · exact lines_wellFormed_iff config now _ (selected _)
  · exact lines_wellFormed_iff config now _ (selected _)

def accentedMessage : ByteString := List.replicate 511 0x61 ++ [0xC3, 0xA9]

def accentedEntry (message : ByteString) : JournalEntry :=
  { priority := 3, message, unit := "web".toUTF8.data.toList }

theorem accentedMessage_wellFormed : Utf8.code.WellFormed accentedMessage := by
  have letters : ∀ count, Utf8.code.WellFormed (List.replicate count 0x61) := by
    intro count
    induction count with
    | zero => exact SelfSync.Code.wellFormed_nil
    | succ count ih => exact (SelfSync.Code.wellFormed_encode 'a').append ih
  exact (letters 511).append (SelfSync.Code.wellFormed_encode 'é')

theorem trim_accentedMessage : trimLineEnds accentedMessage = accentedMessage := by
  have shape : accentedMessage = (List.replicate 511 0x61 ++ [0xC3]) ++ [0xA9] := by
    rw [accentedMessage, List.append_assoc]
    rfl
  rw [shape, trimLineEnds_snoc]
  exact if_neg (by decide)

theorem accentedMessage_cut : accentedMessage[512]? = some 0xA9 := by
  have letters : (List.replicate 511 (0x61 : UInt8)).length = 511 := List.length_replicate
  rw [accentedMessage, List.getElem?_append_right (by rw [letters]; decide), letters]
  rfl

theorem filterJournalEntries_single (entry : JournalEntry)
    (nonempty : excerptLine entry.message ≠ []) :
    filterJournalEntries {} 0 [entry] = [excerptLine entry.message] := by
  rw [filterJournalEntries_eq]
  simp [reportedEntries, isExcerpted, inWindow, maxLines, nonempty]

theorem journal_lines_wellFormed_short :
    recentErrorsOf {} 0 [accentedEntry [0xC3, 0xA9, 0x0A]] = [[0xC3, 0xA9]] ∧
      ∀ line ∈ recentErrorsOf {} 0 [accentedEntry [0xC3, 0xA9, 0x0A]],
        Utf8.code.WellFormed line := by
  have stored : ∀ entry ∈ [accentedEntry [0xC3, 0xA9, 0x0A]], Sanitized entry := by
    intro entry member
    rw [List.mem_singleton.mp member]
    exact ⟨[0xC3, 0xA9, 0x0A], by decide⟩
  refine ⟨by decide, ((journal_lines_wellFormed_iff {} 0 _ stored []).2.1).mpr ?_⟩
  intro entry reported
  have member := reportedEntries_subset {} 0 _ reported
  rw [List.mem_singleton.mp (List.mem_reverse.mp (List.mem_of_mem_filter member))]
  intro byte found
  cases found

theorem accented_message_cut_inside :
    Sanitized (accentedEntry accentedMessage) ∧
      filterJournalEntries {} 0 [accentedEntry accentedMessage] = [accentedMessage.take 512] ∧
      recentErrorsOf {} 0 [accentedEntry accentedMessage] = [accentedMessage.take 512] ∧
      excerptForUnitOf {} 0 [accentedEntry accentedMessage] "web".toUTF8.data.toList =
        [accentedMessage.take 512] ∧
      ¬Utf8.code.WellFormed (accentedMessage.take 512) := by
  have line : excerptLine (accentedEntry accentedMessage).message = accentedMessage.take 512 := by
    rw [accentedEntry, excerptLine_eq, trim_accentedMessage]
  have nonempty : accentedMessage.take 512 ≠ [] := by
    intro empty
    rcases List.take_eq_nil_iff.mp empty with zero | none
    · exact absurd zero (by decide)
    · exact absurd (List.append_eq_nil_iff.mp none).2 (by decide)
  have single : filterJournalEntries {} 0 [accentedEntry accentedMessage] =
      [accentedMessage.take 512] := by
    rw [filterJournalEntries_single _ (by rw [line]; exact nonempty), line]
  refine ⟨⟨_, sanitizeUtf8_of_wellFormed accentedMessage_wellFormed⟩, single, single, ?_, ?_⟩
  · have matched : (accentedEntry accentedMessage).matchesUnit "web".toUTF8.data.toList = true := by
      simp [JournalEntry.matchesUnit, accentedEntry]
    have kept : ([accentedEntry accentedMessage].reverse.filter fun entry =>
        entry.matchesUnit "web".toUTF8.data.toList) = [accentedEntry accentedMessage] :=
      List.filter_cons_of_pos matched
    rw [excerptForUnitOf, kept]
    exact single
  · rw [accentedMessage_wellFormed.take_iff accentedMessage_cut]
    exact (by decide : ¬(0xA9 : UInt8).IsUTF8FirstByte)

end EdgeHealthd
