import EdgeHealthd.JournalFieldsCore
import EdgeHealthd.JournalLines
import EdgeHealthd.JournalReader
import Mathlib.Data.Nat.Digits.Defs

/-!
The fields of one journal entry. Each of the three strippers drops the name only
from a longer text, so a value is recovered exactly when it is not empty; and
the priority is the number written exactly when that number is an `int`.
-/

namespace EdgeHealthd

def labelled (field : JournalField) (value : ByteString) : ByteString :=
  field.name ++ [61] ++ value

def fieldData (fields : JournalField → Option ByteString) (field : JournalField) :
    Option ByteString :=
  (fields field).map (labelled field)

def stripped (field : JournalField) (value : ByteString) : ByteString :=
  if value = [] then field.name ++ [61] else value

theorem stripped_eq_iff (field : JournalField) (value : ByteString) :
    stripped field value = value ↔ value ≠ [] := by
  unfold stripped
  split
  · rename_i empty
    simp [empty]
  · rename_i nonempty
    exact iff_of_true rfl nonempty

section Strippers

variable {cursor : JournalCursor} {value : ByteString}

theorem readField_labelled {field : JournalField}
    (found : cursor.getData field = some (labelled field value)) :
    readField cursor field = stripped field value := by
  simp only [readField, found, labelled]
  cases value with
  | nil => simp [stripped]
  | cons byte rest => simp [stripped]

-- The test of the two strippers that compare the whole label.
theorem label_test {label : ByteString} {size : Nat} (length : label.length = size) :
    ((label ++ value).length > size && (label ++ value).take size == label) = !value.isEmpty := by
  subst length
  rw [List.take_left, beq_self_eq_true, Bool.and_true, List.length_append]
  cases value with
  | nil => simp
  | cons byte rest => simp

theorem readPriority_labelled (found : cursor.getData .priority = some (labelled .priority value)) :
    readPriority cursor = atoi (stripped .priority value ++ cursor.beyond) := by
  have label : JournalField.priority.name ++ [61] = "PRIORITY=".toUTF8.data.toList := by decide
  have nine : "PRIORITY=".toUTF8.data.toList.length = 9 := by decide
  simp only [readPriority, found, labelled, stripped, label, label_test nine, List.drop_left' nine]
  cases value with
  | nil => simp
  | cons byte rest => simp

theorem readMessage_labelled (found : cursor.getData .message = some (labelled .message value)) :
    readMessage cursor = sanitizeUtf8 ((stripped .message value).take 1024) := by
  have label : JournalField.message.name ++ [61] = "MESSAGE=".toUTF8.data.toList := by decide
  have eight : "MESSAGE=".toUTF8.data.toList.length = 8 := by decide
  simp only [readMessage, found, labelled, stripped, label, label_test eight,
    List.drop_left' eight]
  cases value with
  | nil => simp
  | cons byte rest => simp

end Strippers

section Numbers

def decimalMagnitude (digits : ByteString) : Option Nat :=
  if !digits.isEmpty && digits.all isDigit then
    some (Nat.ofDigits 10 (digits.reverse.map fun byte => byte.toNat - 48))
  else none

theorem decimalMagnitude_eq_some {digits : ByteString} {magnitude : Nat}
    (written : decimalMagnitude digits = some magnitude) :
    digits ≠ [] ∧ (∀ byte ∈ digits, isDigit byte) ∧
      magnitude = Nat.ofDigits 10 (digits.reverse.map fun byte => byte.toNat - 48) := by
  unfold decimalMagnitude at written
  split at written
  · rename_i decimal
    cases written
    obtain ⟨nonempty, all⟩ := Bool.and_eq_true_iff.mp decimal
    refine ⟨?_, List.all_eq_true.mp all, rfl⟩
    rintro rfl
    cases nonempty
  · cases written

/-- The integer that a text writes in decimal, with at most a minus sign. -/
def decimalValue : ByteString → Option Int
  | 45 :: digits => (decimalMagnitude digits).map fun magnitude : Nat => -(magnitude : Int)
  | digits => (decimalMagnitude digits).map fun magnitude : Nat => (magnitude : Int)

def FitsInt (number : Int) : Prop := -2 ^ 31 ≤ number ∧ number < 2 ^ 31

theorem foldl_digits (digits : ByteString) :
    digits.foldl (fun value byte => value * 10 + (byte.toNat - 48)) 0 =
      Nat.ofDigits 10 (digits.reverse.map fun byte => byte.toNat - 48) := by
  induction digits using List.reverseRecOn with
  | nil => rfl
  | append_singleton digits byte ih =>
      rw [List.foldl_append, ih, List.reverse_append, List.reverse_singleton,
        List.singleton_append, List.map_cons, Nat.ofDigits_cons]
      simp only [List.foldl_cons, List.foldl_nil]
      omega

theorem takeWhile_digits {digits beyond : ByteString} (all : ∀ byte ∈ digits, isDigit byte)
    (stops : ∀ byte ∈ beyond.head?, isDigit byte = false) :
    (digits ++ beyond).takeWhile isDigit = digits := by
  rw [List.takeWhile_append_of_pos all]
  cases beyond with
  | nil => simp
  | cons byte rest => simp [stops byte rfl]

theorem isDigit_starts {byte : UInt8} (digit : isDigit byte = true) :
    isSpace byte = false ∧ byte ≠ 45 ∧ byte ≠ 43 := by
  simp only [isDigit, Bool.and_eq_true, decide_eq_true_eq, UInt8.le_iff_toNat_le,
    UInt8.reduceToNat] at digit
  simp only [isSpace, Bool.or_eq_false_iff, Bool.and_eq_false_iff, beq_eq_false_iff_ne,
    decide_eq_false_iff_not, ne_eq, ← UInt8.toNat_inj, UInt8.le_iff_toNat_le, UInt8.reduceToNat]
  omega

theorem signedMagnitude_unsigned {byte : UInt8} (rest : ByteString) (notMinus : byte ≠ 45)
    (notPlus : byte ≠ 43) : signedMagnitude (byte :: rest) = (false, byte :: rest) := by
  unfold signedMagnitude
  split
  · rename_i same
    cases same
    exact absurd rfl notMinus
  · rename_i same
    cases same
    exact absurd rfl notPlus
  · rfl

theorem strtol_decimal {value beyond : ByteString} {number : Int}
    (decimal : decimalValue value = some number)
    (stops : ∀ byte ∈ beyond.head?, isDigit byte = false) :
    strtol (value ++ beyond) = max (-2 ^ 63) (min (2 ^ 63 - 1) number) := by
  unfold decimalValue at decimal
  split at decimal
  · rename_i digits
    obtain ⟨magnitude, written, rfl⟩ := Option.map_eq_some_iff.mp decimal
    obtain ⟨_, all, rfl⟩ := decimalMagnitude_eq_some written
    have minus : isSpace 45 = false := by decide
    simp only [strtol, List.cons_append, List.dropWhile_cons, minus, signedMagnitude,
      Bool.false_eq_true, if_false, if_true, takeWhile_digits all stops, foldl_digits]
    omega
  · obtain ⟨magnitude, written, rfl⟩ := Option.map_eq_some_iff.mp decimal
    obtain ⟨nonempty, all, rfl⟩ := decimalMagnitude_eq_some written
    obtain ⟨byte, rest, rfl⟩ := List.exists_cons_of_ne_nil nonempty
    obtain ⟨visible, notMinus, notPlus⟩ := isDigit_starts (all byte List.mem_cons_self)
    have unsigned := signedMagnitude_unsigned (rest ++ beyond) notMinus notPlus
    have digits := takeWhile_digits all stops
    rw [List.cons_append] at digits
    simp only [strtol, List.cons_append, List.dropWhile_cons, visible, unsigned,
      Bool.false_eq_true, if_false, digits, foldl_digits]
    omega

theorem atoi_fitsInt (text : ByteString) : FitsInt (atoi text) :=
  ⟨Int32.le_toInt _, Int32.toInt_lt _⟩

theorem atoi_decimal_iff {value beyond : ByteString} {number : Int}
    (decimal : decimalValue value = some number)
    (stops : ∀ byte ∈ beyond.head?, isDigit byte = false) :
    atoi (value ++ beyond) = number ↔ FitsInt number := by
  constructor
  · intro same
    rw [← same]
    exact atoi_fitsInt _
  · rintro ⟨lower, upper⟩
    have clamped : max (-2 ^ 63) (min (2 ^ 63 - 1) number) = number := by omega
    rw [atoi, strtol_decimal decimal stops, clamped]
    exact Int32.toInt_ofInt_of_le lower upper

end Numbers

/-- The entry holds the values of its fields; a priority that is absent or
empty is the default. -/
structure Recovers (fields : JournalField → Option ByteString) (entry : JournalEntry) : Prop where
  unit : entry.unit = (fields .systemdUnit).getD []
  unitHint : entry.unitHint = (fields .unit).getD []
  syslogId : entry.syslogId = (fields .syslogIdentifier).getD []
  message : some entry.message = sanitizeUtf8 (((fields .message).getD []).take 1024)
  priority : ∀ value number, fields .priority = some value → decimalValue value = some number →
    entry.priority = number
  defaultPriority : (fields .priority).getD [] = [] → entry.priority = 6

section Recovery

variable {fields : JournalField → Option ByteString} {cursor : JournalCursor}

theorem getData_absent (served : cursor.getData = fieldData fields) {field : JournalField}
    (absent : fields field = none) : cursor.getData field = none := by
  rw [served, fieldData, absent, Option.map_none]

theorem getData_present (served : cursor.getData = fieldData fields) {field : JournalField}
    {value : ByteString} (present : fields field = some value) :
    cursor.getData field = some (labelled field value) := by
  rw [served, fieldData, present, Option.map_some]

theorem readField_recovers_iff (served : cursor.getData = fieldData fields)
    (field : JournalField) :
    readField cursor field = (fields field).getD [] ↔ fields field ≠ some [] := by
  cases present : fields field with
  | none =>
      simp [readField, getData_absent served present]
  | some value =>
      rw [readField_labelled (getData_present served present), Option.getD_some, stripped_eq_iff,
        ne_eq, ne_eq, Option.some.injEq]

theorem readMessage_recovers_iff (served : cursor.getData = fieldData fields) :
    readMessage cursor = sanitizeUtf8 (((fields .message).getD []).take 1024) ↔
      fields .message ≠ some [] := by
  cases present : fields .message with
  | none =>
      refine iff_of_true ?_ (by simp)
      simp only [readMessage, getData_absent served present]
      rfl
  | some value =>
      rw [readMessage_labelled (getData_present served present), Option.getD_some]
      by_cases empty : value = []
      · subst empty
        exact iff_of_false (by decide) (by simp)
      · rw [(stripped_eq_iff .message value).mpr empty]
        exact iff_of_true rfl (by simpa using empty)

def PriorityFits (fields : JournalField → Option ByteString) : Prop :=
  ∀ value number, fields .priority = some value → decimalValue value = some number →
    FitsInt number

theorem readPriority_decimal_iff (served : cursor.getData = fieldData fields)
    (stops : ∀ byte ∈ cursor.beyond.head?, isDigit byte = false) :
    (∀ value number, fields .priority = some value → decimalValue value = some number →
      readPriority cursor = number) ↔ PriorityFits fields := by
  refine forall₄_congr fun value number present decimal => ?_
  have nonempty : value ≠ [] := by
    rintro rfl
    cases decimal
  rw [readPriority_labelled (getData_present served present),
    (stripped_eq_iff .priority value).mpr nonempty]
  exact atoi_decimal_iff decimal stops

theorem readPriority_default_iff (served : cursor.getData = fieldData fields) :
    ((fields .priority).getD [] = [] → readPriority cursor = 6) ↔ fields .priority ≠ some [] := by
  cases present : fields .priority with
  | none =>
      refine iff_of_true (fun _ => ?_) (by simp)
      simp only [readPriority, getData_absent served present]
  | some value =>
      rw [readPriority_labelled (getData_present served present)]
      by_cases empty : value = []
      · subst empty
        have zero : atoi (stripped .priority [] ++ cursor.beyond) = 0 := rfl
        simp [zero]
      · simp [empty]

theorem readMessage_sanitizes (cursor : JournalCursor) :
    ∃ raw message, readMessage cursor = some message ∧ sanitizeUtf8 raw = some message := by
  have source : ∃ raw, readMessage cursor = sanitizeUtf8 raw := by
    unfold readMessage
    split
    · exact ⟨[], rfl⟩
    · split
      · exact ⟨_, rfl⟩
      · exact ⟨_, rfl⟩
  obtain ⟨raw, read⟩ := source
  obtain ⟨message, sanitized, _⟩ := sanitizeUtf8_repairs raw
  exact ⟨raw, message, read.trans sanitized, sanitized⟩

theorem readCurrent_of_message {message : ByteString} (read : readMessage cursor = some message) :
    readCurrent cursor = some {
      realtimeUsec := cursor.realtime.getD 0
      priority := readPriority cursor
      message
      unit := readField cursor .systemdUnit
      unitHint := readField cursor .unit
      syslogId := readField cursor .syslogIdentifier } := by
  rw [readCurrent, read]
  rfl

theorem readCurrent_sanitized (cursor : JournalCursor) :
    ∃ entry, readCurrent cursor = some entry ∧ Sanitized entry := by
  obtain ⟨raw, message, read, sanitized⟩ := readMessage_sanitizes cursor
  exact ⟨_, readCurrent_of_message read, raw, sanitized⟩

theorem JournalReader.buffer_sanitized {Journal : Type} (api : JournalApi Journal)
    (cursorAt : Journal → JournalCursor)
    (reads : ∀ journal, readCurrent (cursorAt journal) = some (api.readCurrent journal).1)
    (config : Config) (fuel : Nat) (journal : Journal) {calls : List ReaderCall}
    {final : JournalReader × Journal}
    (run : Machine.follow (callStep api config fuel) ({}, journal) calls = some final) :
    ∀ entry ∈ final.1.buffer, Sanitized entry := by
  refine buffer_entries ?_ config fuel journal run
  intro current
  obtain ⟨entry, read, sanitized⟩ := readCurrent_sanitized (cursorAt current)
  obtain rfl := Option.some.inj (read.symm.trans (reads current))
  exact sanitized

/-- Reading an entry recovers its fields exactly when none of them is empty and
a decimal priority is an `int`. The journal file has padding or the kind of the
next object behind a field, neither of which is a digit. -/
theorem readCurrent_recovers_iff (fields : JournalField → Option ByteString)
    (realtime : Option UInt64) (beyond : ByteString)
    (stops : ∀ byte ∈ beyond.head?, isDigit byte = false) :
    ∃ entry, readCurrent ⟨realtime, fieldData fields, beyond⟩ = some entry ∧
      (Recovers fields entry ↔ (∀ field, fields field ≠ some []) ∧ PriorityFits fields) := by
  let cursor : JournalCursor := ⟨realtime, fieldData fields, beyond⟩
  have served : cursor.getData = fieldData fields := rfl
  obtain ⟨_, message, read, _⟩ := readMessage_sanitizes cursor
  have messageIff := readMessage_recovers_iff served
  rw [read] at messageIff
  have decimalIff := readPriority_decimal_iff served stops
  have defaultIff := readPriority_default_iff served
  refine ⟨_, readCurrent_of_message read, ?_⟩
  constructor
  · intro recovered
    refine ⟨?_, decimalIff.mp recovered.priority⟩
    intro field
    cases field with
    | priority => exact defaultIff.mp recovered.defaultPriority
    | message => exact messageIff.mp recovered.message
    | systemdUnit => exact (readField_recovers_iff served .systemdUnit).mp recovered.unit
    | unit => exact (readField_recovers_iff served .unit).mp recovered.unitHint
    | syslogIdentifier =>
        exact (readField_recovers_iff served .syslogIdentifier).mp recovered.syslogId
  · rintro ⟨nonempty, fits⟩
    exact {
      unit := (readField_recovers_iff served .systemdUnit).mpr (nonempty .systemdUnit)
      unitHint := (readField_recovers_iff served .unit).mpr (nonempty .unit)
      syslogId := (readField_recovers_iff served .syslogIdentifier).mpr (nonempty .syslogIdentifier)
      message := messageIff.mpr (nonempty .message)
      priority := decimalIff.mpr fits
      defaultPriority := defaultIff.mpr (nonempty .priority) }

end Recovery

def errorFields (message : ByteString) : JournalField → Option ByteString
  | .priority => some "3".toUTF8.data.toList
  | .message => some message
  | .systemdUnit => some "web.service".toUTF8.data.toList
  | .unit => none
  | .syslogIdentifier => some "web".toUTF8.data.toList

theorem readCurrent_recovers_error :
    ∃ entry, readCurrent ⟨some 7, fieldData (errorFields [0x61]), [0]⟩ = some entry ∧
      Recovers (errorFields [0x61]) entry := by
  obtain ⟨entry, read, recoversIff⟩ :=
    readCurrent_recovers_iff (errorFields [0x61]) (some 7) [0] (by rintro _ ⟨⟩; rfl)
  refine ⟨entry, read, recoversIff.mpr ⟨?_, ?_⟩⟩
  · intro field
    cases field <;> decide
  · intro value number present decimal
    cases present
    have three : decimalValue "3".toUTF8.data.toList = some 3 := by decide
    obtain rfl := Option.some.inj (three.symm.trans decimal)
    exact ⟨by decide, by decide⟩

def emptyFields (_ : JournalField) : Option ByteString := some []

theorem empty_value_leaks_name :
    ∃ entry, readCurrent ⟨some 7, fieldData emptyFields, [0]⟩ = some entry ∧
      entry.message = "MESSAGE=".toUTF8.data.toList ∧ entry.priority = 0 ∧
      entry.unit = "_SYSTEMD_UNIT=".toUTF8.data.toList ∧ ¬Recovers emptyFields entry := by
  refine ⟨⟨7, 0, "MESSAGE=".toUTF8.data.toList, "_SYSTEMD_UNIT=".toUTF8.data.toList,
    "UNIT=".toUTF8.data.toList, "SYSLOG_IDENTIFIER=".toUTF8.data.toList⟩, by decide, rfl, rfl, rfl,
    ?_⟩
  intro recovered
  exact absurd (recovered.defaultPriority rfl) (by decide)

end EdgeHealthd
