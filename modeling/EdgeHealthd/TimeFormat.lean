import EdgeHealthd.Library.Decimal
import EdgeHealthd.TimeFormatCore
import Mathlib.Data.List.TakeWhile

/-!
Timestamps out and in. The texts that `strptime` accepts are described by a grammar;
`format_time` writes a text of that grammar which denotes its instant, and
`parse_time` returns every instant that the grammar denotes, existing date or not.
-/

namespace EdgeHealthd

open Decimal (push ofBytes)

/-- The texts that a numeric directive takes. -/
structure IsNumber (blanks : Blanks) (low high width : Nat) (text : ByteString) (value : Nat) :
    Prop where
  written : ∃ skipped digits, text = skipped ++ digits ∧
    (∀ byte ∈ skipped, blanks.skips byte = true) ∧ Decimal.IsNumeral width digits value
  low_le : low ≤ value
  le_high : value ≤ high

inductive Matches (blanks : Blanks) : List Directive → ByteString → List Nat → Prop
  | nil : Matches blanks [] [] []
  | literal (byte : UInt8) {format : List Directive} {text : ByteString} {values : List Nat}
      (rest : Matches blanks format text values) :
      Matches blanks (.literal byte :: format) (byte :: text) values
  | number {low high width value : Nat} {format : List Directive} {read text : ByteString}
      {values : List Nat} (number : IsNumber blanks low high width read value)
      (rest : Matches blanks format text values) :
      Matches blanks (.number low high width :: format) (read ++ text) (value :: values)

/-- Every number has a width, and behind it stands a literal that is no digit. -/
def isSeparated : List Directive → Bool
  | [] => true
  | .literal _ :: format => isSeparated format
  | .number _ _ width :: .literal byte :: format =>
      0 < width && !isDigit byte && isSeparated format
  | .number _ _ _ :: _ => false

section Numbers

theorem isDigit_iff {byte : UInt8} : isDigit byte = true ↔ Decimal.IsDigit byte := by
  simp [isDigit, Decimal.IsDigit]

theorem moreDigits_reads {high count value result : Nat} {text rest : ByteString}
    (read : moreDigits high count value text = (result, rest)) :
    ∃ digits, text = digits ++ rest ∧ digits.length ≤ count ∧
      (∀ byte ∈ digits, isDigit byte = true) ∧
      digits.foldl push value = result := by
  induction count, value, text using moreDigits.induct high with
  | case1 value text =>
      cases read
      exact ⟨[], rfl, Nat.le_refl 0, by simp, rfl⟩
  | case2 count value =>
      cases read
      exact ⟨[], rfl, Nat.zero_le _, by simp, rfl⟩
  | case3 count value byte text continues ih =>
      rw [moreDigits, if_pos continues] at read
      obtain ⟨digits, same, short, all, total⟩ := ih read
      refine ⟨byte :: digits, by rw [same, List.cons_append], Nat.succ_le_succ short, ?_, total⟩
      intro other member
      rcases List.mem_cons.mp member with rfl | later
      · exact (Bool.and_eq_true_iff.mp continues).2
      · exact all other later
  | case4 count value byte text stops =>
      rw [moreDigits, if_neg stops] at read
      cases read
      exact ⟨[], rfl, Nat.zero_le _, by simp, rfl⟩

theorem moreDigits_stops {high value : Nat} {rest : ByteString} (count : Nat)
    (ends : ∀ byte ∈ rest.head?, isDigit byte = false) :
    moreDigits high count value rest = (value, rest) := by
  cases count with
  | zero => rfl
  | succ count =>
      cases rest with
      | nil => rfl
      | cons byte rest =>
          rw [moreDigits, ends byte rfl, Bool.and_false, if_neg (by decide)]

theorem moreDigits_all {high : Nat} {digits rest : ByteString}
    (all : ∀ byte ∈ digits, isDigit byte = true)
    (ends : ∀ byte ∈ rest.head?, isDigit byte = false) (count value : Nat)
    (short : digits.length ≤ count)
    (small : digits.foldl push value ≤ high) :
    moreDigits high count value (digits ++ rest) =
      (digits.foldl push value, rest) := by
  induction digits generalizing count value with
  | nil => exact moreDigits_stops count ends
  | cons byte digits ih =>
      obtain ⟨count, rfl⟩ : ∃ fewer, count = fewer + 1 := by
        rw [List.length_cons] at short
        exact ⟨count - 1, by omega⟩
      have total := Decimal.le_foldl_push digits (push value byte)
      have larger : value * 10 ≤ push value byte := Nat.le_add_right _ _
      rw [List.foldl_cons] at small
      rw [List.cons_append, moreDigits, all byte List.mem_cons_self, Bool.and_true,
        if_pos (decide_eq_true (by omega)), List.foldl_cons]
      exact ih (fun other member => all other (List.mem_cons_of_mem _ member)) count _
        (Nat.le_of_succ_le_succ short) small

variable {blanks : Blanks} {low high width value : Nat}

theorem getNumber_reads {text rest : ByteString} (positive : 0 < width)
    (got : getNumber blanks low high width text = some (value, rest)) :
    ∃ read, text = read ++ rest ∧ IsNumber blanks low high width read value := by
  unfold getNumber at got
  split at got
  · cases got
  · rename_i byte more skipped
    split at got
    · rename_i digit
      obtain ⟨result, left, read⟩ : ∃ result left,
          moreDigits high (width - 1) (digitValue byte) more = (result, left) := ⟨_, _, rfl⟩
      rw [read] at got
      dsimp only at got
      split at got
      · rename_i range
        cases got
        obtain ⟨digits, same, short, all, total⟩ := moreDigits_reads read
        obtain ⟨lower, upper⟩ := Bool.and_eq_true_iff.mp range
        refine ⟨text.takeWhile blanks.skips ++ byte :: digits, ?_,
          ⟨text.takeWhile blanks.skips, byte :: digits, rfl, ?_, ?_, List.cons_ne_nil _ _, ?_, ?_⟩,
          of_decide_eq_true lower, of_decide_eq_true upper⟩
        · rw [List.append_assoc, List.cons_append, ← same, ← skipped,
            List.takeWhile_append_dropWhile]
        · intro other member
          exact List.mem_takeWhile_imp member
        · intro other member
          rcases List.mem_cons.mp member with rfl | later
          · exact isDigit_iff.mp digit
          · exact isDigit_iff.mp (all other later)
        · rw [List.length_cons]
          omega
        · rw [← total, ofBytes, List.foldl_cons, push, Nat.zero_mul, Nat.zero_add]
          rfl
      · cases got
    · cases got

theorem getNumber_eq {read rest : ByteString} (number : IsNumber blanks low high width read value)
    (ends : ∀ byte ∈ rest.head?, isDigit byte = false) :
    getNumber blanks low high width (read ++ rest) = some (value, rest) := by
  obtain ⟨⟨skipped, digits, rfl, skips, all, nonempty, short, total⟩, lower, upper⟩ := number
  obtain ⟨byte, digits, rfl⟩ := List.exists_cons_of_ne_nil nonempty
  have digit := isDigit_iff.mpr (all byte List.mem_cons_self)
  have stops : (skipped ++ byte :: digits ++ rest).dropWhile blanks.skips =
      byte :: (digits ++ rest) := by
    rw [List.append_assoc, List.dropWhile_append_of_pos skips, List.cons_append,
      List.dropWhile_cons_of_neg (by simp [blanks.noDigit byte digit])]
  have start : push 0 byte = digitValue byte := by
    rw [push, Nat.zero_mul, Nat.zero_add]
    rfl
  rw [ofBytes, List.foldl_cons, start] at total
  rw [List.length_cons] at short
  have reads := @moreDigits_all high digits rest
    (fun other member => isDigit_iff.mpr (all other (List.mem_cons_of_mem _ member))) ends
    (width - 1) (digitValue byte) (by omega) (by omega)
  rw [getNumber, stops]
  dsimp only
  rw [if_pos digit, reads, total]
  dsimp only
  rw [if_pos (by simp [lower, upper])]

end Numbers

section Grammar

variable {blanks : Blanks}

theorem strptime_literal {byte : UInt8} {format : List Directive} {text : ByteString}
    {values : List Nat} {rest : ByteString}
    (got : strptime blanks (.literal byte :: format) text = some (values, rest)) :
    ∃ after, text = byte :: after ∧ strptime blanks format after = some (values, rest) := by
  cases text with
  | nil => cases got
  | cons found after =>
      rw [strptime] at got
      split at got
      · rename_i same
        exact ⟨after, by rw [beq_iff_eq.mp same], got⟩
      · cases got

theorem strptime_number {low high width : Nat} {format : List Directive} {text : ByteString}
    {values : List Nat} {rest : ByteString}
    (got : strptime blanks (.number low high width :: format) text = some (values, rest)) :
    ∃ value after later, getNumber blanks low high width text = some (value, after) ∧
      strptime blanks format after = some (later, rest) ∧ values = value :: later := by
  rw [strptime] at got
  split at got
  · cases got
  · rename_i value after number
    obtain ⟨⟨later, left⟩, behind, same⟩ := Option.map_eq_some_iff.mp got
    cases same
    exact ⟨value, after, later, number, behind, rfl⟩

theorem Matches.of_strptime {format : List Directive} (separated : isSeparated format = true)
    {text : ByteString} {values : List Nat}
    (got : strptime blanks format text = some (values, [])) :
    Matches blanks format text values := by
  induction format using isSeparated.induct generalizing text values with
  | case1 =>
      cases got
      exact Matches.nil
  | case2 byte format ih =>
      obtain ⟨after, rfl, behind⟩ := strptime_literal got
      exact Matches.literal byte (ih separated behind)
  | case3 low high width byte format ih =>
      rw [isSeparated, Bool.and_eq_true, Bool.and_eq_true, decide_eq_true_eq] at separated
      obtain ⟨value, after, later, number, behind, rfl⟩ := strptime_number got
      obtain ⟨read, rfl, isNumber⟩ := getNumber_reads separated.1.1 number
      obtain ⟨text, rfl, tail⟩ := strptime_literal behind
      exact Matches.number isNumber (Matches.literal byte (ih separated.2 tail))
  | case4 low high width format other =>
      cases format with
      | nil => cases separated
      | cons directive format =>
          cases directive with
          | literal byte => exact absurd rfl (other byte format)
          | number low high width => cases separated

theorem Matches.strptime_eq {format : List Directive} (separated : isSeparated format = true)
    {text : ByteString} {values : List Nat} (written : Matches blanks format text values) :
    strptime blanks format text = some (values, []) := by
  induction written with
  | nil => rfl
  | @literal byte format text values _ ih =>
      rw [strptime, if_pos BEq.rfl]
      exact ih separated
  | @number low high width value format read text values number rest ih =>
      cases rest with
      | nil => cases separated
      | @literal byte format text values rest =>
          rw [isSeparated, Bool.and_eq_true, Bool.and_eq_true, Bool.not_eq_true'] at separated
          rw [strptime, getNumber_eq number (by rintro found ⟨⟩; exact separated.1.2)]
          dsimp only
          rw [ih separated.2]
          rfl
      | number _ _ => cases separated

theorem Matches.noNul {format : List Directive} {text : ByteString} {values : List Nat}
    (written : Matches blanks format text values) (visible : .literal 0 ∉ format) :
    ∀ byte ∈ text, (byte != 0) = true := by
  induction written with
  | nil => simp
  | @literal byte format text values _ ih =>
      rw [List.mem_cons, not_or] at visible
      intro other member
      rcases List.mem_cons.mp member with rfl | later
      · rw [bne_iff_ne]
        rintro rfl
        exact visible.1 rfl
      · exact ih visible.2 other later
  | @number low high width value format read text values number _ ih =>
      rw [List.mem_cons, not_or] at visible
      obtain ⟨skipped, digits, rfl, skips, numeral⟩ := number.written
      intro other member
      rw [List.mem_append, List.mem_append] at member
      rw [bne_iff_ne]
      rintro rfl
      rcases member with (blank | digit) | later
      · exact absurd (skips 0 blank) (by simp [blanks.noNul])
      · exact absurd (numeral.isDigit 0 digit) (by unfold Decimal.IsDigit; decide)
      · exact absurd (ih visible.2 0 later) (by decide)

theorem strptime_iff {format : List Directive} (separated : isSeparated format = true)
    {text : ByteString} {values : List Nat} :
    strptime blanks format text = some (values, []) ↔ Matches blanks format text values :=
  ⟨Matches.of_strptime separated, Matches.strptime_eq separated⟩

/-- The fields that a text spells, read up to its first NUL. -/
def Spells (blanks : Blanks) (text : ByteString) (tm : Tm) : Prop :=
  ∃ values, Matches blanks timestampFormat (text.takeWhile (· != 0)) values ∧
    Tm.ofValues values = some tm

theorem timestampFormat_isSeparated : isSeparated timestampFormat = true := by decide

theorem Spells.unique {text : ByteString} {tm other : Tm} (spelled : Spells blanks text tm)
    (otherSpelled : Spells blanks text other) : tm = other := by
  obtain ⟨values, written, fields⟩ := spelled
  obtain ⟨others, otherWritten, otherFields⟩ := otherSpelled
  have same := (written.strptime_eq timestampFormat_isSeparated).symm.trans
    (otherWritten.strptime_eq timestampFormat_isSeparated)
  cases same
  exact Option.some.inj (fields.symm.trans otherFields)

theorem parseTime_eq_some {text : ByteString} {time : WallTime} :
    parseTime blanks text = some time ↔
      ∃ tm, Spells blanks text tm ∧ timegm tm ≠ -1 ∧ fromTimeT (timegm tm) = time := by
  constructor
  · intro parsed
    unfold parseTime at parsed
    split at parsed
    · rename_i values read
      split at parsed
      · rename_i tm fields
        split at parsed
        · cases parsed
        · rename_i valid
          exact ⟨tm, ⟨values, (strptime_iff timestampFormat_isSeparated).mp read, fields⟩, valid,
            Option.some.inj parsed⟩
      · cases parsed
    · cases parsed
    · cases parsed
  · rintro ⟨tm, ⟨values, written, fields⟩, valid, rfl⟩
    rw [parseTime, written.strptime_eq timestampFormat_isSeparated]
    dsimp only
    rw [fields]
    dsimp only
    rw [if_neg valid]

end Grammar

section Instants

/-- A date of the calendar and a time of its day, without leap seconds. -/
structure Tm.IsTime (tm : Tm) : Prop where
  date : Calendar.IsDate tm.year tm.month tm.day
  hour_le : tm.hour ≤ 23
  minute_le : tm.minute ≤ 59
  second_le : tm.second ≤ 59

theorem civilFromDays_eq (days : Int) : civilFromDays days = Calendar.dateOfDay days := rfl

theorem gmtime_isTime (time : Int) : (gmtime time).IsTime where
  date := Calendar.isDate_dateOfDay (time / 86400)
  hour_le := by
    show (time % 86400).toNat / 3600 ≤ 23
    omega
  minute_le := by
    show (time % 86400).toNat / 60 % 60 ≤ 59
    omega
  second_le := by
    show (time % 86400).toNat % 60 ≤ 59
    omega

theorem timegm_gmtime (time : Int) : timegm (gmtime time) = time := by
  have day := Calendar.dayNumber_dateOfDay (time / 86400)
  show Calendar.dayNumber (Calendar.dateOfDay (time / 86400)).1
      (Calendar.dateOfDay (time / 86400)).2.1 (Calendar.dateOfDay (time / 86400)).2.2 * 86400 +
    ((time % 86400).toNat / 3600 : Nat) * 3600 + ((time % 86400).toNat / 60 % 60 : Nat) * 60 +
    ((time % 86400).toNat % 60 : Nat) = time
  rw [day]
  omega

theorem gmtime_timegm {tm : Tm} (valid : tm.IsTime) : gmtime (timegm tm) = tm := by
  obtain ⟨year, month, day, hour, minute, second⟩ := tm
  obtain ⟨date, hours, minutes, seconds⟩ := valid
  dsimp only at date hours minutes seconds
  have time : timegm ⟨year, month, day, hour, minute, second⟩ =
      Calendar.dayNumber year month day * 86400 + (hour * 3600 + minute * 60 + second : Nat) := by
    rw [timegm]
    push_cast
    omega
  have days : timegm ⟨year, month, day, hour, minute, second⟩ / 86400 =
      Calendar.dayNumber year month day := by omega
  have rest : (timegm ⟨year, month, day, hour, minute, second⟩ % 86400).toNat =
      hour * 3600 + minute * 60 + second := by omega
  have same := (Calendar.isDate_dateOfDay _).unique date (Calendar.dayNumber_dateOfDay _)
  obtain ⟨sameYear, sameMonth, sameDay⟩ := same
  simp only [gmtime, civilFromDays_eq, days, rest, Tm.mk.injEq]
  exact ⟨sameYear, sameMonth, sameDay, by omega, by omega, by omega⟩

/-- The instants that the 64-bit nanoseconds of `system_clock` hold. -/
def IsClockTime (time : Int) : Prop := -2 ^ 63 ≤ time ∧ time < 2 ^ 63

theorem fromTimeT_eq {time : Int} (fits : IsClockTime (seconds time)) :
    fromTimeT time = seconds time := by
  obtain ⟨lower, upper⟩ := fits
  unfold seconds at lower upper
  unfold fromTimeT
  exact Int.bmod_eq_of_le (by omega) (by omega)

theorem gmtime_year_bounds {time : Int} (fits : IsClockTime (seconds time)) :
    1000 ≤ (gmtime time).year ∧ (gmtime time).year < 10000 := by
  have era := Calendar.dateOfDay_year_bounds (time / 86400)
  obtain ⟨lower, upper⟩ := fits
  unfold seconds at lower upper
  show 1000 ≤ (Calendar.dateOfDay (time / 86400)).1 ∧ (Calendar.dateOfDay (time / 86400)).1 < 10000
  omega

end Instants

section Texts

open Decimal (utf8Bytes)

variable {blanks : Blanks}

def putTime (tm : Tm) : String :=
  toString tm.year ++ "-" ++ twoDigits tm.month ++ "-" ++ twoDigits tm.day ++ "T" ++
    twoDigits tm.hour ++ ":" ++ twoDigits tm.minute ++ ":" ++ twoDigits tm.second ++ "Z"

theorem formatTime_eq (time : WallTime) :
    formatTime time = putTime (gmtime (time.tdiv 1000000000)) := rfl

theorem formatTime_seconds (time : Int) : formatTime (seconds time) = putTime (gmtime time) := by
  rw [formatTime_eq, seconds, Int.mul_tdiv_cancel _ (by decide)]

theorem isNumeral_twoDigits {number : Nat} (bound : number < 100) :
    Decimal.IsNumeral 2 (utf8Bytes (twoDigits number)) number := by
  rw [twoDigits]
  split
  · rename_i small
    rw [Decimal.utf8Bytes_append]
    exact Decimal.isNumeral_zero small
  · exact Decimal.isNumeral_repr (by decide) bound

theorem IsNumber.of_numeral {low high width value : Nat} {digits : ByteString}
    (numeral : Decimal.IsNumeral width digits value) (lower : low ≤ value) (upper : value ≤ high) :
    IsNumber blanks low high width digits value :=
  ⟨⟨[], digits, rfl, by simp, numeral⟩, lower, upper⟩

theorem utf8Bytes_putTime (year month day hour minute second : Nat) :
    utf8Bytes (putTime ⟨year, month, day, hour, minute, second⟩) =
      utf8Bytes (Nat.repr year) ++ 45 :: (utf8Bytes (twoDigits month) ++
        45 :: (utf8Bytes (twoDigits day) ++ 84 :: (utf8Bytes (twoDigits hour) ++
          58 :: (utf8Bytes (twoDigits minute) ++ 58 :: (utf8Bytes (twoDigits second) ++ [90]))))) := by
  have dash : utf8Bytes "-" = [45] := by decide
  have letter : utf8Bytes "T" = [84] := by decide
  have colon : utf8Bytes ":" = [58] := by decide
  have zone : utf8Bytes "Z" = [90] := by decide
  have number : toString (year : Int) = Nat.repr year := rfl
  simp only [putTime, number, Decimal.utf8Bytes_append, dash, letter, colon, zone,
    List.append_assoc, List.cons_append, List.nil_append]

theorem spells_putTime {tm : Tm} (valid : tm.IsTime) (lower : 1000 ≤ tm.year)
    (upper : tm.year < 10000) : Spells blanks (utf8Bytes (putTime tm)) tm := by
  obtain ⟨year, month, day, hour, minute, second⟩ := tm
  obtain ⟨date, hours, minutes, seconds⟩ := valid
  dsimp only at date hours minutes seconds lower upper
  obtain ⟨year, rfl⟩ := Int.eq_ofNat_of_zero_le (show 0 ≤ year by omega)
  have months := date.month_le
  have days := date.day_le_31
  have written : Matches blanks timestampFormat
      (utf8Bytes (putTime ⟨year, month, day, hour, minute, second⟩))
      [year, month, day, hour, minute, second] := by
    rw [utf8Bytes_putTime]
    refine .number (.of_numeral (Decimal.isNumeral_repr (by decide) (by omega)) (by omega)
      (by omega)) (.literal 45 ?_)
    refine .number (.of_numeral (isNumeral_twoDigits (by omega)) date.month_pos months)
      (.literal 45 ?_)
    refine .number (.of_numeral (isNumeral_twoDigits (by omega)) date.day_pos days)
      (.literal 84 ?_)
    refine .number (.of_numeral (isNumeral_twoDigits (by omega)) (Nat.zero_le _) hours)
      (.literal 58 ?_)
    refine .number (.of_numeral (isNumeral_twoDigits (by omega)) (Nat.zero_le _) minutes)
      (.literal 58 ?_)
    exact .number (.of_numeral (isNumeral_twoDigits (by omega)) (Nat.zero_le _) (by omega))
      (.literal 90 .nil)
  have whole := List.takeWhile_eq_self_iff.mpr (written.noNul (by decide))
  refine ⟨[year, month, day, hour, minute, second], ?_, rfl⟩
  rw [whole]
  exact written

end Texts

section RoundTrip

open Decimal (utf8Bytes)

theorem spells_gmtime (blanks : Blanks) {time : Int} (fits : IsClockTime (seconds time)) :
    Spells blanks (utf8Bytes (putTime (gmtime time))) (gmtime time) := by
  obtain ⟨lower, upper⟩ := gmtime_year_bounds fits
  exact spells_putTime (gmtime_isTime time) lower upper

theorem parseTime_putTime (blanks : Blanks) {time : Int} (fits : IsClockTime (seconds time))
    (valid : time ≠ -1) :
    parseTime blanks (utf8Bytes (putTime (gmtime time))) = some (seconds time) := by
  rw [parseTime_eq_some]
  refine ⟨gmtime time, spells_gmtime blanks fits, ?_, ?_⟩
  · rw [timegm_gmtime]
    exact valid
  · rw [timegm_gmtime]
    exact fromTimeT_eq fits

/-- A time from the epoch on comes back in whole seconds. -/
theorem parseTime_formatTime (blanks : Blanks) (time : Int) (sinceEpoch : 0 ≤ time)
    (fits : time ≤ 2 ^ 63 - 1) :
    parseTime blanks (utf8Bytes (formatTime time)) = some (seconds (time / 1000000000)) := by
  have whole : time.tdiv 1000000000 = time / 1000000000 := Int.tdiv_eq_ediv_of_nonneg sinceEpoch
  have lower : 0 ≤ time / 1000000000 := Int.ediv_nonneg sinceEpoch (by decide)
  have upper : time / 1000000000 * 1000000000 ≤ time := Int.ediv_mul_le time (by decide)
  rw [formatTime_eq, whole]
  refine parseTime_putTime blanks ⟨?_, ?_⟩ (by omega)
  · unfold seconds
    omega
  · unfold seconds
    omega

def asciiSpaces : Blanks where
  skips byte := byte == 32 || 9 ≤ byte && byte ≤ 13
  noDigit byte digit := by
    obtain ⟨lower, _⟩ := isDigit_iff.mp digit
    have large : ¬byte ≤ 13 := fun small => absurd (UInt8.le_trans lower small) (by decide)
    have other : byte ≠ 32 := by
      rintro rfl
      exact absurd lower (by decide)
    simp [large, other]
  noNul := by decide

theorem parseTime_formatTime_installed :
    (0 : Int) ≤ 1772529579123456789 ∧ (1772529579123456789 : Int) ≤ 2 ^ 63 - 1 ∧
      parseTime asciiSpaces (utf8Bytes (formatTime 1772529579123456789)) =
        some (seconds 1772529579) :=
  ⟨by decide, by decide, parseTime_formatTime asciiSpaces 1772529579123456789 (by decide) (by decide)⟩

end RoundTrip

section Exactness

open Decimal (utf8Bytes)

variable {blanks : Blanks}

/-- The text is parsed to the instant whose format it is, and not at all if there is none. -/
def ParsesExactly (blanks : Blanks) (text : ByteString) : Prop :=
  ∀ time, parseTime blanks text = some time ↔
    (∃ count, time = seconds count ∧ IsClockTime (seconds count)) ∧
      utf8Bytes (formatTime time) = text

theorem Matches.field {low high width : Nat} {byte : UInt8} {format : List Directive}
    {text : ByteString} {values : List Nat}
    (written : Matches blanks (.number low high width :: .literal byte :: format) text values) :
    ∃ value later after, values = value :: later ∧ low ≤ value ∧ value ≤ high ∧
      Matches blanks format after later := by
  cases written with
  | number number rest =>
      cases rest with
      | literal _ rest => exact ⟨_, _, _, rfl, number.low_le, number.le_high, rest⟩

theorem Spells.ranges {text : ByteString} {tm : Tm} (spelled : Spells blanks text tm) :
    (1 ≤ tm.month ∧ tm.month ≤ 12) ∧ (1 ≤ tm.day ∧ tm.day ≤ 31) ∧ tm.hour ≤ 23 ∧
      tm.minute ≤ 59 ∧ tm.second ≤ 61 := by
  obtain ⟨values, written, fields⟩ := spelled
  obtain ⟨year, _, _, rfl, _, _, written⟩ := written.field
  obtain ⟨month, _, _, rfl, monthLow, monthHigh, written⟩ := written.field
  obtain ⟨day, _, _, rfl, dayLow, dayHigh, written⟩ := written.field
  obtain ⟨hour, _, _, rfl, _, hourHigh, written⟩ := written.field
  obtain ⟨minute, _, _, rfl, _, minuteHigh, written⟩ := written.field
  obtain ⟨second, _, _, rfl, _, secondHigh, written⟩ := written.field
  cases written
  cases fields
  exact ⟨⟨monthLow, monthHigh⟩, ⟨dayLow, dayHigh⟩, hourHigh, minuteHigh, secondHigh⟩

def beforeEpoch : Tm := ⟨1969, 12, 31, 23, 59, 59⟩

/-- No other fields that a text can spell denote that second: a day behind the end of its
month and a leap second are not far enough. -/
theorem Spells.timegm_eq_neg_one {text : ByteString} {tm : Tm} (spelled : Spells blanks text tm) :
    timegm tm = -1 ↔ tm = beforeEpoch := by
  constructor
  · intro error
    obtain ⟨⟨monthLow, monthHigh⟩, ⟨dayLow, dayHigh⟩, hours, minutes, seconds⟩ := spelled.ranges
    obtain ⟨year, month, day, hour, minute, second⟩ := tm
    dsimp only at monthLow monthHigh dayLow dayHigh hours minutes seconds
    unfold timegm at error
    dsimp only at error
    have last : Calendar.dayNumber year month day = -1 ∧ hour = 23 ∧ minute = 59 ∧ second = 59 := by
      omega
    obtain ⟨date, rfl, rfl, rfl⟩ := last
    obtain ⟨rfl, rfl, rfl⟩ := Calendar.date_before_epoch monthLow monthHigh dayLow dayHigh date
    rfl
  · rintro rfl
    decide

theorem Spells.parseTime_eq {text : ByteString} {tm : Tm} (spelled : Spells blanks text tm) :
    parseTime blanks text = if tm = beforeEpoch then none else some (fromTimeT (timegm tm)) := by
  split
  · rename_i error
    rw [Option.eq_none_iff_forall_ne_some]
    intro time parsed
    obtain ⟨other, otherSpelled, valid, _⟩ := parseTime_eq_some.mp parsed
    rw [otherSpelled.unique spelled] at valid
    exact valid (spelled.timegm_eq_neg_one.mpr error)
  · rename_i other
    have valid : timegm tm ≠ -1 := fun error => other (spelled.timegm_eq_neg_one.mp error)
    exact parseTime_eq_some.mpr ⟨tm, spelled, valid, rfl⟩

theorem gmtime_neg_one : gmtime (-1) = beforeEpoch := by decide +kernel

/-- `timegm` reports the second before the epoch as an error, so its own text must not
occur; of all other seconds only the text that `put_time` writes for an existing date
may be spelled, within the range of the clock. -/
theorem parsesExactly_iff (blanks : Blanks) (text : ByteString) :
    ParsesExactly blanks text ↔ ∀ tm, Spells blanks text tm →
      if tm = beforeEpoch then text ≠ utf8Bytes (putTime tm)
      else tm.IsTime ∧ IsClockTime (seconds (timegm tm)) ∧ text = utf8Bytes (putTime tm) := by
  constructor
  · intro exact tm spelled
    split
    · rename_i error
      subst error
      intro same
      have formatted : utf8Bytes (formatTime (seconds (-1))) = text := by
        rw [formatTime_seconds, gmtime_neg_one, same]
      have parsed := (exact (seconds (-1))).mpr ⟨⟨-1, rfl, by decide, by decide⟩, formatted⟩
      rw [spelled.parseTime_eq, if_pos rfl] at parsed
      cases parsed
    · rename_i other
      have parsed := spelled.parseTime_eq
      rw [if_neg other] at parsed
      obtain ⟨⟨count, time, fits⟩, formatted⟩ := (exact _).mp parsed
      rw [time, formatTime_seconds] at formatted
      subst formatted
      have same := spelled.unique (spells_gmtime blanks fits)
      subst same
      rw [timegm_gmtime]
      exact ⟨gmtime_isTime count, fits, rfl⟩
  · intro condition time
    constructor
    · intro parsed
      obtain ⟨tm, spelled, valid, rfl⟩ := parseTime_eq_some.mp parsed
      have met := condition tm spelled
      rw [if_neg fun error => valid (spelled.timegm_eq_neg_one.mpr error)] at met
      obtain ⟨isTime, fits, same⟩ := met
      rw [fromTimeT_eq fits]
      exact ⟨⟨timegm tm, rfl, fits⟩, by rw [formatTime_seconds, gmtime_timegm isTime, same]⟩
    · rintro ⟨⟨count, rfl, fits⟩, formatted⟩
      rw [formatTime_seconds] at formatted
      subst formatted
      have met := condition _ (spells_gmtime blanks fits)
      refine parseTime_putTime blanks fits ?_
      rintro rfl
      rw [if_pos gmtime_neg_one] at met
      exact met rfl

theorem not_parsesExactly {text : ByteString} {time : WallTime}
    (parsed : parseTime blanks text = some time)
    (other : utf8Bytes (formatTime time) ≠ text) : ¬ParsesExactly blanks text :=
  fun exact => other ((exact time).mp parsed).2

theorem parseTime_lenient :
    ¬ParsesExactly asciiSpaces (utf8Bytes "2026-3-3T9:19:39Z") ∧
      ¬ParsesExactly asciiSpaces (utf8Bytes "2026-02-30T09:19:39Z") ∧
      ¬ParsesExactly asciiSpaces (utf8Bytes "2026-03-03T09:19:39Z" ++ [0, 90]) ∧
      ¬ParsesExactly asciiSpaces (utf8Bytes "2300-01-01T00:00:00Z") ∧
      ¬ParsesExactly asciiSpaces (utf8Bytes "1969-12-31T23:59:59Z") := by
  refine ⟨@not_parsesExactly _ _ 1772529579000000000 (by decide +kernel) (by decide +kernel),
    @not_parsesExactly _ _ 1772443179000000000 (by decide +kernel) (by decide +kernel),
    @not_parsesExactly _ _ 1772529579000000000 (by decide +kernel) (by decide +kernel),
    @not_parsesExactly _ _ (-8032952073709551616) (by decide +kernel) (by decide +kernel), ?_⟩
  intro exact
  have rejected : parseTime asciiSpaces (utf8Bytes "1969-12-31T23:59:59Z") = none := by
    decide +kernel
  have parsed := (exact (seconds (-1))).mpr ⟨⟨-1, rfl, by decide, by decide⟩, by decide +kernel⟩
  rw [rejected] at parsed
  cases parsed

end Exactness

end EdgeHealthd
