import EdgeHealthd.JournalFieldsCore
import EdgeHealthd.Library.Calendar
import EdgeHealthd.SnapshotJsonCore

/-!
Executable `json::parse_time` of `src/json.cpp` with the library calls behind it:
`strptime` as glibc reads the snapshot's format, `timegm` over the proleptic
Gregorian calendar, and the conversion to 64-bit nanoseconds.
-/

namespace EdgeHealthd

/-- The bytes that `strptime` skips before a number, which depend on the version of the
library. No digit is one of them, nor is the NUL behind the text. -/
structure Blanks where
  skips : UInt8 → Bool
  noDigit : ∀ byte, isDigit byte = true → skips byte = false
  noNul : skips 0 = false

def digitValue (byte : UInt8) : Nat := byte.toNat - 48

-- The rest of the `do` loop of `get_number`, behind the first digit.
def moreDigits (high : Nat) : Nat → Nat → ByteString → Nat × ByteString
  | 0, value, text => (value, text)
  | _ + 1, value, [] => (value, [])
  | count + 1, value, byte :: text =>
      if value * 10 ≤ high && isDigit byte then
        moreDigits high count (value * 10 + digitValue byte) text
      else (value, byte :: text)

def getNumber (blanks : Blanks) (low high width : Nat) (text : ByteString) :
    Option (Nat × ByteString) :=
  match text.dropWhile blanks.skips with
  | [] => none
  | byte :: text =>
      if isDigit byte then
        let (value, text) := moreDigits high (width - 1) (digitValue byte) text
        if low ≤ value && value ≤ high then some (value, text) else none
      else none

inductive Directive
  | literal (byte : UInt8)
  | number (low high width : Nat)
  deriving DecidableEq

-- `%Y-%m-%dT%H:%M:%SZ`
def timestampFormat : List Directive :=
  [.number 0 9999 4, .literal 45, .number 1 12 2, .literal 45, .number 1 31 2, .literal 84,
    .number 0 23 2, .literal 58, .number 0 59 2, .literal 58, .number 0 61 2, .literal 90]

/-- The numbers that are read and the text behind them. -/
def strptime (blanks : Blanks) : List Directive → ByteString → Option (List Nat × ByteString)
  | [], text => some ([], text)
  | .literal _ :: _, [] => none
  | .literal byte :: format, found :: text =>
      if found == byte then strptime blanks format text else none
  | .number low high width :: format, text =>
      match getNumber blanks low high width text with
      | none => none
      | some (value, text) =>
          (strptime blanks format text).map fun (values, text) => (value :: values, text)

def Tm.ofValues : List Nat → Option Tm
  | [year, month, day, hour, minute, second] => some { year, month, day, hour, minute, second }
  | _ => none

/-- A day behind the end of its month and a second above 59 count on. -/
def timegm (tm : Tm) : Int :=
  Calendar.dayNumber tm.year tm.month tm.day * 86400 + tm.hour * 3600 + tm.minute * 60 + tm.second

-- The multiplication is on 64 bits.
def fromTimeT (time : Int) : WallTime := (time * 1000000000).bmod (2 ^ 64)

/-- `text` is read as a C string, up to its first NUL. -/
def parseTime (blanks : Blanks) (text : ByteString) : Option WallTime :=
  match strptime blanks timestampFormat (text.takeWhile (· != 0)) with
  | some (values, []) =>
      match Tm.ofValues values with
      | some tm => if timegm tm = -1 then none else some (fromTimeT (timegm tm))
      | none => none
  | some (_, _ :: _) | none => none

end EdgeHealthd
