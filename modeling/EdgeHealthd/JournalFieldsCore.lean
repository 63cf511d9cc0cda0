import EdgeHealthd.JournalReaderCore
import EdgeHealthd.JournalTextCore
import Mathlib.Algebra.Group.Int.Defs

/-!
Executable `read_current` of `src/journal_reader.cpp`, with the `atoi` it calls.
The journal library returns a field as `NAME=value`, by address and length.
-/

namespace EdgeHealthd

inductive JournalField
  | priority
  | message
  | systemdUnit
  | unit
  | syslogIdentifier
  deriving DecidableEq, Repr

def JournalField.name : JournalField → ByteString
  | .priority => "PRIORITY".toUTF8.data.toList
  | .message => "MESSAGE".toUTF8.data.toList
  | .systemdUnit => "_SYSTEMD_UNIT".toUTF8.data.toList
  | .unit => "UNIT".toUTF8.data.toList
  | .syslogIdentifier => "SYSLOG_IDENTIFIER".toUTF8.data.toList

/-- What the library calls return at the cursor. `beyond` is the memory behind
the `PRIORITY` data, which is not terminated. -/
structure JournalCursor where
  realtime : Option UInt64
  getData : JournalField → Option ByteString
  beyond : ByteString

def isSpace (byte : UInt8) : Bool := byte == 32 || (9 ≤ byte && byte ≤ 13)

def isDigit (byte : UInt8) : Bool := 48 ≤ byte && byte ≤ 57

def signedMagnitude : ByteString → Bool × ByteString
  | 45 :: digits => (true, digits)
  | 43 :: digits => (false, digits)
  | digits => (false, digits)

/-- The library's `strtol` in base ten; `long` has 64 bits. -/
def strtol (text : ByteString) : Int :=
  let (negative, text) := signedMagnitude (text.dropWhile isSpace)
  let magnitude : Nat := (text.takeWhile isDigit).foldl
    (fun value byte => value * 10 + (byte.toNat - 48)) 0
  if negative then max (-2 ^ 63) (-(magnitude : Int)) else min (2 ^ 63 - 1) (magnitude : Int)

def atoi (text : ByteString) : Int := (Int32.ofInt (strtol text)).toInt

def readField (cursor : JournalCursor) (field : JournalField) : ByteString :=
  match cursor.getData field with
  | none => []
  | some data =>
      let pre := field.name.length + 1
      if data.length > pre && data.take (pre - 1) == field.name && data[pre - 1]? == some 61 then
        data.drop pre
      else data

def readPriority (cursor : JournalCursor) : Int :=
  match cursor.getData .priority with
  | none => 6
  | some data =>
      if data.length > 9 && data.take 9 == "PRIORITY=".toUTF8.data.toList then
        atoi (data.drop 9 ++ cursor.beyond)
      else atoi (data ++ cursor.beyond)

def readMessage (cursor : JournalCursor) : Option ByteString :=
  match cursor.getData .message with
  | none => some []
  | some data =>
      if data.length > 8 && data.take 8 == "MESSAGE=".toUTF8.data.toList then
        sanitizeUtf8 ((data.drop 8).take 1024)
      else sanitizeUtf8 (data.take 1024)

-- `none` only where the sanitizing loop has no result.
def readCurrent (cursor : JournalCursor) : Option JournalEntry := do
  let message ← readMessage cursor
  some {
    realtimeUsec := cursor.realtime.getD 0
    priority := readPriority cursor
    message
    unit := readField cursor .systemdUnit
    unitHint := readField cursor .unit
    syslogId := readField cursor .syslogIdentifier }

end EdgeHealthd
