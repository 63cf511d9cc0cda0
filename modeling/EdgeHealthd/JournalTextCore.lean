import EdgeHealthd.Types

/-!
Executable `sanitize_utf8` of `src/journal.cpp`. The loop runs over an index into
the input; a read outside the input, and running out of fuel, are `none`.
-/

namespace EdgeHealthd

def replacementBytes : ByteString := [0xEF, 0xBF, 0xBD]

/-- What the lead byte of a longer sequence announces: `seq_len`, the first bits
of the code point and `min_cp`. -/
structure LeadByte where
  seqLen : Nat
  cp : UInt32
  minCp : UInt32
  deriving DecidableEq, Repr

def leadByte (c : UInt8) : Option LeadByte :=
  if c &&& 0xE0 = 0xC0 then some ⟨2, (c &&& 0x1F).toUInt32, 0x80⟩
  else if c &&& 0xF0 = 0xE0 then some ⟨3, (c &&& 0x0F).toUInt32, 0x800⟩
  else if c &&& 0xF8 = 0xF0 then some ⟨4, (c &&& 0x07).toUInt32, 0x10000⟩
  else none

/-- The loop over the continuation bytes from `p[i]`, with `count` left to read:
`ok` and the code point. -/
def readContinuation (input : ByteString) : Nat → Nat → UInt32 → Option (Bool × UInt32)
  | 0, _, cp => some (true, cp)
  | count + 1, i, cp => do
      let cc ← input[i]?
      if cc &&& 0xC0 ≠ 0x80 then some (false, cp)
      else readContinuation input count (i + 1) ((cp <<< 6) ||| (cc &&& 0x3F).toUInt32)

/-- The checks after the lead byte at `i`. -/
def sanitizeLead (input : ByteString) (i : Nat) (lead : LeadByte) :
    Option (ByteString × Nat) := do
  if i + lead.seqLen > input.length then some (replacementBytes, 1)
  else
    let (ok, cp) ← readContinuation input (lead.seqLen - 1) (i + 1) lead.cp
    if !ok || cp < lead.minCp || cp > 0x10FFFF || (cp ≥ 0xD800 && cp ≤ 0xDFFF) then
      some (replacementBytes, 1)
    else some ((input.drop i).take lead.seqLen, lead.seqLen)

/-- One pass of the main loop: the bytes appended to `out`, and how far `i` moves. -/
def sanitizeStep (input : ByteString) (i : Nat) : Option (ByteString × Nat) := do
  let c ← input[i]?
  if c < 0x80 then some ([c], 1)
  else
    match leadByte c with
    | none => some (replacementBytes, 1)
    | some lead => sanitizeLead input i lead

def sanitizeLoop (input : ByteString) : Nat → Nat → ByteString → Option ByteString
  | 0, _, _ => none
  | fuel + 1, i, out =>
      if i < input.length then do
        let (piece, width) ← sanitizeStep input i
        sanitizeLoop input fuel (i + width) (out ++ piece)
      else some out

/-- The loop test is made at most once for every byte, and once more at the end. -/
def sanitizeUtf8 (input : ByteString) : Option ByteString :=
  sanitizeLoop input (input.length + 1) 0 []

end EdgeHealthd
