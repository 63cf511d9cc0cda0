import EdgeHealthd.Library.SelfSync

/-!
UTF-8 as a self-synchronising code: the words are the encodings of the Unicode
scalar values, so a well-formed text has no overlong form, no surrogate, no value
above U+10FFFF and no truncated sequence.
-/

namespace Utf8

theorem unique {first second : Char} {bytes : List UInt8}
    (one : String.utf8EncodeChar first <+: bytes) (two : String.utf8EncodeChar second <+: bytes) :
    first = second := by
  obtain ⟨rest, rfl⟩ := one
  obtain ⟨more, same⟩ := two
  have decoded := congrArg (fun bytes : List UInt8 => bytes.toByteArray.utf8DecodeChar? 0) same
  simp only [List.toByteArray_append, ByteArray.utf8DecodeChar?_utf8EncodeChar_append,
    Option.some.injEq] at decoded
  exact decoded.symm

def code : SelfSync.Code Char UInt8 where
  encode := String.utf8EncodeChar
  Starts := UInt8.IsUTF8FirstByte
  nonempty := by
    intro char empty
    have size := char.utf8Size_pos
    rw [← String.length_utf8EncodeChar, empty] at size
    exact Nat.lt_irrefl 0 size
  starts_iff := by
    intro char index byte found
    obtain ⟨bound, rfl⟩ := List.getElem?_eq_some_iff.mp found
    exact UInt8.isUTF8FirstByte_getElem_utf8EncodeChar
  unique := unique

def replacementCharacter : Char := '\uFFFD'

theorem encode_replacementCharacter :
    code.encode replacementCharacter = [0xEF, 0xBF, 0xBD] := by decide

theorem encode_ascii (char : Char) (ascii : char.val.toNat ≤ 0x7F) :
    code.encode char = [UInt8.ofNat char.val.toNat] := if_pos ascii

end Utf8
