import Mathlib.Algebra.Group.Nat.Defs
import Mathlib.Tactic.IntervalCases

/-!
Numbers written in decimal: the digits of `Nat.repr`, the bytes of a text, and the
value that a fold over the bytes reads back.
-/

namespace Decimal

theorem repr_injective : Function.Injective Nat.repr := by
  intro left right same
  have digits : Nat.toDigits 10 left = Nat.toDigits 10 right := by
    rw [← Nat.toList_repr, ← Nat.toList_repr, same]
  rw [← @Nat.ofDigitChars_ten_toDigits left, digits, Nat.ofDigitChars_ten_toDigits]

theorem repr_snoc {number digit : Nat} (positive : 0 < number) (small : digit < 10) :
    Nat.repr (10 * number + digit) = Nat.repr number ++ String.ofList [digit.digitChar] := by
  rw [Nat.repr_eq_ofList_toDigits, Nat.repr_eq_ofList_toDigits,
    ← Nat.toDigits_append_toDigits (by decide) positive small, Nat.toDigits_of_lt_base small,
    String.ofList_append]

theorem repr_digit {digit : Nat} (small : digit < 10) :
    Nat.repr digit = String.ofList [digit.digitChar] := by
  rw [Nat.repr_eq_ofList_toDigits, Nat.toDigits_of_lt_base small]

def utf8Bytes (text : String) : List UInt8 := text.toUTF8.data.toList

theorem utf8Bytes_append (first second : String) :
    utf8Bytes (first ++ second) = utf8Bytes first ++ utf8Bytes second := by
  simp [utf8Bytes, String.toUTF8]

theorem utf8Bytes_digitChar {digit : Nat} (small : digit < 10) :
    utf8Bytes (String.ofList [digit.digitChar]) = [UInt8.ofNat (48 + digit)] := by
  interval_cases digit <;> decide

def push (value : Nat) (byte : UInt8) : Nat := value * 10 + (byte.toNat - 48)

def ofBytes (digits : List UInt8) : Nat := digits.foldl push 0

theorem le_foldl_push (digits : List UInt8) (value : Nat) : value ≤ digits.foldl push value := by
  induction digits generalizing value with
  | nil => exact Nat.le_refl value
  | cons byte rest ih =>
      have more := ih (push value byte)
      rw [List.foldl_cons]
      unfold push at more ⊢
      omega

theorem ofBytes_snoc (digits : List UInt8) {digit : Nat} (small : digit < 10) :
    ofBytes (digits ++ [UInt8.ofNat (48 + digit)]) = ofBytes digits * 10 + digit := by
  have byte : (UInt8.ofNat (48 + digit)).toNat = 48 + digit := UInt8.toNat_ofNat_of_lt' (by
    show 48 + digit < 256
    omega)
  rw [ofBytes, List.foldl_append, List.foldl_cons, List.foldl_nil, push, byte,
    Nat.add_sub_cancel_left]
  rfl

theorem utf8Bytes_repr_digit {digit : Nat} (small : digit < 10) :
    utf8Bytes (Nat.repr digit) = [UInt8.ofNat (48 + digit)] := by
  rw [repr_digit small, utf8Bytes_digitChar small]

theorem utf8Bytes_repr_snoc {number : Nat} (large : 10 ≤ number) :
    utf8Bytes (Nat.repr number) =
      utf8Bytes (Nat.repr (number / 10)) ++ [UInt8.ofNat (48 + number % 10)] := by
  have last : number % 10 < 10 := Nat.mod_lt _ (by decide)
  have split := repr_snoc (Nat.div_pos large (by decide)) last
  rw [Nat.div_add_mod] at split
  rw [split, utf8Bytes_append, utf8Bytes_digitChar last]

def IsDigit (byte : UInt8) : Prop := 48 ≤ byte ∧ byte ≤ 57

theorem isDigit_ofNat {digit : Nat} (small : digit < 10) : IsDigit (UInt8.ofNat (48 + digit)) := by
  unfold IsDigit
  interval_cases digit <;> decide

/-- The ways to write a number in at most `width` digits, leading zeros included. -/
structure IsNumeral (width : Nat) (digits : List UInt8) (value : Nat) : Prop where
  isDigit : ∀ byte ∈ digits, IsDigit byte
  ne_nil : digits ≠ []
  length_le : digits.length ≤ width
  value_eq : ofBytes digits = value

theorem isDigit_of_mem_repr (number : Nat) : ∀ byte ∈ utf8Bytes (Nat.repr number), IsDigit byte := by
  induction number using Nat.strong_induction_on with
  | _ number ih =>
      intro byte member
      by_cases small : number < 10
      · rw [utf8Bytes_repr_digit small, List.mem_singleton] at member
        rw [member]
        exact isDigit_ofNat small
      · have large : 10 ≤ number := Nat.le_of_not_lt small
        rw [utf8Bytes_repr_snoc large, List.mem_append, List.mem_singleton] at member
        rcases member with earlier | rfl
        · exact ih (number / 10) (by omega) byte earlier
        · exact isDigit_ofNat (Nat.mod_lt _ (by decide))

theorem ofBytes_repr (number : Nat) : ofBytes (utf8Bytes (Nat.repr number)) = number := by
  induction number using Nat.strong_induction_on with
  | _ number ih =>
      by_cases small : number < 10
      · rw [utf8Bytes_repr_digit small]
        exact (ofBytes_snoc [] small).trans (Nat.zero_add number)
      · have large : 10 ≤ number := Nat.le_of_not_lt small
        rw [utf8Bytes_repr_snoc large, ofBytes_snoc _ (Nat.mod_lt _ (by decide)),
          ih (number / 10) (by omega), Nat.mul_comm]
        exact Nat.div_add_mod number 10

theorem length_repr_le {number width : Nat} (positive : 0 < width) (bound : number < 10 ^ width) :
    (utf8Bytes (Nat.repr number)).length ≤ width := by
  induction width generalizing number with
  | zero => exact absurd positive (Nat.lt_irrefl 0)
  | succ width ih =>
      by_cases small : number < 10
      · simp [utf8Bytes_repr_digit small]
      · have large : 10 ≤ number := Nat.le_of_not_lt small
        rw [utf8Bytes_repr_snoc large, List.length_append, List.length_singleton]
        refine Nat.succ_le_succ (ih ?_ ?_)
        · rcases Nat.eq_zero_or_pos width with rfl | more
          · exact absurd bound small
          · exact more
        · rw [Nat.div_lt_iff_lt_mul (by decide)]
          exact bound

theorem isNumeral_repr {number width : Nat} (positive : 0 < width) (bound : number < 10 ^ width) :
    IsNumeral width (utf8Bytes (Nat.repr number)) number where
  isDigit := isDigit_of_mem_repr number
  ne_nil := by
    by_cases small : number < 10
    · simp [utf8Bytes_repr_digit small]
    · simp [utf8Bytes_repr_snoc (Nat.le_of_not_lt small)]
  length_le := length_repr_le positive bound
  value_eq := ofBytes_repr number

theorem isNumeral_zero {digit : Nat} (small : digit < 10) :
    IsNumeral 2 (48 :: utf8Bytes (Nat.repr digit)) digit where
  isDigit byte member := by
    rcases List.mem_cons.mp member with rfl | last
    · exact ⟨by decide, by decide⟩
    · exact isDigit_of_mem_repr digit byte last
  ne_nil := List.cons_ne_nil _ _
  length_le := by simp [utf8Bytes_repr_digit small]
  value_eq := ofBytes_repr digit

end Decimal
