import Mathlib.Data.List.Basic
import Mathlib.Data.List.Infix

/-!
Self-synchronising codes: each symbol is written as a word of bytes, the first
byte of a word can be told from the others, and no two words begin the same
text. Broken text in such a code can be repaired byte by byte, and a text can be
cut wherever a word begins.
-/

namespace SelfSync

variable {Symbol Byte : Type*}

structure Code (Symbol Byte : Type*) where
  encode : Symbol → List Byte
  Starts : Byte → Prop
  nonempty : ∀ symbol, encode symbol ≠ []
  starts_iff : ∀ {symbol index byte}, (encode symbol)[index]? = some byte →
    (Starts byte ↔ index = 0)
  unique : ∀ {first second bytes}, encode first <+: bytes → encode second <+: bytes →
    first = second

namespace Code

variable (code : Code Symbol Byte)

def WellFormed (bytes : List Byte) : Prop :=
  ∃ symbols : List Symbol, symbols.flatMap code.encode = bytes

/-- Copies the words of a text; a byte at which no word begins becomes the word
of the fallback symbol. -/
inductive Repairs (fallback : Symbol) : List Byte → List Byte → Prop
  | nil : Repairs fallback [] []
  | keep {rest out : List Byte} (symbol : Symbol) (tail : Repairs fallback rest out) :
      Repairs fallback (code.encode symbol ++ rest) (code.encode symbol ++ out)
  | replace {byte : Byte} {rest out : List Byte}
      (broken : ∀ symbol, ¬code.encode symbol <+: byte :: rest)
      (tail : Repairs fallback rest out) :
      Repairs fallback (byte :: rest) (code.encode fallback ++ out)

variable {code} {fallback : Symbol} {bytes out : List Byte}

theorem encode_length_pos (symbol : Symbol) : 0 < (code.encode symbol).length :=
  List.length_pos_iff.mpr (code.nonempty symbol)

theorem wellFormed_nil : code.WellFormed [] := ⟨[], rfl⟩

theorem WellFormed.append {first second : List Byte} (left : code.WellFormed first)
    (right : code.WellFormed second) : code.WellFormed (first ++ second) := by
  obtain ⟨symbols, rfl⟩ := left
  obtain ⟨more, rfl⟩ := right
  exact ⟨symbols ++ more, by simp⟩

theorem wellFormed_encode (symbol : Symbol) : code.WellFormed (code.encode symbol) :=
  ⟨[symbol], by simp⟩

theorem wellFormed_encode_append (symbol : Symbol) {rest : List Byte} :
    code.WellFormed (code.encode symbol ++ rest) ↔ code.WellFormed rest := by
  constructor
  · rintro ⟨symbols, same⟩
    cases symbols with
    | nil =>
        have empty := (List.append_eq_nil_iff.mp same.symm).1
        exact absurd empty (code.nonempty symbol)
    | cons first symbols =>
        rw [List.flatMap_cons] at same
        have begins : code.encode first <+: code.encode symbol ++ rest :=
          same ▸ List.prefix_append _ _
        obtain rfl := code.unique begins (List.prefix_append _ _)
        exact ⟨symbols, List.append_cancel_left same⟩
  · exact fun text => (wellFormed_encode symbol).append text

theorem WellFormed.first_starts {byte : Byte} {rest : List Byte}
    (text : code.WellFormed (byte :: rest)) : code.Starts byte := by
  obtain ⟨symbols, same⟩ := text
  cases symbols with
  | nil => cases same
  | cons symbol symbols =>
      rw [List.flatMap_cons] at same
      cases word : code.encode symbol with
      | nil => exact absurd word (code.nonempty symbol)
      | cons first others =>
          rw [word, List.cons_append] at same
          obtain ⟨rfl, _⟩ := List.cons.inj same
          have found : (code.encode symbol)[0]? = some first := by rw [word]; rfl
          exact (code.starts_iff found).mpr rfl

theorem WellFormed.take_iff (text : code.WellFormed bytes) {count : Nat} {byte : Byte}
    (next : bytes[count]? = some byte) :
    code.WellFormed (bytes.take count) ↔ code.Starts byte := by
  obtain ⟨symbols, rfl⟩ := text
  induction symbols generalizing count with
  | nil => cases next
  | cons symbol symbols ih =>
      rw [List.flatMap_cons] at next ⊢
      by_cases inside : count < (code.encode symbol).length
      · rw [List.getElem?_append_left inside] at next
        rw [code.starts_iff next, List.take_append_of_le_length inside.le]
        constructor
        · rintro ⟨others, same⟩
          -- A non-empty piece of the word would begin with another word.
          cases others with
          | nil =>
              have empty := (List.take_eq_nil_iff.mp same.symm).resolve_right (code.nonempty symbol)
              exact empty
          | cons other others =>
              rw [List.flatMap_cons] at same
              have shorter : code.encode other <+: (code.encode symbol).take count :=
                same ▸ List.prefix_append _ _
              obtain rfl := code.unique (shorter.trans (List.take_prefix _ _)) List.prefix_rfl
              have lengths := shorter.length_le
              rw [List.length_take] at lengths
              omega
        · rintro rfl
          rw [List.take_zero]
          exact wellFormed_nil
      · rw [List.getElem?_append_right (by omega)] at next
        rw [List.take_append, List.take_of_length_le (by omega), wellFormed_encode_append]
        exact ih next

theorem Repairs.wellFormed (repaired : code.Repairs fallback bytes out) :
    code.WellFormed out := by
  induction repaired with
  | nil => exact wellFormed_nil
  | keep symbol _ ih => exact (wellFormed_encode symbol).append ih
  | replace _ _ ih => exact (wellFormed_encode fallback).append ih

theorem Repairs.text (fallback : Symbol) (symbols : List Symbol) {rest out : List Byte}
    (tail : code.Repairs fallback rest out) :
    code.Repairs fallback (symbols.flatMap code.encode ++ rest)
      (symbols.flatMap code.encode ++ out) := by
  induction symbols with
  | nil => exact tail
  | cons symbol symbols ih =>
      rw [List.flatMap_cons, List.append_assoc, List.append_assoc]
      exact .keep symbol ih

theorem Repairs.unique (first : code.Repairs fallback bytes out) {other : List Byte}
    (second : code.Repairs fallback bytes other) : out = other := by
  induction first generalizing other with
  | nil =>
      generalize shape : ([] : List Byte) = start at second
      cases second with
      | nil => rfl
      | keep symbol _ =>
          exact absurd (List.append_eq_nil_iff.mp shape.symm).1 (code.nonempty symbol)
      | replace _ _ => cases shape
  | @keep rest out symbol _ ih =>
      generalize shape : code.encode symbol ++ rest = start at second
      cases second with
      | nil => exact absurd (List.append_eq_nil_iff.mp shape).1 (code.nonempty symbol)
      | keep symbol' tail =>
          obtain rfl := code.unique (shape ▸ List.prefix_append _ _ :
            code.encode symbol <+: _) (List.prefix_append _ _)
          rw [List.append_cancel_left_eq] at shape
          rw [ih (shape ▸ tail)]
      | replace broken _ => exact absurd (shape ▸ List.prefix_append _ _) (broken symbol)
  | @replace byte rest out broken _ ih =>
      generalize shape : byte :: rest = start at second
      cases second with
      | nil => cases shape
      | keep symbol _ => exact absurd (shape ▸ List.prefix_append _ _) (broken symbol)
      | replace _ tail =>
          obtain ⟨rfl, rfl⟩ := List.cons.inj shape
          rw [ih tail]

theorem broken_append {byte : Byte} {rest text after : List Byte}
    (broken : ∀ symbol, ¬code.encode symbol <+: byte :: rest) (formed : code.WellFormed text)
    (nonempty : text ≠ []) (symbol : Symbol) :
    ¬code.encode symbol <+: byte :: rest ++ (text ++ after) := by
  intro begins
  by_cases fits : (code.encode symbol).length ≤ (byte :: rest).length
  · exact broken symbol (List.prefix_of_prefix_length_le begins (List.prefix_append _ _) fits)
  · cases text with
    | nil => exact nonempty rfl
    | cons first others =>
        obtain ⟨more, same⟩ := begins
        have found : (code.encode symbol)[(byte :: rest).length]? = some first := by
          rw [← List.getElem?_append_left (Nat.lt_of_not_ge fits), same,
            List.getElem?_append_right (Nat.le_refl _), Nat.sub_self]
          rfl
        have index := (code.starts_iff found).mp formed.first_starts
        simp at index

/-- Repair is local: broken bytes around a text are repaired on their own. -/
theorem Repairs.around {a b cleanA cleanB text : List Byte}
    (before : code.Repairs fallback a cleanA) (formed : code.WellFormed text)
    (nonempty : text ≠ []) (after : code.Repairs fallback b cleanB) :
    code.Repairs fallback (a ++ (text ++ b)) (cleanA ++ (text ++ cleanB)) := by
  induction before with
  | nil =>
      obtain ⟨symbols, rfl⟩ := formed
      exact .text fallback symbols after
  | keep symbol _ ih =>
      rw [List.append_assoc, List.append_assoc]
      exact .keep symbol ih
  | replace broken _ ih =>
      rw [List.cons_append, List.append_assoc]
      refine .replace ?_ ih
      rw [← List.cons_append]
      exact broken_append broken formed nonempty

end Code

end SelfSync
