import EdgeHealthd.JournalTextCore
import EdgeHealthd.Library.Utf8
import Mathlib.Algebra.Group.Nat.Defs

/-!
`sanitize_utf8` repairs its input: the decoder accepts at an index exactly when a
UTF-8 word begins there, so one pass of the loop copies a word or replaces one
byte. Everything else follows from what repairing a self-synchronising code does.
-/

namespace EdgeHealthd

def IsContinuation (byte : UInt8) : Prop := 0x80 ≤ byte.toNat ∧ byte.toNat < 0xC0

def codePoint (lead : Nat) (tail : ByteString) : Nat :=
  tail.foldl (fun value byte => value * 64 + byte.toNat % 64) lead

section Masks

variable (c : UInt8)

theorem high_bits {width : Nat} (narrow : width ≤ 8) {mask : UInt8}
    (full : mask.toNat = 2 ^ 8 - 2 ^ width) :
    (c &&& mask).toNat = c.toNat / 2 ^ width * 2 ^ width := by
  have positive : 0 < 2 ^ width := Nat.two_pow_pos width
  have fits : 2 ^ width ≤ 2 ^ 8 := Nat.pow_le_pow_right (by decide) narrow
  have complement : 2 ^ 8 - 2 ^ width = 2 ^ 8 - (2 ^ width - 1 + 1) := by omega
  rw [UInt8.toNat_and, full, complement]
  apply Nat.eq_of_testBit_eq
  intro i
  rw [Nat.testBit_and, Nat.testBit_two_pow_sub_succ (by omega), Nat.testBit_two_pow_sub_one,
    Nat.testBit_mul_two_pow]
  by_cases low : i < width
  · simp [low, Nat.not_le.mpr low]
  · have high : width ≤ i := Nat.not_lt.mp low
    rw [Nat.testBit_div_two_pow, Nat.sub_add_cancel high]
    by_cases inside : i < 8
    · simp [low, inside, high]
    · have small : c.toNat < 2 ^ i :=
        Nat.lt_of_lt_of_le c.toNat_lt (Nat.pow_le_pow_right (by decide) (Nat.not_lt.mp inside))
      simp [Nat.testBit_lt_two_pow small]

theorem mask_iff (width : Nat) (narrow : width ≤ 8) {mask value : UInt8}
    (full : mask.toNat = 2 ^ 8 - 2 ^ width) (aligned : 2 ^ width ∣ value.toNat) :
    c &&& mask = value ↔ value.toNat ≤ c.toNat ∧ c.toNat < value.toNat + 2 ^ width := by
  have positive : 0 < 2 ^ width := Nat.two_pow_pos width
  obtain ⟨quotient, same⟩ := aligned
  rw [← UInt8.toNat_inj, high_bits c narrow full, same, Nat.mul_comm,
    Nat.mul_right_inj (by omega), Nat.div_eq_iff positive, Nat.mul_comm]
  omega

theorem mask_two : c &&& 0xE0 = 0xC0 ↔ 0xC0 ≤ c.toNat ∧ c.toNat < 0xE0 :=
  mask_iff c 5 (by decide) rfl (by decide)

theorem mask_three : c &&& 0xF0 = 0xE0 ↔ 0xE0 ≤ c.toNat ∧ c.toNat < 0xF0 :=
  mask_iff c 4 (by decide) rfl (by decide)

theorem mask_four : c &&& 0xF8 = 0xF0 ↔ 0xF0 ≤ c.toNat ∧ c.toNat < 0xF8 :=
  mask_iff c 3 (by decide) rfl (by decide)

theorem mask_continuation : c &&& 0xC0 = 0x80 ↔ IsContinuation c :=
  mask_iff c 6 (by decide) rfl (by decide)

theorem low_bits (width : Nat) (mask : UInt8) (full : mask.toNat = 2 ^ width - 1) :
    (c &&& mask).toUInt32.toNat = c.toNat % 2 ^ width := by
  rw [UInt8.toNat_toUInt32, UInt8.toNat_and, full, Nat.and_two_pow_sub_one_eq_mod]

theorem shift_in (cp : UInt32) (small : cp.toNat < 2 ^ 26) :
    ((cp <<< 6) ||| (c &&& 0x3F).toUInt32).toNat = cp.toNat * 64 + c.toNat % 64 := by
  have six : (6 : UInt32).toNat % 32 = 6 := rfl
  have shifted : cp.toNat <<< 6 % 2 ^ 32 = cp.toNat <<< 6 := by
    rw [Nat.shiftLeft_eq]
    exact Nat.mod_eq_of_lt (by omega)
  have joined := Nat.shiftLeft_add_eq_or_of_lt (show c.toNat % 2 ^ 6 < 2 ^ 6 by omega) cp.toNat
  rw [UInt32.toNat_or, UInt32.toNat_shiftLeft, low_bits c 6 0x3F rfl, six, shifted, ← joined,
    Nat.shiftLeft_eq]
  omega

end Masks

theorem leadByte_cases {c : UInt8} {lead : LeadByte} (found : leadByte c = some lead) :
    (0xC0 ≤ c.toNat ∧ c.toNat < 0xE0 ∧ lead.seqLen = 2 ∧ lead.cp.toNat = c.toNat % 32 ∧
        lead.minCp.toNat = 0x80) ∨
      (0xE0 ≤ c.toNat ∧ c.toNat < 0xF0 ∧ lead.seqLen = 3 ∧ lead.cp.toNat = c.toNat % 16 ∧
        lead.minCp.toNat = 0x800) ∨
      (0xF0 ≤ c.toNat ∧ c.toNat < 0xF8 ∧ lead.seqLen = 4 ∧ lead.cp.toNat = c.toNat % 8 ∧
        lead.minCp.toNat = 0x10000) := by
  unfold leadByte at found
  split at found
  · rename_i two
    cases found
    have range := (mask_two c).mp two
    exact Or.inl ⟨range.1, range.2, rfl, low_bits c 5 0x1F rfl, rfl⟩
  · split at found
    · rename_i three
      cases found
      have range := (mask_three c).mp three
      exact Or.inr (Or.inl ⟨range.1, range.2, rfl, low_bits c 4 0x0F rfl, rfl⟩)
    · split at found
      · rename_i four
        cases found
        have range := (mask_four c).mp four
        exact Or.inr (Or.inr ⟨range.1, range.2, rfl, low_bits c 3 0x07 rfl, rfl⟩)
      · cases found

theorem leadByte_isSome {c : UInt8} (range : 0xC0 ≤ c.toNat ∧ c.toNat < 0xF8) :
    ∃ lead, leadByte c = some lead := by
  unfold leadByte
  rw [if_congr (mask_two c) rfl rfl, if_congr (mask_three c) rfl rfl,
    if_congr (mask_four c) rfl rfl]
  split
  · exact ⟨_, rfl⟩
  · split
    · exact ⟨_, rfl⟩
    · rw [if_pos (by omega)]
      exact ⟨_, rfl⟩

theorem scalar_value (char : Char) :
    char.val.toNat < 0xD800 ∨ 0xDFFF < char.val.toNat ∧ char.val.toNat < 0x110000 := char.valid

theorem encode_of_tail {char : Char} {c : UInt8} {tail : ByteString} {lead : LeadByte}
    (found : leadByte c = some lead) (width : tail.length = lead.seqLen - 1)
    (continuation : ∀ byte ∈ tail, IsContinuation byte)
    (value : char.val.toNat = codePoint lead.cp.toNat tail)
    (least : lead.minCp.toNat ≤ char.val.toNat) : Utf8.code.encode char = c :: tail := by
  have scalar := scalar_value char
  rcases leadByte_cases found with ⟨lower, upper, len, bits, min⟩ |
      ⟨lower, upper, len, bits, min⟩ | ⟨lower, upper, len, bits, min⟩
  · rw [len] at width
    obtain ⟨b, rfl⟩ := List.length_eq_one_iff.mp width
    simp only [List.mem_singleton, forall_eq, IsContinuation] at continuation
    simp only [codePoint, List.foldl_cons, List.foldl_nil] at value
    show String.utf8EncodeChar char = [c, b]
    unfold String.utf8EncodeChar
    rw [if_neg (by omega), if_pos (by omega)]
    simp only [List.cons.injEq, ← UInt8.toNat_inj, UInt8.toNat_ofNat', and_true]
    omega
  · rw [len] at width
    obtain ⟨b, d, rfl⟩ := List.length_eq_two.mp width
    simp only [List.mem_cons, List.not_mem_nil, or_false, forall_eq_or_imp, forall_eq,
      IsContinuation] at continuation
    simp only [codePoint, List.foldl_cons, List.foldl_nil] at value
    show String.utf8EncodeChar char = [c, b, d]
    unfold String.utf8EncodeChar
    rw [if_neg (by omega), if_neg (by omega), if_pos (by omega)]
    simp only [List.cons.injEq, ← UInt8.toNat_inj, UInt8.toNat_ofNat', and_true]
    omega
  · rw [len] at width
    obtain ⟨b, d, e, rfl⟩ := List.length_eq_three.mp width
    simp only [List.mem_cons, List.not_mem_nil, or_false, forall_eq_or_imp, forall_eq,
      IsContinuation] at continuation
    simp only [codePoint, List.foldl_cons, List.foldl_nil] at value
    show String.utf8EncodeChar char = [c, b, d, e]
    unfold String.utf8EncodeChar
    rw [if_neg (by omega), if_neg (by omega), if_neg (by omega)]
    simp only [List.cons.injEq, ← UInt8.toNat_inj, UInt8.toNat_ofNat', and_true]
    omega

theorem tail_of_encode {char : Char} {c : UInt8} {tail : ByteString}
    (word : Utf8.code.encode char = c :: tail) (long : 0x80 ≤ c.toNat) :
    ∃ lead, leadByte c = some lead ∧ tail.length = lead.seqLen - 1 ∧
      (∀ byte ∈ tail, IsContinuation byte) ∧
      char.val.toNat = codePoint lead.cp.toNat tail ∧ lead.minCp.toNat ≤ char.val.toNat := by
  have scalar := scalar_value char
  change String.utf8EncodeChar char = c :: tail at word
  unfold String.utf8EncodeChar at word
  simp only at word
  split at word
  · obtain ⟨rfl, _⟩ := List.cons.inj word
    rw [UInt8.toNat_ofNat'] at long
    omega
  · split at word
    · obtain ⟨rfl, rfl⟩ := List.cons.inj word
      obtain ⟨lead, found⟩ := leadByte_isSome
        (c := UInt8.ofNat (char.val.toNat / 64 % 32 + 192)) (by rw [UInt8.toNat_ofNat']; omega)
      refine ⟨lead, found, ?_⟩
      have facts := leadByte_cases found
      rw [UInt8.toNat_ofNat'] at facts
      simp only [List.length_singleton, List.mem_singleton, forall_eq, IsContinuation, codePoint,
        List.foldl_cons, List.foldl_nil, UInt8.toNat_ofNat']
      omega
    · split at word
      · obtain ⟨rfl, rfl⟩ := List.cons.inj word
        obtain ⟨lead, found⟩ := leadByte_isSome
          (c := UInt8.ofNat (char.val.toNat / 4096 % 16 + 224)) (by rw [UInt8.toNat_ofNat']; omega)
        refine ⟨lead, found, ?_⟩
        have facts := leadByte_cases found
        rw [UInt8.toNat_ofNat'] at facts
        simp only [List.length_cons, List.length_nil, List.mem_cons, List.not_mem_nil, or_false,
          forall_eq_or_imp, forall_eq, IsContinuation, codePoint, List.foldl_cons, List.foldl_nil,
          UInt8.toNat_ofNat']
        omega
      · obtain ⟨rfl, rfl⟩ := List.cons.inj word
        obtain ⟨lead, found⟩ := leadByte_isSome
          (c := UInt8.ofNat (char.val.toNat / 262144 % 8 + 240)) (by rw [UInt8.toNat_ofNat']; omega)
        refine ⟨lead, found, ?_⟩
        have facts := leadByte_cases found
        rw [UInt8.toNat_ofNat'] at facts
        simp only [List.length_cons, List.length_nil, List.mem_cons, List.not_mem_nil, or_false,
          forall_eq_or_imp, forall_eq, IsContinuation, codePoint, List.foldl_cons, List.foldl_nil,
          UInt8.toNat_ofNat']
        omega

theorem readContinuation_spec (input : ByteString) (count : Nat) :
    ∀ i cp, i + count ≤ input.length → (cp.toNat + 1) * 64 ^ count ≤ 2 ^ 32 →
      ∃ ok final, readContinuation input count i cp = some (ok, final) ∧
        (ok = true ↔ ∀ byte ∈ (input.drop i).take count, IsContinuation byte) ∧
        (ok = true → final.toNat = codePoint cp.toNat ((input.drop i).take count)) := by
  induction count with
  | zero =>
      intro i cp _ _
      exact ⟨true, cp, rfl, by simp, fun _ => rfl⟩
  | succ count ih =>
      intro i cp room small
      have inside : i < input.length := by omega
      have head : input[i]? = some input[i] := List.getElem?_eq_getElem inside
      rw [List.drop_eq_getElem_cons inside, List.take_succ_cons]
      rw [readContinuation, head, Option.bind_eq_bind, Option.bind_some]
      by_cases continues : input[i] &&& 0xC0 = 0x80
      · have fits : cp.toNat < 2 ^ 26 := by
          have one : 1 ≤ 64 ^ count := Nat.one_le_two_pow.trans
            (Nat.pow_le_pow_left (by decide : 2 ≤ 64) count)
          have enough : (cp.toNat + 1) * 64 ≤ (cp.toNat + 1) * 64 ^ (count + 1) := by
            rw [Nat.pow_succ]
            exact Nat.mul_le_mul_left _ (Nat.le_mul_of_pos_left 64 one)
          omega
        have shifted := shift_in input[i] cp fits
        have still : (((cp <<< 6) ||| (input[i] &&& 0x3F).toUInt32).toNat + 1) * 64 ^ count ≤
            2 ^ 32 := by
          rw [shifted]
          calc (cp.toNat * 64 + input[i].toNat % 64 + 1) * 64 ^ count
              ≤ ((cp.toNat + 1) * 64) * 64 ^ count := Nat.mul_le_mul_right _ (by omega)
            _ = (cp.toNat + 1) * 64 ^ (count + 1) := by
                rw [Nat.mul_assoc, Nat.pow_succ, Nat.mul_comm 64]
            _ ≤ 2 ^ 32 := small
        obtain ⟨ok, final, read, allContinue, value⟩ := ih (i + 1) _ (by omega) still
        refine ⟨ok, final, ?_, ?_, ?_⟩
        · rw [if_neg (not_not_intro continues)]
          exact read
        · rw [allContinue, List.forall_mem_cons, and_iff_right ((mask_continuation _).mp continues)]
        · intro good
          rw [value good, shifted]
          rfl
      · refine ⟨false, cp, if_pos continues, ?_, nofun⟩
        rw [List.forall_mem_cons]
        exact iff_of_false Bool.false_ne_true fun both =>
          continues ((mask_continuation _).mpr both.1)

theorem word_of_leads {char : Char} {c : UInt8} {rest : ByteString}
    (leads : Utf8.code.encode char <+: c :: rest) :
    ∃ tail, Utf8.code.encode char = c :: tail ∧ tail <+: rest := by
  cases word : Utf8.code.encode char with
  | nil => exact absurd word (Utf8.code.nonempty char)
  | cons first tail =>
      rw [word] at leads
      obtain ⟨rfl, begins⟩ := List.cons_prefix_cons.mp leads
      exact ⟨tail, rfl, begins⟩

theorem ascii_word (c : UInt8) (ascii : c < 0x80) : ∃ char, Utf8.code.encode char = [c] := by
  have bound : c.toNat < 0x80 := UInt8.lt_iff_toNat_lt.mp ascii
  have value : c.toUInt32.toNat = c.toNat := UInt8.toNat_toUInt32 c
  refine ⟨⟨c.toUInt32, Or.inl (by rw [value]; omega)⟩, ?_⟩
  rw [Utf8.encode_ascii _ (by simp only [value]; omega), value, UInt8.ofNat_toNat]

/-- What a lead byte needs after it, for a word to begin there. -/
structure Completes (lead : LeadByte) (rest : ByteString) : Prop where
  room : lead.seqLen - 1 ≤ rest.length
  continuation : ∀ byte ∈ rest.take (lead.seqLen - 1), IsContinuation byte
  least : lead.minCp.toNat ≤ codePoint lead.cp.toNat (rest.take (lead.seqLen - 1))
  scalar : codePoint lead.cp.toNat (rest.take (lead.seqLen - 1)) < 0xD800 ∨
    0xDFFF < codePoint lead.cp.toNat (rest.take (lead.seqLen - 1)) ∧
      codePoint lead.cp.toNat (rest.take (lead.seqLen - 1)) < 0x110000

theorem Completes.word {c : UInt8} {lead : LeadByte} {rest : ByteString}
    (found : leadByte c = some lead) (completes : Completes lead rest) :
    ∃ char, Utf8.code.encode char = c :: rest.take (lead.seqLen - 1) := by
  generalize value : codePoint lead.cp.toNat (rest.take (lead.seqLen - 1)) = v at completes
  have scalar := completes.scalar
  have least := completes.least
  rw [value] at scalar least
  have bits : (UInt32.ofNat v).toNat = v := by
    rw [UInt32.toNat_ofNat']
    exact Nat.mod_eq_of_lt (by omega)
  have valid : (UInt32.ofNat v).isValidChar := by
    show (UInt32.ofNat v).toNat.isValidChar
    rw [bits]
    exact scalar
  refine ⟨⟨UInt32.ofNat v, valid⟩, encode_of_tail found ?_ completes.continuation ?_ ?_⟩
  · rw [List.length_take, Nat.min_eq_left completes.room]
  · rw [bits, value]
  · rw [bits]
    exact least

theorem completes_of_leads {char : Char} {c : UInt8} {lead : LeadByte} {rest : ByteString}
    (found : leadByte c = some lead) (long : 0x80 ≤ c.toNat)
    (leads : Utf8.code.encode char <+: c :: rest) : Completes lead rest := by
  obtain ⟨tail, word, begins⟩ := word_of_leads leads
  obtain ⟨other, known, width, continuation, value, least⟩ := tail_of_encode word long
  obtain rfl := Option.some.inj (found.symm.trans known)
  have taken : rest.take (lead.seqLen - 1) = tail := by
    rw [← width]
    exact (List.prefix_iff_eq_take.mp begins).symm
  refine ⟨?_, ?_, ?_, ?_⟩
  · rw [← width]
    exact begins.length_le
  · rw [taken]
    exact continuation
  · rw [taken, ← value]
    exact least
  · rw [taken, ← value]
    exact scalar_value char

theorem sanitizeLead_spec {input : ByteString} {i : Nat} {c : UInt8} {lead : LeadByte}
    (found : leadByte c = some lead) (inside : i < input.length) :
    (Completes lead (input.drop (i + 1)) →
      sanitizeLead input i lead = some ((input.drop i).take lead.seqLen, lead.seqLen)) ∧
    (¬Completes lead (input.drop (i + 1)) →
      sanitizeLead input i lead = some (replacementBytes, 1)) := by
  have facts := leadByte_cases found
  have remaining : (input.drop (i + 1)).length = input.length - (i + 1) := List.length_drop
  unfold sanitizeLead
  by_cases short : i + lead.seqLen > input.length
  · rw [if_pos short]
    refine ⟨fun completes => ?_, fun _ => rfl⟩
    have room := completes.room
    omega
  · have small : (lead.cp.toNat + 1) * 64 ^ (lead.seqLen - 1) ≤ 2 ^ 32 := by
      rcases facts with ⟨_, _, len, bits, _⟩ | ⟨_, _, len, bits, _⟩ | ⟨_, _, len, bits, _⟩
      all_goals
        rw [len, bits]
        omega
    obtain ⟨ok, cp, read, continues, value⟩ :=
      readContinuation_spec input (lead.seqLen - 1) (i + 1) lead.cp (by omega) small
    rw [if_neg short, read, Option.bind_eq_bind, Option.bind_some]
    have rejects : (!ok || cp < lead.minCp || cp > 0x10FFFF ||
        (cp ≥ 0xD800 && cp ≤ 0xDFFF)) = true ↔ ¬Completes lead (input.drop (i + 1)) := by
      cases ok with
      | false =>
          refine iff_of_true rfl fun completes => ?_
          exact Bool.false_ne_true (continues.mpr completes.continuation)
      | true =>
          have total := value rfl
          simp only [Bool.not_true, Bool.false_or, Bool.or_eq_true, Bool.and_eq_true,
            decide_eq_true_eq, UInt32.lt_iff_toNat_lt, UInt32.le_iff_toNat_le, ge_iff_le,
            gt_iff_lt, UInt32.reduceToNat]
          constructor
          · intro rejected completes
            have least := completes.least
            have scalar := completes.scalar
            rw [← total] at least scalar
            omega
          · intro broken
            by_contra kept
            refine broken ⟨by omega, continues.mp rfl, ?_, ?_⟩
            · rw [← total]
              omega
            · rw [← total]
              omega
    constructor
    · intro completes
      exact if_neg fun rejected => rejects.mp rejected completes
    · intro broken
      exact if_pos (rejects.mpr broken)

theorem sanitizeStep_spec (input : ByteString) (i : Nat) (inside : i < input.length) :
    (∃ char, Utf8.code.encode char <+: input.drop i ∧
      sanitizeStep input i =
        some (Utf8.code.encode char, (Utf8.code.encode char).length)) ∨
      ((∀ char, ¬Utf8.code.encode char <+: input.drop i) ∧
        sanitizeStep input i = some (replacementBytes, 1)) := by
  have head : input[i]? = some input[i] := List.getElem?_eq_getElem inside
  have shape : input.drop i = input[i] :: input.drop (i + 1) := List.drop_eq_getElem_cons inside
  generalize first : input[i] = c at head shape
  rw [sanitizeStep, head, Option.bind_eq_bind, Option.bind_some]
  by_cases ascii : c < 0x80
  · obtain ⟨char, word⟩ := ascii_word c ascii
    refine Or.inl ⟨char, ?_, ?_⟩
    · rw [word, shape]
      exact List.prefix_append [c] _
    · rw [if_pos ascii, word]
      rfl
  · have long : 0x80 ≤ c.toNat := Nat.le_of_not_lt fun less => ascii (UInt8.lt_iff_toNat_lt.mpr less)
    rw [if_neg ascii]
    cases found : leadByte c with
    | none =>
        refine Or.inr ⟨?_, rfl⟩
        intro char leads
        rw [shape] at leads
        obtain ⟨tail, word, _⟩ := word_of_leads leads
        obtain ⟨lead, known, _⟩ := tail_of_encode word long
        rw [found] at known
        cases known
    | some lead =>
        obtain ⟨accepts, rejects⟩ := sanitizeLead_spec found inside
        by_cases completes : Completes lead (input.drop (i + 1))
        · obtain ⟨char, word⟩ := completes.word found
          have size : lead.seqLen = lead.seqLen - 1 + 1 := by
            have facts := leadByte_cases found
            omega
          have taken : (input.drop i).take lead.seqLen = Utf8.code.encode char := by
            rw [word, shape, size, List.take_succ_cons, Nat.add_sub_cancel]
          have width : (Utf8.code.encode char).length = lead.seqLen := by
            rw [word, List.length_cons, List.length_take, Nat.min_eq_left completes.room, ← size]
          refine Or.inl ⟨char, ?_, ?_⟩
          · rw [← taken]
            exact List.take_prefix _ _
          · rw [width, ← taken]
            exact accepts completes
        · refine Or.inr ⟨?_, rejects completes⟩
          intro char leads
          rw [shape] at leads
          exact completes (completes_of_leads found long leads)

theorem sanitizeLoop_repairs (input : ByteString) (fuel : Nat) :
    ∀ i out, i ≤ input.length → input.length < i + fuel →
      ∃ clean, sanitizeLoop input fuel i out = some (out ++ clean) ∧
        Utf8.code.Repairs Utf8.replacementCharacter (input.drop i) clean := by
  induction fuel with
  | zero => intro i out bound enough; omega
  | succ fuel ih =>
      intro i out bound enough
      rw [sanitizeLoop]
      by_cases inside : i < input.length
      · rw [if_pos inside]
        rcases sanitizeStep_spec input i inside with ⟨char, leads, step⟩ | ⟨broken, step⟩
        · obtain ⟨rest, shape⟩ := leads
          have later : input.drop (i + (Utf8.code.encode char).length) = rest := by
            rw [← List.drop_drop, ← shape, List.drop_left]
          have width := Utf8.code.encode_length_pos char
          have total := congrArg List.length shape
          rw [List.length_append, List.length_drop] at total
          obtain ⟨clean, looped, repaired⟩ :=
            ih (i + (Utf8.code.encode char).length) (out ++ Utf8.code.encode char) (by omega)
              (by omega)
          refine ⟨Utf8.code.encode char ++ clean, ?_, ?_⟩
          · rw [step, Option.bind_eq_bind, Option.bind_some, ← List.append_assoc]
            exact looped
          · rw [← shape, ← later]
            exact .keep char repaired
        · have shape := List.drop_eq_getElem_cons inside
          obtain ⟨clean, looped, repaired⟩ := ih (i + 1) (out ++ replacementBytes) (by omega) (by omega)
          refine ⟨replacementBytes ++ clean, ?_, ?_⟩
          · rw [step, Option.bind_eq_bind, Option.bind_some, ← List.append_assoc]
            exact looped
          · rw [shape] at broken ⊢
            rw [replacementBytes, ← Utf8.encode_replacementCharacter]
            exact .replace broken repaired
      · refine ⟨[], ?_, ?_⟩
        · rw [if_neg inside, List.append_nil]
        · rw [List.drop_of_length_le (by omega)]
          exact .nil

theorem sanitizeUtf8_repairs (input : ByteString) :
    ∃ clean, sanitizeUtf8 input = some clean ∧
      Utf8.code.Repairs Utf8.replacementCharacter input clean := by
  obtain ⟨clean, looped, repaired⟩ :=
    sanitizeLoop_repairs input (input.length + 1) 0 [] (Nat.zero_le _) (by omega)
  exact ⟨clean, looped, repaired⟩

theorem sanitizeUtf8_eq_of_repairs {input clean : ByteString}
    (repaired : Utf8.code.Repairs Utf8.replacementCharacter input clean) :
    sanitizeUtf8 input = some clean := by
  obtain ⟨other, sanitized, also⟩ := sanitizeUtf8_repairs input
  rw [sanitized, repaired.unique also]

theorem sanitizeUtf8_of_wellFormed {text : ByteString} (formed : Utf8.code.WellFormed text) :
    sanitizeUtf8 text = some text := by
  obtain ⟨chars, rfl⟩ := formed
  have repaired : Utf8.code.Repairs Utf8.replacementCharacter
      (chars.flatMap Utf8.code.encode ++ []) (chars.flatMap Utf8.code.encode ++ []) :=
    .text _ chars .nil
  rw [List.append_nil] at repaired
  exact sanitizeUtf8_eq_of_repairs repaired

/-- The loop ends and never reads outside its input; the result is well-formed,
and it is the input where that was well-formed already. -/
theorem sanitizeUtf8_wellFormed (s : ByteString) :
    ∃ clean, sanitizeUtf8 s = some clean ∧ Utf8.code.WellFormed clean ∧
      (Utf8.code.WellFormed s → clean = s) ∧ sanitizeUtf8 clean = some clean := by
  obtain ⟨clean, sanitized, repaired⟩ := sanitizeUtf8_repairs s
  refine ⟨clean, sanitized, repaired.wellFormed, ?_,
    sanitizeUtf8_of_wellFormed repaired.wellFormed⟩
  intro formed
  exact Option.some.inj (sanitized.symm.trans (sanitizeUtf8_of_wellFormed formed))

example : sanitizeUtf8 [0x61, 0xFF, 0xFE, 0x80, 0x62, 0xE2, 0x82] =
    some ([0x61] ++ replacementBytes ++ replacementBytes ++ replacementBytes ++ [0x62] ++
      replacementBytes ++ replacementBytes) := by decide

theorem sanitizeUtf8_local (a b v : ByteString) (formed : Utf8.code.WellFormed v)
    (nonempty : v ≠ []) :
    ∃ cleanA cleanB, sanitizeUtf8 a = some cleanA ∧ sanitizeUtf8 b = some cleanB ∧
      sanitizeUtf8 (a ++ v ++ b) = some (cleanA ++ v ++ cleanB) := by
  obtain ⟨cleanA, sanitizedA, repairedA⟩ := sanitizeUtf8_repairs a
  obtain ⟨cleanB, sanitizedB, repairedB⟩ := sanitizeUtf8_repairs b
  refine ⟨cleanA, cleanB, sanitizedA, sanitizedB, sanitizeUtf8_eq_of_repairs ?_⟩
  rw [List.append_assoc, List.append_assoc]
  exact repairedA.around formed nonempty repairedB

theorem sanitizeUtf8_local_accent :
    Utf8.code.WellFormed [0xC3, 0xA9] ∧
      sanitizeUtf8 ([0xE2, 0x82] ++ [0xC3, 0xA9] ++ [0xBF]) =
        some (replacementBytes ++ replacementBytes ++ [0xC3, 0xA9] ++ replacementBytes) := by
  have formed : Utf8.code.WellFormed [0xC3, 0xA9] := ⟨['é'], by decide⟩
  obtain ⟨cleanA, cleanB, before, after, whole⟩ :=
    sanitizeUtf8_local [0xE2, 0x82] [0xBF] [0xC3, 0xA9] formed (by decide)
  have first : sanitizeUtf8 [0xE2, 0x82] = some (replacementBytes ++ replacementBytes) := by decide
  have last : sanitizeUtf8 [0xBF] = some replacementBytes := by decide
  obtain rfl := Option.some.inj (before.symm.trans first)
  obtain rfl := Option.some.inj (after.symm.trans last)
  exact ⟨formed, whole⟩

end EdgeHealthd
