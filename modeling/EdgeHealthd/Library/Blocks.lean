import Mathlib.Algebra.Group.Nat.Defs
import Mathlib.Data.List.Basic
import Mathlib.Tactic.Ring

/-!
Blocks of addresses given by their first bits. An address is a list of bytes, read as a
number with the first byte as the highest; a block has the addresses of the same length
whose numbers agree above the bits that are left free.
-/

namespace Blocks

def number (bytes : List UInt8) : Nat :=
  bytes.foldl (fun value byte => value * 256 + byte.toNat) 0

theorem foldl_number (bytes : List UInt8) (start : Nat) :
    bytes.foldl (fun value byte => value * 256 + byte.toNat) start =
      start * 256 ^ bytes.length + number bytes := by
  induction bytes generalizing start with
  | nil => simp [number]
  | cons byte rest ih =>
      have front := ih byte.toNat
      simp only [number, List.foldl_cons, List.length_cons, Nat.zero_mul, Nat.zero_add] at front ⊢
      rw [ih, front]
      unfold number
      ring

theorem number_append (front back : List UInt8) :
    number (front ++ back) = number front * 256 ^ back.length + number back := by
  rw [number, List.foldl_append, foldl_number]
  rfl

theorem number_cons (byte : UInt8) (rest : List UInt8) :
    number (byte :: rest) = byte.toNat * 256 ^ rest.length + number rest := by
  rw [← List.singleton_append, number_append]
  simp [number]

theorem number_lt (bytes : List UInt8) : number bytes < 256 ^ bytes.length := by
  induction bytes with
  | nil => decide
  | cons byte rest ih =>
      have small : byte.toNat ≤ 255 := by
        have bound := byte.toNat_lt
        omega
      have most := Nat.mul_le_mul_right (256 ^ rest.length) small
      rw [number_cons, List.length_cons, Nat.pow_succ]
      omega

theorem number_append_div (front back : List UInt8) :
    number (front ++ back) / 256 ^ back.length = number front := by
  have positive : 0 < 256 ^ back.length := Nat.pow_pos (by decide)
  rw [number_append, Nat.mul_comm, Nat.mul_add_div positive, Nat.div_eq_of_lt (number_lt back),
    Nat.add_zero]

theorem number_inj {first second : List UInt8} (length : first.length = second.length)
    (same : number first = number second) : first = second := by
  induction first generalizing second with
  | nil => exact (List.length_eq_zero_iff.mp length.symm).symm
  | cons byte rest ih =>
      cases second with
      | nil => cases length
      | cons other later =>
          have shorter : rest.length = later.length := Nat.succ.inj length
          have lead := number_append_div [byte] rest
          have otherLead := number_append_div [other] later
          rw [List.singleton_append] at lead otherLead
          rw [same, shorter, otherLead] at lead
          have equal : byte = other := by
            apply UInt8.toNat_inj.mp
            simpa [number] using lead.symm
          subst equal
          rw [number_cons, number_cons, shorter] at same
          rw [ih shorter (Nat.add_left_cancel same)]

structure Block where
  base : List UInt8
  bits : Nat

def Block.Contains (block : Block) (address : List UInt8) : Prop :=
  address.length = block.base.length ∧
    number address / 2 ^ (8 * block.base.length - block.bits) =
      number block.base / 2 ^ (8 * block.base.length - block.bits)

instance (block : Block) (address : List UInt8) : Decidable (block.Contains address) :=
  inferInstanceAs (Decidable (_ ∧ _))

theorem number_div (address : List UInt8) (lead free : Nat) :
    number address / 2 ^ (8 * (address.length - lead) + free) =
      number (address.take lead) / 2 ^ free := by
  have whole := number_append_div (address.take lead) (address.drop lead)
  rw [List.take_append_drop, List.length_drop] at whole
  have weight : 256 ^ (address.length - lead) = 2 ^ (8 * (address.length - lead)) := by
    rw [Nat.pow_mul]
  rw [Nat.pow_add, ← Nat.div_div_eq_div_mul, ← weight, whole]

theorem Block.contains_iff (block : Block) (address : List UInt8) (lead free : Nat)
    (inside : lead ≤ block.base.length) (bits : block.bits + free = 8 * lead) :
    block.Contains address ↔ address.length = block.base.length ∧
      number (address.take lead) / 2 ^ free = number (block.base.take lead) / 2 ^ free := by
  have left : 8 * block.base.length - block.bits = 8 * (block.base.length - lead) + free := by
    omega
  unfold Block.Contains
  rw [left, number_div]
  constructor
  · rintro ⟨length, same⟩
    rw [← length, number_div] at same
    exact ⟨length, same⟩
  · rintro ⟨length, same⟩
    refine ⟨length, ?_⟩
    rw [← length, number_div]
    exact same

end Blocks
