import Mathlib.Algebra.Order.Group.Defs
import Mathlib.Algebra.Order.Group.Int
import Mathlib.Data.List.Basic

/-!
A gate that keeps what it lets through apart. A reading passes when nothing has
passed before it, or when it is at least `gap` after the last one that passed.
The readings themselves may arrive in any order.
-/

namespace Spacing

variable {Time : Type*} [AddCommGroup Time] [LinearOrder Time]

def passes (gap : Time) (last : Option Time) (now : Time) : Bool :=
  last.all fun last => decide (last + gap ≤ now)

def passed (gap : Time) : Option Time → List Time → List Time
  | _, [] => []
  | last, now :: rest =>
      if passes gap last now then now :: passed gap (some now) rest else passed gap last rest

def Spaced (gap : Time) (times : List Time) : Prop :=
  times.Pairwise fun earlier later => earlier + gap ≤ later

theorem passed_cons (gap : Time) (last : Option Time) (now : Time) (rest : List Time) :
    passed gap last (now :: rest) =
      if passes gap last now then now :: passed gap (some now) rest else passed gap last rest := rfl

variable [IsOrderedAddMonoid Time]

theorem passed_after (gap : Time) (nonneg : 0 ≤ gap) (readings : List Time) :
    ∀ last, ∀ time ∈ passed gap (some last) readings, last + gap ≤ time := by
  induction readings with
  | nil => intro last time member; cases member
  | cons now rest ih =>
      intro last time member
      rw [passed_cons] at member
      split at member
      · rename_i through
        have apart : last + gap ≤ now := by simpa [passes] using through
        rcases List.mem_cons.mp member with rfl | later
        · exact apart
        · calc last + gap ≤ now := apart
            _ ≤ now + gap := le_add_of_nonneg_right nonneg
            _ ≤ time := ih now time later
      · exact ih last time member

theorem passed_spaced (gap : Time) (nonneg : 0 ≤ gap) (readings : List Time) :
    ∀ last, Spaced gap (passed gap last readings) := by
  induction readings with
  | nil => intro last; exact List.Pairwise.nil
  | cons now rest ih =>
      intro last
      rw [passed_cons]
      split
      · exact List.Pairwise.cons (passed_after gap nonneg rest now) (ih (some now))
      · exact ih last

theorem Spaced.lt {gap : Time} {times : List Time} (spaced : Spaced gap times)
    (positive : 0 < gap) : times.Pairwise fun earlier later => earlier < later := by
  refine List.Pairwise.imp ?_ spaced
  intro earlier later apart
  exact lt_of_lt_of_le (lt_add_of_pos_right earlier positive) apart

theorem Spaced.nsmul_le {gap : Time} {times : List Time} (spaced : Spaced gap times)
    {upper : Time} : ∀ lower, lower ≤ upper + gap →
    (∀ time ∈ times, lower ≤ time ∧ time ≤ upper) →
    lower + times.length • gap ≤ upper + gap := by
  induction spaced with
  | nil =>
      intro lower room _
      simpa using room
  | @cons time times apart _ ih =>
      intro lower _ within
      have first := within time List.mem_cons_self
      have rest : time + gap + times.length • gap ≤ upper + gap := by
        apply ih (time + gap)
        · exact add_le_add_left first.2 gap
        · intro later member
          exact ⟨apart later member, (within later (List.mem_cons_of_mem _ member)).2⟩
      calc lower + (times.length + 1) • gap = lower + gap + times.length • gap := by
            rw [add_nsmul, one_nsmul, add_comm (times.length • gap), add_assoc]
        _ ≤ time + gap + times.length • gap := by
            gcongr
            exact first.1
        _ ≤ upper + gap := rest

theorem Spaced.window_count {gap : Int} {times : List Int} (spaced : Spaced gap times)
    (positive : 0 < gap) (lower width : Int) (nonneg : 0 ≤ width) :
    ((times.filter fun time => lower ≤ time ∧ time ≤ lower + width).length : Int) ≤
      width / gap + 1 := by
  have room : lower ≤ lower + width + gap := by omega
  have inside : Spaced gap (times.filter fun time => lower ≤ time ∧ time ≤ lower + width) :=
    spaced.filter _
  have bound := inside.nsmul_le lower room fun time member => by
    simpa using (List.mem_filter.mp member).2
  rw [Int.nsmul_eq_mul] at bound
  have slots : width / gap + 1 = (width + 1 * gap) / gap :=
    (Int.add_mul_ediv_right width 1 positive.ne').symm
  rw [slots, Int.le_ediv_iff_mul_le positive]
  omega

end Spacing
