import Mathlib.Algebra.Order.Ring.Int
import Cloud3D.List.Least

/-!
# Unsigned numbers compared as signed ones

A `UInt32` keeps its bits when it is converted to an `Int32`. The order is kept among
numbers with the same highest bit; a number with that bit becomes smaller than every
number without it. `least_iff` says what this means for choosing a least element.
-/

namespace Signed

theorem toInt_toInt32 (x : UInt32) :
    x.toInt32.toInt = if x.toNat < 2 ^ 31 then (x.toNat : Int) else x.toNat - 2 ^ 32 := by
  have signed : x.toInt32.toInt = x.toBitVec.toInt := rfl
  have unsigned : x.toBitVec.toNat = x.toNat := rfl
  rw [signed, BitVec.toInt_eq_toNat_cond, unsigned]
  split <;> split <;> omega

theorem toInt32_le_iff {x y : UInt32} (alike : x.toNat < 2 ^ 31 ↔ y.toNat < 2 ^ 31) :
    x.toInt32 ≤ y.toInt32 ↔ x ≤ y := by
  rw [Int32.le_iff_toInt_le, toInt_toInt32, toInt_toInt32, UInt32.le_iff_toNat_le]
  split <;> split <;> omega

theorem toInt32_lt {x y : UInt32} (large : 2 ^ 31 ≤ x.toNat) (small : y.toNat < 2 ^ 31) :
    x.toInt32 < y.toInt32 := by
  have bound := x.toNat_lt
  rw [Int32.lt_iff_toInt_lt, toInt_toInt32, toInt_toInt32, if_neg (by omega), if_pos small]
  omega

universe u

variable {α : Type u}

/-- The elements which are least after the conversion are least before it exactly when
the keys are all in the lower half or all in the upper half of the range. -/
theorem least_iff (key : α → UInt32) {xs : List α} (nonempty : xs ≠ []) :
    (∀ x ∈ xs, (∀ y ∈ xs, (key x).toInt32 ≤ (key y).toInt32) → ∀ y ∈ xs, key x ≤ key y) ↔
      (∀ x ∈ xs, (key x).toNat < 2 ^ 31) ∨ (∀ x ∈ xs, 2 ^ 31 ≤ (key x).toNat) := by
  constructor
  · intro least
    by_contra mixed
    simp only [not_or, not_forall, Nat.not_lt, Nat.not_le] at mixed
    obtain ⟨⟨large, inside, above⟩, ⟨small, inside', below⟩⟩ := mixed
    obtain ⟨x, member, minimal⟩ :=
      Least.exists_least (fun x => (key x).toInt32.toInt) nonempty
    -- the signed minimum is in the upper half, so it exceeds the small key
    have upper : 2 ^ 31 ≤ (key x).toNat := by
      by_contra lower
      have undercut := Int32.lt_iff_toInt_lt.mp (toInt32_lt above (Nat.lt_of_not_le lower))
      have atMost := minimal large inside
      omega
    have order := least x member (fun y other => Int32.le_iff_toInt_le.mpr (minimal y other))
      small inside'
    have unsigned := UInt32.le_iff_toNat_le.mp order
    omega
  · rintro (lower | upper) x member minimal y other
    · apply (toInt32_le_iff _).mp (minimal y other)
      exact iff_of_true (lower x member) (lower y other)
    · apply (toInt32_le_iff _).mp (minimal y other)
      have first := upper x member
      have second := upper y other
      omega

end Signed
