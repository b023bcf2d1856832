import Criteria.Binary64.Digits
import Criteria.Proofs.Binary64.Sizes

namespace Criteria.Binary64

variable {x y : Binary64}

theorem eq_of_magnitude (signs : x.negative = y.negative) (sizes : x.magnitude = y.magnitude) :
    x = y := by
  have bits : x.bits.toNat = y.bits.toNat := by
    have below := x.bits.toNat_lt
    have alsoBelow := y.bits.toNat_lt
    simp only [negative, magnitude, Nat.pow_eq, decide_eq_decide] at signs sizes
    omega
  cases x
  cases y
  exact congrArg mk (UInt64.toNat_inj.mp bits)

theorem magnitude_of_isZero (zero : x.isZero = true) : x.magnitude = 0 := by
  simpa [isZero] using zero

theorem isNaN_of_isZero (zero : x.isZero = true) : x.isNaN = false := by
  simp [isNaN, magnitude_of_isZero zero]

theorem text_of_isZero (zero : x.isZero = true) :
    x.text = if x.negative then "-0.0" else "0.0" := by
  cases sign : x.negative <;> simp [text, isNaN_of_isZero zero, zero, sign]

structure OppositeZeros (x y : Binary64) : Prop where
  left : x.isZero = true
  right : y.isZero = true
  signs : x.negative ≠ y.negative

theorem eq_or_oppositeZeros_of_units (sizes : x.units = y.units) : x = y ∨ x.OppositeZeros y := by
  by_cases signs : x.negative = y.negative
  · have equal : unitsOf x.magnitude = unitsOf y.magnitude := by
      simp only [units, signs] at sizes
      split at sizes <;> omega
    exact .inl (eq_of_magnitude signs (strictMono_unitsOf.injective equal))
  · -- One size is not above zero and the other not below.
    have empty : unitsOf x.magnitude = 0 ∧ unitsOf y.magnitude = 0 := by
      simp only [units] at sizes
      cases left : x.negative <;> cases right : y.negative <;>
        simp [left, right] at signs sizes <;> omega
    have zero {z : Binary64} (none : unitsOf z.magnitude = 0) : z.isZero = true := by
      simpa [isZero] using strictMono_unitsOf.injective (none.trans unitsOf_zero.symm)
    exact .inr ⟨zero empty.1, zero empty.2, signs⟩

def unsigned (x : Binary64) : Binary64 :=
  if x.isZero then ⟨0⟩ else x

theorem units_unsigned (x : Binary64) : x.unsigned.units = x.units := by
  unfold unsigned
  split
  case isTrue zero =>
    have none : x.units = 0 := by simp [units, magnitude_of_isZero zero, unitsOf_zero]
    rw [none]
    rfl
  case isFalse => rfl

theorem isNaN_unsigned (x : Binary64) : x.unsigned.isNaN = x.isNaN := by
  unfold unsigned
  split
  case isTrue zero =>
    rw [isNaN_of_isZero zero]
    rfl
  case isFalse => rfl

theorem unsigned_eq_iff : x.unsigned = y.unsigned ↔ x = y ∨ x.OppositeZeros y := by
  constructor
  · intro equal
    apply eq_or_oppositeZeros_of_units
    rw [← units_unsigned x, equal, units_unsigned y]
  · rintro (rfl | zeros)
    · rfl
    · rw [unsigned, unsigned, if_pos zeros.left, if_pos zeros.right]

theorem units_eq_iff : x.units = y.units ↔ x.unsigned = y.unsigned := by
  constructor
  · intro sizes
    exact unsigned_eq_iff.mpr (eq_or_oppositeZeros_of_units sizes)
  · intro equal
    rw [← units_unsigned x, equal, units_unsigned y]

/-- Numbers are equal where they are the same up to the sign of a zero. -/
theorem same_iff : x.same y = true ↔ x.isNaN = false ∧ x.unsigned = y.unsigned := by
  simp only [same, Bool.and_eq_true, Bool.not_eq_true', beq_iff_eq, units_eq_iff]
  constructor
  · rintro ⟨⟨number, _⟩, equal⟩
    exact ⟨number, equal⟩
  · rintro ⟨number, equal⟩
    refine ⟨⟨number, ?_⟩, equal⟩
    rw [← isNaN_unsigned y, ← equal, isNaN_unsigned x, number]

end Criteria.Binary64
