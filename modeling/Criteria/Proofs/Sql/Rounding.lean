import Criteria.Proofs.Binary64.Shortest
import Criteria.Proofs.Sql.Decimals

namespace Criteria

namespace Binary64

section

variable {x : Binary64} {negative : Bool} {magnitude : Nat}

theorem ofMagnitude_eq_iff (small : magnitude < 2 ^ 63) :
    ofMagnitude negative magnitude = x ↔ negative = x.negative ∧ magnitude = x.magnitude := by
  obtain ⟨bits⟩ := x
  have range := bits.toNat_lt
  have written : (if negative then Nat.pow 2 63 + magnitude else magnitude) < 2 ^ 64 := by
    rw [Nat.pow_eq]
    split <;> omega
  have sign : negative = (mk bits).negative ↔ (negative = true ↔ 2 ^ 63 ≤ bits.toNat) := by
    rw [Bool.eq_iff_iff, Binary64.negative, decide_eq_true_iff, Nat.pow_eq]
  rw [ofMagnitude, mk.injEq, ← UInt64.toNat_inj, UInt64.toNat_ofNat_of_lt' written, sign,
    Binary64.magnitude, Nat.pow_eq]
  cases negative <;> simp <;> omega

end

theorem nearest_le_infinity (numerator denominator : Nat) :
    nearest numerator denominator ≤ infinity :=
  Nat.min_le_right _ _

theorem infinity_lt : infinity < 2 ^ 63 := by
  decide

theorem two_pow_le_ten_pow {twos tens : Nat} (le : twos ≤ 3 * tens) : 2 ^ twos ≤ 10 ^ tens :=
  calc 2 ^ twos ≤ 2 ^ (3 * tens) := Nat.pow_le_pow_right (by decide) le
    _ = (2 ^ 3) ^ tens := pow_mul 2 3 tens
    _ ≤ 10 ^ tens := Nat.pow_le_pow_left (by decide) tens

section

variable {coefficient : Nat} {exponent : Int}

theorem nearest_of_tiny (tiny : exponent + (Nat.toDigits 10 coefficient).length < -decimalReach) :
    nearest (coefficient * 10 ^ exponent.toNat * one) (10 ^ (-exponent).toNat) = 0 := by
  rw [decimalReach] at tiny
  have whole : exponent.toNat = 0 := by omega
  have short : coefficient < 10 ^ (Nat.toDigits 10 coefficient).length :=
    (Nat.length_toDigits_le_iff (by decide) Nat.length_toDigits_pos).mp (Nat.le_refl _)
  generalize (Nat.toDigits 10 coefficient).length = length at tiny short
  refine nearest_of_twice_le (Nat.pow_pos (by decide)) ?_
  calc 2 * (coefficient * 10 ^ exponent.toNat * one) = coefficient * 2 ^ (1074 + 1) := by
        rw [whole, pow_zero, Nat.mul_one, one_eq, pow_succ 2 1074, Nat.mul_left_comm,
          Nat.mul_comm 2]
    _ ≤ 10 ^ length * 10 ^ 401 := Nat.mul_le_mul short.le (two_pow_le_ten_pow (by decide))
    _ = 10 ^ (length + 401) := (pow_add 10 length 401).symm
    _ ≤ 10 ^ (-exponent).toNat := Nat.pow_le_pow_right (by decide) (by omega)

theorem nearest_of_huge (nonzero : coefficient ≠ 0) (huge : decimalReach < exponent) :
    nearest (coefficient * 10 ^ exponent.toNat * one) (10 ^ (-exponent).toNat) = infinity := by
  rw [decimalReach] at huge
  have whole : (-exponent).toNat = 0 := by omega
  rw [whole]
  refine nearest_of_infinity_le Nat.one_pos ?_
  calc unitsOf infinity * 10 ^ 0 = 2 ^ 1024 * one := by rw [unitsOf_infinity, pow_zero, mul_one]
    _ ≤ 10 ^ exponent.toNat * one :=
      Nat.mul_le_mul_right one (two_pow_le_ten_pow (by omega))
    _ ≤ coefficient * 10 ^ exponent.toNat * one :=
      Nat.mul_le_mul_right one (Nat.le_mul_of_pos_left _ (Nat.pos_of_ne_zero nonzero))

theorem ofDecimal_eq (negative : Bool) (coefficient : Nat) (exponent : Int) :
    ofDecimal negative coefficient exponent = ofMagnitude negative
      (nearest (coefficient * 10 ^ exponent.toNat * one) (10 ^ (-exponent).toNat)) := by
  have denominator : 0 < 10 ^ (-exponent).toNat := Nat.pow_pos (by decide)
  simp only [ofDecimal, Nat.pow_eq]
  split
  case isTrue vanishes =>
    rcases vanishes with rfl | tiny
    · rw [nearest_of_twice_le denominator (by simp)]
    · rw [nearest_of_tiny tiny]
  case isFalse known =>
    rw [not_or] at known
    split
    case isTrue huge => rw [nearest_of_huge known.1 huge]
    case isFalse => rfl

theorem placed_eq (coefficient : Nat) (exponent : Int) :
    placed coefficient (exponent + decimalPlaces) = coefficient * 10 ^ exponent * one := by
  have step : (one : ℚ) = 10 ^ decimalPlaces / 5 ^ decimalPlaces := by
    have two : (10 : ℚ) / 5 = 2 := by norm_num
    rw [← div_pow, two, one_eq, decimalPlaces, Nat.cast_pow, Nat.cast_ofNat]
  rw [placed, zpow_add₀ (by norm_num), zpow_natCast, step]
  ring

/-- The ratio that a decimal is rounded as. -/
theorem ratio_eq (coefficient : Nat) (exponent : Int) :
    ((coefficient * 10 ^ exponent.toNat * one : Nat) : ℚ) / (10 ^ (-exponent).toNat : Nat) =
      coefficient * 10 ^ exponent * one := by
  have power : (10 : ℚ) ^ exponent = 10 ^ exponent.toNat / 10 ^ (-exponent).toNat := by
    rw [← zpow_natCast, ← zpow_natCast, ← zpow_sub₀ (by norm_num)]
    congr 1
    omega
  rw [power]
  push_cast
  ring

end

end Binary64

namespace Sql.Numeral

open Binary64

/-- Its size in units. -/
def units (n : Numeral) : ℚ :=
  n.coefficient * 10 ^ n.exponent * one

/-- The number is nearest to what the numeral denotes, a tie going to the even one, and the zeros
are told apart by their sign. -/
structure RoundsTo (n : Numeral) (x : Binary64) : Prop where
  sign : n.negative = x.negative
  nearest : Nearest x.magnitude n.units

theorem units_eq (n : Numeral) : n.units = placed n.coefficient (n.exponent + decimalPlaces) :=
  (placed_eq n.coefficient n.exponent).symm

theorem RoundsTo.covers {n : Numeral} {x : Binary64} (rounds : n.RoundsTo x)
    (finite : x.isFinite = true) : Covers x.magnitude n.units := by
  refine rounds.nearest.covers (of_decide_eq_true finite) ?_
  unfold units
  positivity

/-- What a numeral is read as is what it rounds to. -/
theorem toBinary64_eq_iff (n : Numeral) {x : Binary64} (finite : x.isFinite = true) :
    n.toBinary64 = x ↔ n.RoundsTo x := by
  have magnitude : x.magnitude < infinity := of_decide_eq_true finite
  have denominator : 0 < 10 ^ (-n.exponent).toNat := Nat.pow_pos (by decide)
  have small := (nearest_le_infinity (n.coefficient * 10 ^ n.exponent.toNat * one)
    (10 ^ (-n.exponent).toNat)).trans_lt infinity_lt
  rw [toBinary64, ofDecimal_eq, ofMagnitude_eq_iff small, nearest_eq_iff denominator magnitude,
    ratio_eq]
  exact ⟨fun ⟨sign, covers⟩ => ⟨sign, covers.nearest⟩,
    fun rounds => ⟨rounds.sign, rounds.covers finite⟩⟩

end Sql.Numeral

end Criteria
