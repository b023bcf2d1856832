import Criteria.Proofs.Comparing
import Criteria.Proofs.Readers

namespace Criteria

namespace Binary64

/-- The stored bits of the significand, and its leading bit where there is one. -/
def significand (x : Binary64) : Nat :=
  x.magnitude % 2 ^ 52 + if x.magnitude / 2 ^ 52 = 0 then 0 else 2 ^ 52

theorem significand_mod_two (x : Binary64) : x.significand % 2 = x.magnitude % 2 := by
  unfold significand
  split <;> omega

/-- No finite number is nearer, and one that is equally near leaves the even significand to this
one. -/
structure NearestTo (x : Binary64) (number : ℚ) : Prop where
  finite : x.isFinite = true
  le : ∀ y : Binary64, y.isFinite = true → |number - x.value| ≤ |number - y.value|
  even : ∀ y : Binary64, y.isFinite = true → y.value ≠ x.value →
    |number - y.value| = |number - x.value| → x.significand % 2 = 0

namespace NearestTo

variable {x y : Binary64} {number other : ℚ}

theorem value_le (nearest : x.NearestTo number) (also : y.NearestTo other) (lt : number < other) :
    x.value ≤ y.value := by
  by_contra above
  rw [not_le] at above
  have high := (abs_sub_high_le_iff above).mp (nearest.le y also.finite)
  have low := (abs_sub_low_le_iff above).mp (also.le x nearest.finite)
  linarith

end NearestTo

section

variable {magnitude : Nat} {size : ℚ}

theorem Nearest.le_add (nearest : Nearest magnitude size) (positive : 0 ≤ size) (other : Nat) :
    |size - unitsOf magnitude| ≤ |size + unitsOf other| := by
  have zero := nearest.le 0 infinity.zero_le
  have units : (0 : ℚ) ≤ unitsOf other := Nat.cast_nonneg _
  rw [unitsOf_zero, Nat.cast_zero, sub_zero, abs_of_nonneg positive] at zero
  rw [abs_of_nonneg (add_nonneg positive units)]
  linarith

/-- A number on the other side of zero is equally near only where it is the other zero. -/
theorem Nearest.unitsOf_eq_zero (nearest : Nearest magnitude size) (positive : 0 ≤ size)
    {other : Nat} (tie : |size + unitsOf other| = |size - unitsOf magnitude|) :
    unitsOf other = 0 := by
  have zero := nearest.le 0 infinity.zero_le
  have units : (0 : ℚ) ≤ unitsOf other := Nat.cast_nonneg _
  rw [unitsOf_zero, Nat.cast_zero, sub_zero, abs_of_nonneg positive, ← tie,
    abs_of_nonneg (add_nonneg positive units)] at zero
  exact_mod_cast le_antisymm (by linarith) units

end

section

variable {x y : Binary64} {number size : ℚ} {negative : Bool}

theorem abs_sub_value (number : ℚ) (x : Binary64) :
    |number - x.value| = |number * one - x.units| / one := by
  have positive := Sql.cast_one_pos
  rw [value, ← abs_of_pos positive, ← abs_div, abs_of_pos positive, sub_div,
    mul_div_cancel_right₀ _ positive.ne']

theorem abs_sub_units (signed : number * one = if negative then -size else size) :
    |number * one - y.units| =
      if y.negative = negative then |size - unitsOf y.magnitude|
      else |size + unitsOf y.magnitude| := by
  have mirrored (a : ℚ) : |-size + a| = |size + -a| := by
    rw [← abs_neg, neg_add, neg_neg]
  rw [signed, units]
  cases negative <;> cases y.negative <;> simp [mirrored, sub_eq_add_neg]

/-- Of the sizes on both sides of zero, the nearest is on the number's own side. -/
theorem nearestTo_of_nearest (signed : number * one = if x.negative then -size else size)
    (positive : 0 ≤ size) (finite : x.isFinite = true) (nearest : Nearest x.magnitude size) :
    x.NearestTo number := by
  have one := Sql.cast_one_pos
  have own : |number * Binary64.one - x.units| = |size - unitsOf x.magnitude| := by
    rw [abs_sub_units signed, if_pos rfl]
  refine ⟨finite, fun y finite' => ?_, fun y finite' distinct tie => ?_⟩
  · rw [abs_sub_value, abs_sub_value, own, abs_sub_units signed]
    refine div_le_div_of_nonneg_right ?_ one.le
    split
    · exact nearest.le _ (of_decide_eq_true finite').le
    · exact nearest.le_add positive _
  · rw [abs_sub_value, abs_sub_value, div_left_inj' one.ne', own, abs_sub_units signed] at tie
    have sizes {z : Binary64} (none : unitsOf z.magnitude = 0) : z.value = 0 := by
      have zero : z.units = 0 := by
        rw [units, none]
        split <;> rfl
      rw [value, zero, Int.cast_zero, zero_div]
    rw [significand_mod_two]
    split at tie
    case isTrue sign =>
      refine nearest.even y.magnitude (of_decide_eq_true finite').le (fun same => distinct ?_) tie
      rw [value, value, units, units, sign, same]
    case isFalse =>
      have none := nearest.unitsOf_eq_zero positive tie
      rw [none] at tie
      refine nearest.even 0 infinity.zero_le (fun same => distinct ?_) ?_
      · rw [sizes none, sizes (same ▸ unitsOf_zero)]
      · simpa [unitsOf_zero] using tie

end

theorem exists_unitsOf_eq {n : Nat} (small : n ≤ 2 ^ 53) :
    ∃ magnitude, unitsOf magnitude = n * one := by
  rcases Nat.eq_zero_or_pos n with rfl | positive
  · exact ⟨0, by rw [unitsOf_zero, Nat.zero_mul]⟩
  -- The leading bit moves to its place in the significand, and the exponent makes up for it.
  let up := 52 - n.log2
  have low : 2 ^ 52 ≤ n * 2 ^ up :=
    calc 2 ^ 52 ≤ 2 ^ n.log2 * 2 ^ up := by
          rw [← pow_add]
          exact Nat.pow_le_pow_right (by decide) (by omega)
      _ ≤ n * 2 ^ up := Nat.mul_le_mul_right _ (Nat.log2_self_le positive.ne')
  have high : n * 2 ^ up ≤ 2 ^ 53 := by
    rcases small.eq_or_lt with rfl | short
    · exact Nat.le_of_eq rfl
    have log : n.log2 < 53 := (Nat.log2_lt positive.ne').mpr short
    calc n * 2 ^ up ≤ 2 ^ (n.log2 + 1) * 2 ^ up := Nat.mul_le_mul_right _ Nat.lt_log2_self.le
      _ = 2 ^ 53 := by
          rw [← pow_add]
          congr 1
          omega
  refine ⟨(1074 - up) * 2 ^ 52 + n * 2 ^ up, ?_⟩
  rw [unitsOf_scaled high (.inr low), Nat.mul_assoc, ← pow_add, one_eq]
  congr 2
  omega

theorem exists_covers_integer {n : Nat} (small : n ≤ 2 ^ 63) :
    ∃ magnitude < infinity, Covers magnitude (n * one : ℚ) ∧ nearest (n * one) 1 = magnitude := by
  obtain ⟨magnitude, covers, rounded⟩ := exists_covers (n * one) Nat.one_pos
  rw [Nat.cast_one, div_one, Nat.cast_mul] at covers
  have finite : magnitude < infinity := by
    by_contra beyond
    have units : (unitsOf infinity : ℚ) ≤ unitsOf magnitude := cast_unitsOf_le (not_lt.mp beyond)
    have below : (0 : ℚ) ≤ unitsOf (magnitude - 1) := Nat.cast_nonneg _
    have twice : (unitsOf infinity : ℚ) ≤ (2 * n : Nat) * one := by
      push_cast
      linarith [covers.low]
    rw [unitsOf_infinity, Nat.cast_mul, mul_le_mul_iff_left₀ Sql.cast_one_pos, Nat.cast_le] at twice
    have short (exponent : Nat) (large : 64 < exponent) : 2 * n < 2 ^ exponent :=
      calc 2 * n ≤ 2 ^ 64 := by omega
        _ < 2 ^ exponent := Nat.pow_lt_pow_right (by decide) large
    exact twice.not_gt (short 1024 (by decide))
  exact ⟨magnitude, finite, covers, by rw [rounded, Nat.min_eq_left finite.le]⟩

theorem ofInt_sign_magnitude {n : Int} (small : n.natAbs ≤ 2 ^ 63) :
    (ofInt n).negative = decide (n < 0) ∧ (ofInt n).isFinite = true ∧
      Covers (ofInt n).magnitude (n.natAbs * one : ℚ) := by
  obtain ⟨magnitude, finite, covers, rounded⟩ := exists_covers_integer small
  have written : ofMagnitude (decide (n < 0)) magnitude = ofInt n := by rw [ofInt, rounded]
  obtain ⟨sign, size⟩ := (ofMagnitude_eq_iff (finite.trans infinity_lt)).mp written
  rw [isFinite, ← size]
  exact ⟨sign.symm, decide_eq_true finite, covers⟩

theorem mul_eq_signed (n : Int) (scale : ℚ) :
    n * scale = if decide (n < 0) then -(n.natAbs * scale) else n.natAbs * scale := by
  rw [Nat.cast_natAbs]
  rcases lt_or_ge n 0 with below | above
  · simp [below, abs_of_neg below]
  · simp [above.not_gt, abs_of_nonneg above]

theorem nearestTo_ofInt {n : Int} (small : n.natAbs ≤ 2 ^ 63) : (ofInt n).NearestTo n := by
  obtain ⟨sign, finite, covers⟩ := ofInt_sign_magnitude small
  have positive : (0 : ℚ) ≤ n.natAbs * one :=
    mul_nonneg (Nat.cast_nonneg _) Sql.cast_one_pos.le
  refine nearestTo_of_nearest ?_ positive finite covers.nearest
  rw [sign, mul_eq_signed]

theorem value_ofInt {n : Int} (small : n.natAbs ≤ 2 ^ 53) : (ofInt n).value = n := by
  have within : n.natAbs ≤ 2 ^ 63 := small.trans (by decide)
  obtain ⟨sign, -, covers⟩ := ofInt_sign_magnitude within
  obtain ⟨magnitude, exact⟩ := exists_unitsOf_eq small
  have also : Covers magnitude (n.natAbs * one : ℚ) := by
    have itself := covers_unitsOf magnitude
    rwa [exact, Nat.cast_mul] at itself
  rw [value, div_eq_iff Sql.cast_one_pos.ne', units, covers.unique also, sign, exact, mul_eq_signed]
  split
  · rw [Int.cast_neg, Int.cast_natCast, Nat.cast_mul]
  · rw [Int.cast_natCast, Nat.cast_mul]

theorem value_ofInt_le {m n : Int} (small : m.natAbs ≤ 2 ^ 63) (small' : n.natAbs ≤ 2 ^ 63)
    (le : m ≤ n) : (ofInt m).value ≤ (ofInt n).value := by
  rcases le.eq_or_lt with rfl | lt
  · exact le_rfl
  · exact (nearestTo_ofInt small).value_le (nearestTo_ofInt small') (Int.cast_lt.mpr lt)

theorem value_ofInt_pos {n : Int} (small : n.natAbs ≤ 2 ^ 63) (positive : 0 < n) :
    0 < (ofInt n).value :=
  calc (0 : ℚ) < (1 : Int) := by norm_num
    _ = (ofInt 1).value := (value_ofInt (by decide)).symm
    _ ≤ (ofInt n).value := value_ofInt_le (by decide) small positive

theorem value_ofInt_neg {n : Int} (small : n.natAbs ≤ 2 ^ 63) (negative : n < 0) :
    (ofInt n).value < 0 :=
  calc (ofInt n).value ≤ (ofInt (-1)).value := value_ofInt_le small (by decide) (by omega)
    _ = (-1 : Int) := value_ofInt (by decide)
    _ < 0 := by norm_num

end Binary64

theorem natAbs_toInt_le (n : Int64) : n.toInt.natAbs ≤ 2 ^ 63 := by
  have low := n.le_toInt
  have high := n.toInt_lt
  omega

theorem Row.real_of_leads {row : Row} {column : String} {n : Int64}
    (leads : row.Leads column (.integer n)) : row.real column = .ok (.ofInt n.toInt) := by
  rw [Row.real, Row.cell_of_get? (Row.get?_eq_some_iff.mpr leads)]
  rfl

/-- An integer is read as the finite number that is nearest to it, the one with the even significand
where two are equally near. Up to `2 ^ 53` that is the integer itself, and beyond it the order and
the sign are kept. The zero that is read is the positive one. -/
theorem Row.integer_read_as_nearest {row : Row} {column : String} {n : Int64}
    (leads : row.Leads column (.integer n)) :
    ∃ x, row.real column = .ok x ∧ x.NearestTo n.toInt ∧
      (n.toInt.natAbs ≤ 2 ^ 53 → x.value = n.toInt) ∧
      (x.negative = true ↔ n < 0) ∧ (n < 0 → x.value < 0) ∧ (0 < n → 0 < x.value) ∧
      (n = 0 → x.bits = 0) ∧
      ∀ (other : Row) (name : String) (m : Int64) (y : Binary64),
        other.Leads name (.integer m) → other.real name = .ok y → n ≤ m → x.value ≤ y.value := by
  have small (k : Int64) := natAbs_toInt_le k
  refine ⟨.ofInt n.toInt, real_of_leads leads, Binary64.nearestTo_ofInt (small n),
    Binary64.value_ofInt, ?_, fun below => ?_, fun above => ?_, ?_, ?_⟩
  · rw [(Binary64.ofInt_sign_magnitude (small n)).1, decide_eq_true_iff, Int64.lt_iff_toInt_lt]
    rfl
  · exact Binary64.value_ofInt_neg (small n) (Int64.lt_iff_toInt_lt.mp below)
  · exact Binary64.value_ofInt_pos (small n) (Int64.lt_iff_toInt_lt.mp above)
  · rintro rfl
    decide +kernel
  · intro other name m y there read le
    rw [real_of_leads there] at read
    cases read
    exact Binary64.value_ofInt_le (small n) (small m) (Int64.le_iff_toInt_le.mp le)

/-- Halfway between two reals, and beyond the last integer that is a real itself. -/
private def gauges : Row :=
  .ofPairs [("first", .integer 9007199254740993), ("second", .integer Int64.maxValue)]

theorem Row.integer_read_as_nearest_gauges :
    gauges.Leads "first" (.integer 9007199254740993) ∧
      gauges.Leads "second" (.integer Int64.maxValue) ∧
      ∃ x y, gauges.real "first" = .ok x ∧ gauges.real "second" = .ok y ∧
        x.NearestTo 9007199254740993 ∧ y.NearestTo 9223372036854775807 ∧
        x.bits = 0x4340000000000000 ∧ y.bits = 0x43e0000000000000 ∧ x.value ≤ y.value := by
  have first : gauges.Leads "first" (.integer 9007199254740993) := Row.get?_eq_some_iff.mp rfl
  have second : gauges.Leads "second" (.integer Int64.maxValue) := Row.get?_eq_some_iff.mp rfl
  obtain ⟨x, readFirst, nearFirst, -, -, -, -, -, ordered⟩ := Row.integer_read_as_nearest first
  obtain ⟨y, readSecond, nearSecond, -⟩ := Row.integer_read_as_nearest second
  refine ⟨first, second, x, y, readFirst, readSecond, nearFirst, nearSecond, ?_, ?_,
    ordered gauges "second" _ y second readSecond (by decide)⟩
  · rw [Row.real_of_leads first] at readFirst
    rw [← Except.ok.inj readFirst]
    decide +kernel
  · rw [Row.real_of_leads second] at readSecond
    rw [← Except.ok.inj readSecond]
    decide +kernel

end Criteria
