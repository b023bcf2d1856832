import Criteria.Proofs.Binary64.Layout
import Criteria.Proofs.Binary64.Text
import Criteria.Proofs.Sql.Rounding
import Criteria.Scalar

namespace Criteria

open Sql (Decimal Numeral IsDigits)

/-- The significant digits of a numeral, without zeros at either end. -/
def Sql.Numeral.significantDigits (n : Numeral) : Nat :=
  (Binary64.significant n.coefficient).length

namespace Binary64

/-- The decimal rounds to the number and has no more significant digits than any numeral that
does. -/
structure IsShortest (x : Binary64) (n : Numeral) : Prop where
  rounds : n.RoundsTo x
  fewest : ∀ other : Numeral, other.RoundsTo x → n.significantDigits ≤ other.significantDigits

section

variable {magnitude : Nat} {written : Decimal}

theorem isDigits_shortest (nonzero : magnitude ≠ 0) : IsDigits (shortest magnitude).digits where
  filled := by
    have covers := (shortestFrom_spec magnitude (coarsest magnitude)).2.1
    refine significant_ne_nil fun none => ?_
    have positive := covers.pos nonzero
    rw [coarsest, none] at positive
    simp [placed] at positive
  all _ member := isDigit_of_mem_shortest member

theorem digits_shortest : (shortest magnitude).digits =
    significant (shortestFrom magnitude (coarsest magnitude)).1 :=
  rfl

theorem exponent_shortest : (shortest magnitude).exponent =
    ((Nat.toDigits 10 (shortestFrom magnitude (coarsest magnitude)).1).length +
      (shortestFrom magnitude (coarsest magnitude)).2 : Nat) - 1 - (decimalPlaces : Int) :=
  rfl

/-- The layout of the shortest digits denotes what was found for them. -/
theorem units_of_writtenAs_shortest (writes : (shortest magnitude).WrittenAs written) :
    written.numeral.units = placed (shortestFrom magnitude (coarsest magnitude)).1
        (shortestFrom magnitude (coarsest magnitude)).2 ∧
      significant written.numeral.coefficient =
        significant (shortestFrom magnitude (coarsest magnitude)).1 := by
  obtain ⟨filled, coefficient, exponent⟩ := writes.value
  rw [digits_shortest, Numeral.value] at coefficient
  rw [digits_shortest, exponent_shortest] at exponent
  generalize shortestFrom magnitude (coarsest magnitude) = found at coefficient exponent ⊢
  obtain ⟨zeros, value, length, -⟩ := exists_eq_mul_ten_pow found.1
  rw [length] at exponent
  generalize Nat.ofDigitChars 10 (significant found.1) 0 = whole at coefficient value
  constructor
  · rw [Numeral.units_eq, coefficient, placed_mul_ten_pow, value, placed_mul_ten_pow]
    congr 1
    omega
  · rw [coefficient, value, significant_mul_ten_pow, significant_mul_ten_pow]

end

theorem isShortest_of_writtenAs {x : Binary64} (finite : x.isFinite = true)
    (nonzero : x.magnitude ≠ 0) {written : Decimal} (sign : written.negative = x.negative)
    (writes : (shortest x.magnitude).WrittenAs written) : IsShortest x written.numeral := by
  obtain ⟨units, digits⟩ := units_of_writtenAs_shortest writes
  have covers := (shortestFrom_spec x.magnitude (coarsest x.magnitude)).2.1
  refine ⟨⟨sign, ?_⟩, fun other rounds => ?_⟩
  · rw [units]
    exact covers.nearest
  · have also := rounds.covers finite
    rw [Numeral.units_eq] at also
    rw [Numeral.significantDigits, digits]
    exact length_significant_shortestFrom_le nonzero also

/-- The decimal of a zero. -/
def zero (negative : Bool) : Decimal where
  negative := negative
  whole := ['0']
  fraction := ['0']
  exponent := none
  wholeDigits := Sql.isDigits_zero
  fractionDigits := Sql.isDigits_zero
  exponentDigits := Sql.isDigits_of_mem_none

theorem isShortest_zero {x : Binary64} (zero' : x.magnitude = 0) :
    IsShortest x (zero x.negative).numeral := by
  have coefficient : (zero x.negative).numeral.coefficient = 0 := rfl
  refine ⟨⟨rfl, ?_⟩, fun other _ => ?_⟩
  · have units : (zero x.negative).numeral.units = unitsOf 0 := by
      rw [Numeral.units, coefficient, unitsOf_zero, Nat.cast_zero, zero_mul, zero_mul]
    rw [zero', units]
    exact (covers_unitsOf 0).nearest
  · rw [Numeral.significantDigits, coefficient, significant_zero]
    exact Nat.zero_le _

theorem toList_text {x : Binary64} (finite : x.isFinite = true) :
    x.text.toList = Decimal.sign x.negative ++
      if x.magnitude = 0 then "0.0".toList else (shortest x.magnitude).text := by
  have number : x.isNaN = false := by
    simp only [isFinite, isNaN, decide_eq_true_eq, decide_eq_false_iff_not] at finite ⊢
    omega
  simp only [text, number, finite, isZero, Decimal.sign, decide_eq_true_eq, if_true,
    Bool.false_eq_true, if_false, String.toList_ofList]
  cases x.negative <;> rfl

theorem exists_decimal {x : Binary64} (finite : x.isFinite = true) :
    ∃ written : Decimal, x.text.toList = written.text ∧ written.negative = x.negative ∧
      IsShortest x written.numeral := by
  rw [toList_text finite]
  by_cases zero' : x.magnitude = 0
  · rw [if_pos zero']
    exact ⟨zero x.negative, rfl, rfl, isShortest_zero zero'⟩
  · rw [if_neg zero']
    obtain ⟨written, sign, writes⟩ := Digits.exists_writtenAs (isDigits_shortest zero') x.negative
    exact ⟨written, by rw [writes.text, sign], sign,
      isShortest_of_writtenAs finite zero' sign writes⟩

theorem ofText?_text {x : Binary64} (finite : x.isFinite = true) :
    ∃ n, Numeral.ofText? x.text.toList = some n ∧ n.isWhole = false ∧ n.toBinary64 = x := by
  obtain ⟨written, text, -, shortest⟩ := exists_decimal finite
  exact ⟨written.numeral, by rw [text, written.ofText?_text], rfl,
    (written.numeral.toBinary64_eq_iff finite).mpr shortest.rounds⟩

theorem eq_of_text_eq {x y : Binary64} (finite : x.isFinite = true) (same : y.text = x.text) :
    y = x := by
  have finite' : y.isFinite = true := by
    by_contra infinite
    have unreadable := (text_mem_unreadable_iff y).mpr (Bool.eq_false_of_not_eq_true infinite)
    rw [same, text_mem_unreadable_iff, finite] at unreadable
    cases unreadable
  obtain ⟨n, read, -, number⟩ := ofText?_text finite
  obtain ⟨n', read', -, number'⟩ := ofText?_text finite'
  rw [same, read] at read'
  cases read'
  exact number'.symm.trans number

end Binary64

theorem Sql.Decimal.head?_text_iff (d : Sql.Decimal) :
    d.text.head? = some '-' ↔ d.negative = true := by
  obtain ⟨c, rest, whole⟩ := List.exists_cons_of_ne_nil d.wholeDigits.filled
  have digit := d.wholeDigits.all c (whole ▸ List.mem_cons_self)
  have unsigned : c ≠ '-' := by
    rintro rfl
    exact absurd digit (by decide)
  cases negative : d.negative <;>
    simp [Sql.Decimal.text, Sql.Decimal.sign, negative, whole, unsigned]

namespace Scalar

/-- The canonical text of a finite number is a decimal with a point between digits, led by a minus
exactly where the number's sign is set. It rounds back to the number, is read as it, and has no
more significant digits than any numeral that rounds to it. No other number is written so. -/
theorem canonical_float_roundTrips {x : Binary64} (finite : x.isFinite = true) :
    ∃ written : Decimal,
      (float x).canonical.toList = written.text ∧
      ((float x).canonical.toList.head? = some '-' ↔ x.negative = true) ∧
      written.numeral.RoundsTo x ∧
      (∀ other : Numeral, other.RoundsTo x →
        written.numeral.significantDigits ≤ other.significantDigits) ∧
      Numeral.ofText? (float x).canonical.toList = some written.numeral ∧
      written.numeral.toBinary64 = x ∧
      ∀ y, (float y).canonical = (float x).canonical → y = x := by
  obtain ⟨written, text, sign, shortest⟩ := Binary64.exists_decimal finite
  refine ⟨written, text, ?_, shortest.rounds, shortest.fewest, ?_,
    (written.numeral.toBinary64_eq_iff finite).mpr shortest.rounds,
    fun y => Binary64.eq_of_text_eq finite⟩
  · rw [← sign, ← written.head?_text_iff, ← text]
    rfl
  · rw [← written.ofText?_text, ← text]
    rfl

/-- The negative number that is next to zero. -/
private def least : Binary64 :=
  ⟨0x8000000000000001⟩

theorem canonical_float_roundTrips_least :
    least.isFinite = true ∧ ∃ written : Decimal,
      (float least).canonical.toList = written.text ∧
      ((float least).canonical.toList.head? = some '-' ↔ least.negative = true) ∧
      written.numeral.RoundsTo least ∧
      (∀ other : Numeral, other.RoundsTo least →
        written.numeral.significantDigits ≤ other.significantDigits) ∧
      Numeral.ofText? (float least).canonical.toList = some written.numeral ∧
      written.numeral.toBinary64 = least ∧
      ∀ y, (float y).canonical = (float least).canonical → y = least := by
  have finite : least.isFinite = true := by decide
  exact ⟨finite, canonical_float_roundTrips finite⟩

end Scalar

end Criteria
