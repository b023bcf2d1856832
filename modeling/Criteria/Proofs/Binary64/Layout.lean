import Criteria.Binary64.Digits
import Criteria.Proofs.Sql.Decimals
import Mathlib.Algebra.Group.Nat.Defs

namespace Criteria.Binary64

open Sql (IsDigits)

def wholePart (digits : List Char) (places : Nat) : List Char :=
  digits.take places ++ List.replicate (places - digits.length) '0'

def fractionPart (digits : List Char) (places : Nat) : List Char :=
  if (digits.drop places).isEmpty then ['0'] else digits.drop places

theorem isDigit_of_mem_replicate {count : Nat} {c : Char} (member : c ∈ List.replicate count '0') :
    c.isDigit = true := by
  rw [List.eq_of_mem_replicate member]
  rfl

section

variable {digits : List Char} {places : Nat}

theorem isDigits_wholePart (digital : IsDigits digits) (positive : 0 < places) :
    IsDigits (wholePart digits places) where
  filled := by
    have filled := List.length_pos_iff.mpr digital.filled
    rw [← List.length_pos_iff, wholePart, List.length_append, List.length_take]
    omega
  all c member := by
    rcases List.mem_append.mp member with taken | zero
    · exact digital.all c (List.mem_of_mem_take taken)
    · exact isDigit_of_mem_replicate zero

theorem isDigits_fractionPart (digital : IsDigits digits) :
    IsDigits (fractionPart digits places) := by
  unfold fractionPart
  split
  case isTrue => exact Sql.isDigits_zero
  case isFalse filled =>
    exact ⟨by simpa using filled, fun c member => digital.all c (List.mem_of_mem_drop member)⟩

/-- Both sides of the point together are the digits and the zeros that were filled in. -/
theorem exists_wholePart_append (digits : List Char) (places : Nat) : ∃ zeros,
    wholePart digits places ++ fractionPart digits places =
        digits ++ List.replicate zeros '0' ∧
      places + (fractionPart digits places).length = digits.length + zeros := by
  unfold wholePart fractionPart
  rcases Nat.lt_or_ge places digits.length with inside | beyond
  · refine ⟨0, ?_, ?_⟩
    · simp [List.drop_eq_nil_iff, Nat.not_le.mpr inside,
        Nat.sub_eq_zero_of_le (Nat.le_of_lt inside)]
    · simp [List.drop_eq_nil_iff, Nat.not_le.mpr inside]
      omega
  · refine ⟨places - digits.length + 1, ?_, ?_⟩
    · simp [List.drop_eq_nil_iff, beyond, List.take_of_length_le beyond, List.replicate_succ']
    · simp [List.drop_eq_nil_iff, beyond]
      omega

end

theorem value_append_replicate (digits : List Char) (zeros : Nat) :
    Sql.Numeral.value (digits ++ List.replicate zeros '0') =
      Sql.Numeral.value digits * 10 ^ zeros := by
  rw [Sql.Numeral.value, Sql.Numeral.value, Nat.ofDigitChars_append,
    Nat.ofDigitChars_replicate_zero, Nat.mul_comm]

/-- The decimal is that of the digits, with a number of zeros behind them that its exponent makes up
for. -/
structure Digits.WrittenAs (d : Digits) (written : Sql.Decimal) : Prop where
  text : written.text = Sql.Decimal.sign written.negative ++ d.text
  value : ∃ zeros : Nat,
    written.numeral.coefficient = Sql.Numeral.value d.digits * 10 ^ zeros ∧
      written.numeral.exponent + zeros = d.exponent + 1 - d.digits.length

namespace Digits

variable {d : Digits}

section

variable (digital : IsDigits d.digits) (negative : Bool)

/-- All digits stand behind the point. -/
def behindPoint (zeros : Nat) : Sql.Decimal where
  negative := negative
  whole := ['0']
  fraction := List.replicate zeros '0' ++ d.digits
  exponent := none
  wholeDigits := Sql.isDigits_zero
  fractionDigits :=
    { filled := List.append_ne_nil_of_right_ne_nil _ digital.filled
      all := fun c member =>
        (List.mem_append.mp member).elim isDigit_of_mem_replicate (digital.all c) }
  exponentDigits := Sql.isDigits_of_mem_none

/-- The point stands behind a number of places, and an exponent may follow. -/
def aroundPoint {places : Nat} (positive : 0 < places) (exponent : Option (Bool × List Char))
    (exponentDigits : ∀ mark ∈ exponent, IsDigits mark.2) : Sql.Decimal where
  negative := negative
  whole := wholePart d.digits places
  fraction := fractionPart d.digits places
  exponent := exponent
  wholeDigits := isDigits_wholePart digital positive
  fractionDigits := isDigits_fractionPart digital
  exponentDigits := exponentDigits

end

section

variable (digital : IsDigits d.digits) {negative : Bool}

theorem writtenAs_behindPoint (positional : isPositional d.exponent = true)
    (small : d.exponent < 0) :
    d.WrittenAs (behindPoint digital negative (-d.exponent - 1).toNat) where
  text := by
    simp [behindPoint, Sql.Decimal.text, Sql.Decimal.markText, text, positional, small]
  value := by
    refine ⟨0, ?_, ?_⟩
    · simp [behindPoint, Sql.Decimal.numeral, Sql.Numeral.value, Nat.ofDigitChars_append,
        Nat.ofDigitChars_cons, Nat.ofDigitChars_replicate_zero]
    · simp [behindPoint, Sql.Decimal.numeral, Sql.Decimal.power]
      omega

theorem value_aroundPoint {places : Nat} (positive : 0 < places)
    {exponent : Option (Bool × List Char)} {marked : ∀ mark ∈ exponent, IsDigits mark.2}
    (moved : Sql.Decimal.power exponent + places = d.exponent + 1) : ∃ zeros : Nat,
    (aroundPoint digital negative positive exponent marked).numeral.coefficient =
        Sql.Numeral.value d.digits * 10 ^ zeros ∧
      (aroundPoint digital negative positive exponent marked).numeral.exponent + zeros =
        d.exponent + 1 - d.digits.length := by
  obtain ⟨zeros, joined, lengths⟩ := exists_wholePart_append d.digits places
  refine ⟨zeros, ?_, ?_⟩
  · rw [← value_append_replicate, ← joined]
    rfl
  · simp only [aroundPoint, Sql.Decimal.numeral]
    omega

theorem writtenAs_positional (positional : isPositional d.exponent = true)
    (large : 0 ≤ d.exponent) :
    d.WrittenAs (aroundPoint digital negative (Nat.succ_pos d.exponent.toNat) none
      Sql.isDigits_of_mem_none) where
  text := by
    simp [aroundPoint, wholePart, fractionPart, Sql.Decimal.text, Sql.Decimal.markText, text,
      positional, Int.not_lt.mpr large]
  value := value_aroundPoint digital _ (by simp [Sql.Decimal.power]; omega)

theorem writtenAs_scientific (scientific : isPositional d.exponent = false) :
    d.WrittenAs (aroundPoint digital negative Nat.one_pos
      (some (d.exponent < 0, Nat.toDigits 10 d.exponent.natAbs))
      (by rintro _ ⟨⟩; exact Sql.isDigits_toDigits _)) where
  text := by
    have filled := List.length_pos_iff.mpr digital.filled
    have power := Sql.Numeral.toList_toString d.exponent
    rw [Int.toString_eq_repr] at power
    simp [aroundPoint, wholePart, fractionPart, Sql.Decimal.text, Sql.Decimal.markText, text,
      scientific, power, Sql.Decimal.sign, Nat.sub_eq_zero_of_le filled]
  value := by
    refine value_aroundPoint digital _ ?_
    have read : Sql.Numeral.value (Nat.toDigits 10 d.exponent.natAbs) = d.exponent.natAbs :=
      Nat.ofDigitChars_ten_toDigits
    simp only [Sql.Decimal.power, read, decide_eq_true_eq]
    split <;> omega

end

theorem exists_writtenAs (digital : IsDigits d.digits) (negative : Bool) :
    ∃ written : Sql.Decimal, written.negative = negative ∧ d.WrittenAs written := by
  cases layout : isPositional d.exponent with
  | false => exact ⟨_, rfl, writtenAs_scientific digital layout⟩
  | true =>
      by_cases small : d.exponent < 0
      · exact ⟨_, rfl, writtenAs_behindPoint digital layout small⟩
      · exact ⟨_, rfl, writtenAs_positional digital layout (Int.not_lt.mp small)⟩

end Digits

end Criteria.Binary64
