import Criteria.Proofs.Sql.Values

namespace Criteria.Sql

structure IsDigits (digits : List Char) : Prop where
  filled : digits ≠ []
  all : ∀ c ∈ digits, c.isDigit = true

/-- The form is `-?D.D`, or `-?D.De-?D` where an exponent is written. -/
structure Decimal where
  negative : Bool
  whole : List Char
  fraction : List Char
  /-- Its sign and its digits. -/
  exponent : Option (Bool × List Char)
  wholeDigits : IsDigits whole
  fractionDigits : IsDigits fraction
  exponentDigits : ∀ mark ∈ exponent, IsDigits mark.2

theorem isDigits_toDigits (n : Nat) : IsDigits (Nat.toDigits 10 n) where
  filled := Nat.toDigits_ne_nil
  all _ member := Nat.isDigit_of_mem_toDigits (by decide) (by decide) member

theorem isDigits_zero : IsDigits ['0'] where
  filled := List.cons_ne_nil _ _
  all c member := by
    rw [List.mem_singleton.mp member]
    rfl

theorem isDigits_of_mem_none :
    ∀ mark ∈ (none : Option (Bool × List Char)), IsDigits mark.2 :=
  nofun

namespace Decimal

def sign (negative : Bool) : List Char :=
  if negative then ['-'] else []

def markText : Option (Bool × List Char) → List Char
  | none => []
  | some (negative, digits) => 'e' :: (sign negative ++ digits)

def text (d : Decimal) : List Char :=
  sign d.negative ++ (d.whole ++ '.' :: (d.fraction ++ markText d.exponent))

def power : Option (Bool × List Char) → Int
  | none => 0
  | some (negative, digits) =>
      if negative then -(Numeral.value digits : Int) else Numeral.value digits

def numeral (d : Decimal) : Numeral where
  negative := d.negative
  coefficient := Numeral.value (d.whole ++ d.fraction)
  exponent := power d.exponent - d.fraction.length
  isWhole := false

theorem readSign_sign (negative : Bool) {digits : List Char} (digital : IsDigits digits)
    (rest : List Char) :
    Numeral.readSign (sign negative ++ (digits ++ rest)) = (negative, digits ++ rest) := by
  obtain ⟨c, tail, rfl⟩ := List.exists_cons_of_ne_nil digital.filled
  cases negative with
  | true => rfl
  | false => exact Numeral.readSign_digit (tail ++ rest) (digital.all c List.mem_cons_self)

theorem dropWhile_isBlank_sign (negative : Bool) {digits : List Char} (digital : IsDigits digits)
    (rest : List Char) :
    (sign negative ++ (digits ++ rest)).dropWhile Numeral.isBlank =
      sign negative ++ (digits ++ rest) := by
  obtain ⟨c, tail, rfl⟩ := List.exists_cons_of_ne_nil digital.filled
  cases negative with
  | true => rfl
  | false =>
      have shown := Numeral.isBlank_digit (digital.all c List.mem_cons_self)
      exact List.dropWhile_cons_of_neg (by simp [shown])

theorem readExponent?_markText {mark : Option (Bool × List Char)}
    (digital : ∀ written ∈ mark, IsDigits written.2) :
    ∃ exponent, Numeral.readExponent? (markText mark) = some (exponent, []) ∧
      exponent.getD 0 = power mark := by
  rcases mark with _ | ⟨negative, digits⟩
  · exact ⟨none, rfl, rfl⟩
  · have digits' := digital _ rfl
    have signed := readSign_sign negative digits' []
    have read := Numeral.readDigits_of_all_isDigit digits'.all
    rw [List.append_nil] at signed
    refine ⟨some (power (some (negative, digits))), ?_, rfl⟩
    simp [markText, Numeral.readExponent?, signed, read, digits'.filled, power]

theorem head?_markText_not_isDigit (mark : Option (Bool × List Char)) :
    ∀ c ∈ (markText mark).head?, c.isDigit = false := by
  rcases mark with _ | ⟨negative, digits⟩
  · simp [markText]
  · rintro c ⟨⟩
    decide

theorem ofText?_text (d : Decimal) : Numeral.ofText? d.text = some d.numeral := by
  have signed := readSign_sign d.negative d.wholeDigits ('.' :: (d.fraction ++ markText d.exponent))
  have unblank :=
    dropWhile_isBlank_sign d.negative d.wholeDigits ('.' :: (d.fraction ++ markText d.exponent))
  have whole : Numeral.readDigits (d.whole ++ '.' :: (d.fraction ++ markText d.exponent)) =
      (d.whole, '.' :: (d.fraction ++ markText d.exponent)) :=
    Numeral.readDigits_append d.wholeDigits.all (by rintro c ⟨⟩; decide)
  have fraction := Numeral.readDigits_append d.fractionDigits.all
    (head?_markText_not_isDigit d.exponent)
  obtain ⟨exponent, marked, power⟩ := readExponent?_markText d.exponentDigits
  simp [Numeral.ofText?, text, unblank, signed, whole, Numeral.readFraction, fraction, marked,
    power, d.wholeDigits.filled, numeral]

end Decimal

end Criteria.Sql
