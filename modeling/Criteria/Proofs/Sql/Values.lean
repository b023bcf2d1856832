import Criteria.Sql.Affinity

namespace Criteria.Sql

theorem Numeral.readDigits_append {digits rest : List Char}
    (all : ∀ c ∈ digits, c.isDigit = true) (stops : ∀ c ∈ rest.head?, c.isDigit = false) :
    readDigits (digits ++ rest) = (digits, rest) := by
  have ends : rest.takeWhile Char.isDigit = [] ∧ rest.dropWhile Char.isDigit = rest := by
    cases rest with
    | nil => exact ⟨rfl, rfl⟩
    | cons c rest => simp [stops c rfl]
  rw [readDigits, List.takeWhile_append_of_pos all, List.dropWhile_append_of_pos all, ends.1,
    ends.2, List.append_nil]

theorem Numeral.readDigits_of_all_isDigit {digits : List Char}
    (all : ∀ c ∈ digits, c.isDigit = true) : readDigits digits = (digits, []) := by
  simpa using @readDigits_append digits [] all (by simp)

theorem Numeral.readSign_digit {c : Char} (rest : List Char) (digit : c.isDigit = true) :
    readSign (c :: rest) = (false, c :: rest) := by
  have unsigned : c ≠ '-' ∧ c ≠ '+' := by
    constructor <;> rintro rfl <;> exact absurd digit (by decide)
  simp [readSign, unsigned]

theorem Numeral.isBlank_digit {c : Char} (digit : c.isDigit = true) : isBlank c = false := by
  simp only [Char.isDigit, Bool.and_eq_true, decide_eq_true_eq, ge_iff_le,
    UInt32.le_iff_toNat_le] at digit
  have low : 48 ≤ c.toNat := digit.1
  have space : c ≠ ' ' := by
    rintro rfl
    exact absurd low (by decide)
  have control : ¬ c ≤ '\r' := by
    rw [Char.le_def, UInt32.le_iff_toNat_le]
    have high : '\r'.val.toNat = 13 := rfl
    have same : c.val.toNat = c.toNat := rfl
    omega
  simp [isBlank, space, control]

theorem Numeral.readSign_of_isDigit {c : Char} (rest : List Char) (digit : c.isDigit = true) :
    readSign ((c :: rest).dropWhile isBlank) = (false, c :: rest) := by
  rw [List.dropWhile_cons_of_neg (by simp [isBlank_digit digit]), readSign_digit rest digit]

theorem Numeral.ofText?_toDigits (negative : Bool) (n : Nat) :
    ofText? ((if negative then ['-'] else []) ++ Nat.toDigits 10 n) =
      some ⟨negative, n, 0, true⟩ := by
  have digits : ∀ c ∈ Nat.toDigits 10 n, c.isDigit = true := fun c member =>
    Nat.isDigit_of_mem_toDigits (by decide) (by decide) member
  have read := readDigits_of_all_isDigit digits
  have signed :
      readSign (((if negative then ['-'] else []) ++ Nat.toDigits 10 n).dropWhile isBlank) =
      (negative, Nat.toDigits 10 n) := by
    cases negative with
    | true => rfl
    | false =>
        cases written : Nat.toDigits 10 n with
        | nil => exact absurd written Nat.toDigits_ne_nil
        | cons c rest => exact readSign_of_isDigit rest (digits c (by simp [written]))
  have value : value (Nat.toDigits 10 n) = n := Nat.ofDigitChars_ten_toDigits
  simp [ofText?, signed, read, readFraction, readExponent?, value, Nat.toDigits_ne_nil]

theorem Numeral.toList_toString (n : Int) :
    (toString n).toList = (if n < 0 then ['-'] else []) ++ Nat.toDigits 10 n.natAbs := by
  rw [Int.toString_eq_repr, Int.repr_eq_if]
  split
  · rename_i positive
    have size : n.toNat = n.natAbs := by omega
    simp [Int.not_lt.mpr positive, size]
  · rename_i negative
    have size : (-n).toNat = n.natAbs := by omega
    simp [Int.not_le.mp negative, size]

theorem Numeral.ofText?_toString (n : Int) :
    ofText? (toString n).toList = some ⟨n < 0, n.natAbs, 0, true⟩ := by
  rw [toList_toString]
  simpa using ofText?_toDigits (n < 0) n.natAbs

namespace Datum

@[simp] theorem fromUTF8?_toByteArray (s : String) :
    String.fromUTF8? s.toByteArray = some s := by
  rw [String.fromUTF8?, dif_pos s.isValidUTF8]
  rfl

@[simp] theorem cell_ofString (s : String) : (ofString s).cell = .text s := by
  simp [ofString, cell]

theorem ofString_ne_null (s : String) : ofString s ≠ null := by
  simp [ofString]

theorem order_ofString_eq (s t : String) : (ofString s).order (ofString t) = .eq ↔ s = t := by
  simp [order, ofString, rank, units, Datum.bytes, ByteArray.ext_iff, ← String.toByteArray_inj]

theorem related_ofString (s t : String) :
    related .eq (ofString s) (ofString t) = .ofBool (s = t) := by
  have holds : Relation.eq.holds ((ofString s).order (ofString t)) = decide (s = t) := by
    rw [Bool.eq_iff_iff, decide_eq_true_iff, Relation.holds, Ordering.isEq_iff_eq_eq,
      order_ofString_eq]
  rw [related, if_neg (by simp [ofString_ne_null]), holds]

theorem compare_mul (a b : Int) {scale : Int} (positive : 0 < scale) :
    compare (a * scale) (b * scale) = compare a b := by
  have less : a * scale < b * scale ↔ a < b := Int.mul_lt_mul_right positive
  have same : a * scale = b * scale ↔ a = b := Int.mul_eq_mul_right_iff (by omega)
  simp only [compare, compareOfLessAndEq, less, same]

theorem order_integer (m n : Int64) :
    (integer m).order (integer n) = compare m.toInt n.toInt := by
  have positive : (0 : Int) < Binary64.one := by
    apply Int.natCast_pos.mpr
    unfold Binary64.one
    apply Nat.two_pow_pos
  have same : (integer m).bytes = (integer n).bytes := rfl
  rw [order, same, Std.ReflOrd.compare_self, Ordering.then_eq]
  show (Ordering.eq).then (compare (m.toInt * _) (n.toInt * _)) = _
  rw [compare_mul _ _ positive]
  rfl

theorem related_integer (relation : Relation) (m n : Int64) :
    related relation (integer m) (integer n) =
      .ofBool (relation.holds (compare m.toInt n.toInt)) := by
  rw [related, if_neg (by simp), order_integer]

theorem related_eq_integer (m n : Int64) :
    related .eq (integer m) (integer n) = .ofBool (m = n) := by
  have holds : Relation.eq.holds (compare m.toInt n.toInt) = decide (m = n) := by
    rw [Bool.eq_iff_iff, decide_eq_true_iff, ← Int64.toInt_inj, Relation.holds,
      Ordering.isEq_iff_eq_eq, Std.compare_eq_iff_eq]
  rw [related_integer, holds]

theorem related_ge_integer (m n : Int64) :
    related .ge (integer m) (integer n) = .ofBool (n ≤ m) := by
  have holds : Relation.ge.holds (compare m.toInt n.toInt) = decide (n ≤ m) := by
    rw [Bool.eq_iff_iff, decide_eq_true_iff, Int64.le_iff_toInt_le, ← Std.isGE_compare]
    rfl
  rw [related_integer, holds]

theorem toNumber_ofString_toString (n : Int64) :
    (ofString (toString n.toInt)).toNumber = integer n := by
  simp only [ofString, toNumber, String.toUTF8_eq_toByteArray, fromUTF8?_toByteArray,
    Option.bind_some,
    Numeral.ofText?_toString]
  have whole : (Numeral.mk (n.toInt < 0) n.toInt.natAbs 0 true).toInt = n.toInt := by
    simp only [Numeral.toInt, decide_eq_true_eq]
    split <;> omega
  rw [ofNumeral, if_pos, whole, Int64.ofInt_toInt]
  rw [whole]
  exact ⟨rfl, n.minValue_le_toInt, n.toInt_le⟩

end Datum

end Criteria.Sql
