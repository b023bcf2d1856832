import Criteria.CommandLine.Setting
import Criteria.Proofs.Sql.Values

namespace Criteria.CommandLine

open Criteria.Sql (Numeral.toList_toString)

theorem readNat?_toDigits (n : Nat) : readNat? (Nat.toDigits 10 n) = some n := by
  have digits : (Nat.toDigits 10 n).all Char.isDigit = true :=
    List.all_eq_true.mpr fun c member =>
      Nat.isDigit_of_mem_toDigits (by decide) (by decide) member
  have value : Nat.ofDigitChars 10 (Nat.toDigits 10 n) 0 = n := Nat.ofDigitChars_ten_toDigits
  have filled : (Nat.toDigits 10 n).isEmpty = false :=
    List.isEmpty_eq_false_iff.mpr Nat.toDigits_ne_nil
  rw [readNat?, if_neg (by simp [digits, filled]), value]

/-- A digit comes first. -/
theorem exists_toDigits (n : Nat) :
    ∃ c rest, Nat.toDigits 10 n = c :: rest ∧ c.isDigit = true := by
  obtain ⟨c, rest, written⟩ := List.exists_cons_of_ne_nil (@Nat.toDigits_ne_nil n 10)
  have member : c ∈ Nat.toDigits 10 n := by simp [written]
  exact ⟨c, rest, written, Nat.isDigit_of_mem_toDigits (by decide) (by decide) member⟩

theorem ne_sign_of_isDigit {c : Char} (digit : c.isDigit = true) : c ≠ '-' ∧ c ≠ '+' := by
  constructor <;> rintro rfl <;> exact absurd digit (by decide)

theorem readInt?_toString (n : Int) : readInt? (toString n).toList = some n := by
  rw [Sql.Numeral.toList_toString]
  split
  case isTrue below =>
    rw [List.singleton_append, readInt?, readNat?_toDigits]
    exact congrArg some (show -(n.natAbs : Int) = n by omega)
  case isFalse above =>
    obtain ⟨c, rest, written, digit⟩ := exists_toDigits n.natAbs
    obtain ⟨minus, plus⟩ := ne_sign_of_isDigit digit
    have read := readNat?_toDigits n.natAbs
    rw [List.nil_append]
    rw [written] at read ⊢
    rw [readInt?, read]
    · exact congrArg some (show (n.natAbs : Int) = n by omega)
    · rintro _ ⟨⟩
      exact minus rfl
    · rintro _ ⟨⟩
      exact plus rfl

theorem readInteger?_toString (n : Int64) : readInteger? (toString n.toInt) = some n := by
  rw [readInteger?, readInt?_toString]
  exact (if_pos ⟨n.minValue_le_toInt, n.toInt_le⟩).trans (congrArg some (Int64.ofInt_toInt n))

theorem readCount?_toString (n : UInt64) : readCount? (toString n.toNat) = some n := by
  obtain ⟨c, rest, written, digit⟩ := exists_toDigits n.toNat
  have plus := (ne_sign_of_isDigit digit).2
  have read := readNat?_toDigits n.toNat
  have unsigned : ∀ digits, c :: rest = '+' :: digits → False := by
    rintro _ ⟨⟩
    exact plus rfl
  rw [readCount?, Nat.toString_eq_repr, Nat.toList_repr]
  rw [written] at read ⊢
  simp only [read]
  exact (if_pos n.toNat_lt).trans (congrArg some n.ofNat_toNat)

namespace Setting

/-- What stands for the setting behind the name of its option. A flag is its name alone. -/
def text? : Setting → Option String
  | text s => some s
  | integer n => some (toString n.toInt)
  | count n => some (toString n.toNat)
  | flag => none

end Setting

/-- A slot of the kind can have the setting. -/
inductive Kind.Takes : Kind → Setting → Prop
  | path {s : String} (named : s ≠ "") : Takes .path (.text s)
  | text (s : String) : Takes .text (.text s)
  | integer (n : Int64) : Takes .integer (.integer n)
  | count (n : UInt64) : Takes .count (.count n)
  | flag : Takes .flag .flag

theorem Kind.Takes.read {kind : Kind} {setting : Setting} (takes : kind.Takes setting) :
    Setting.read kind (setting.text?.getD "") = .ok setting := by
  cases takes with
  | path named => exact if_neg (by simpa [Setting.text?] using named)
  | text s => rfl
  | integer n => simp only [Setting.text?, Option.getD_some, Setting.read, readInteger?_toString]
  | count n => simp only [Setting.text?, Option.getD_some, Setting.read, readCount?_toString]
  | flag => rfl

end Criteria.CommandLine
