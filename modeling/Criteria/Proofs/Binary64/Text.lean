import Criteria.Binary64.Digits

namespace Criteria.Binary64

def isNumeral (c : Char) : Bool :=
  c.isDigit || c == '.' || c == 'e' || c == '-'

theorem isNumeral_of_isDigit {c : Char} (digit : c.isDigit = true) : isNumeral c = true := by
  simp [isNumeral, digit]

theorem isNumeral_of_mem_toString {n : Int} {c : Char} (member : c ∈ (toString n).toList) :
    isNumeral c = true := by
  have digit (size : Nat) (among : c ∈ Nat.toDigits 10 size) : isNumeral c = true :=
    isNumeral_of_isDigit (Nat.isDigit_of_mem_toDigits (by decide) (by decide) among)
  rw [Int.toString_eq_repr, Int.repr_eq_if] at member
  split at member
  · exact digit _ (by simpa using member)
  · simp only [String.toList_append, List.mem_append, Nat.toList_repr] at member
    rcases member with sign | among
    · obtain rfl : c = '-' := by simpa using sign
      rfl
    · exact digit _ among

theorem isDigit_of_mem_shortest {magnitude : Nat} {c : Char}
    (member : c ∈ (shortest magnitude).digits) : c.isDigit = true := by
  simp only [shortest, List.mem_reverse] at member
  have among := (List.dropWhile_sublist _).mem member
  exact Nat.isDigit_of_mem_toDigits (by decide) (by decide) (List.mem_reverse.mp among)

theorem Digits.isNumeral_of_mem_text {d : Digits} (digits : ∀ c ∈ d.digits, c.isDigit = true)
    {c : Char} (member : c ∈ d.text) : isNumeral c = true := by
  have digit (among : c ∈ d.digits) : isNumeral c = true := isNumeral_of_isDigit (digits c among)
  have zero (count : Nat) (among : c ∈ List.replicate count '0') : isNumeral c = true := by
    rw [List.eq_of_mem_replicate among]
    rfl
  have fraction (whole : Nat) (among : c ∈ if (d.digits.drop whole).isEmpty then ['0']
      else d.digits.drop whole) : isNumeral c = true := by
    split at among
    · exact zero 1 among
    · exact digit (List.mem_of_mem_drop among)
  unfold Digits.text at member
  split at member
  · split at member
    · simp only [List.mem_append] at member
      rcases member with (opening | zeros) | among
      · have opened : "0.".toList.all isNumeral = true := by decide
        exact List.all_eq_true.mp opened c opening
      · exact zero _ zeros
      · exact digit among
    · simp only [List.mem_append, List.mem_cons] at member
      rcases member with (among | zeros) | rfl | among
      · exact digit (List.mem_of_mem_take among)
      · exact zero _ zeros
      · rfl
      · exact fraction _ among
  · rw [List.append_assoc, List.mem_append, List.cons_append, List.mem_cons, List.mem_append] at member
    rcases member with among | rfl | among | mark
    · exact digit (List.mem_of_mem_take among)
    · rfl
    · exact fraction 1 among
    · rcases List.mem_cons.mp mark with rfl | among
      · rfl
      · exact isNumeral_of_mem_toString among

theorem isNumeral_of_mem_text {x : Binary64} (finite : x.isFinite = true) {c : Char}
    (member : c ∈ x.text.toList) : isNumeral c = true := by
  have number : x.isNaN = false := by
    simp only [isFinite, isNaN, decide_eq_true_eq, decide_eq_false_iff_not] at finite ⊢
    omega
  have size (among : c ∈ if x.isZero then "0.0".toList else (shortest x.magnitude).text) :
      isNumeral c = true := by
    split at among
    · have zero : "0.0".toList.all isNumeral = true := by decide
      exact List.all_eq_true.mp zero c among
    · exact Digits.isNumeral_of_mem_text (fun _ => isDigit_of_mem_shortest) among
  simp only [text, number, finite, if_true, Bool.false_eq_true, if_false,
    String.toList_ofList] at member
  split at member
  · rcases List.mem_cons.mp member with rfl | among
    · rfl
    · exact size among
  · exact size member

/-- The texts of what is not a finite number. -/
def unreadable : List String :=
  ["NaN.0", "inf.0", "-inf.0"]

theorem not_mem_unreadable {text : String} (numerals : ∀ c ∈ text.toList, isNumeral c = true) :
    text ∉ unreadable := by
  intro written
  have letters : ∀ word ∈ unreadable, word.toList.all isNumeral = false := by decide
  have digits := List.all_eq_true.mpr numerals
  simp [letters text written] at digits

theorem text_mem_unreadable_iff (x : Binary64) : x.text ∈ unreadable ↔ x.isFinite = false := by
  constructor
  · intro written
    cases finite : x.isFinite with
    | false => rfl
    | true =>
        exact absurd written (not_mem_unreadable fun _ => isNumeral_of_mem_text finite)
  · intro infinite
    have positive : 0 < infinity := by decide
    have nonzero : x.isZero = false := by
      simp only [isFinite, isZero, decide_eq_false_iff_not] at infinite ⊢
      omega
    unfold text
    split
    · simp [unreadable]
    · simp only [nonzero, infinite, Bool.false_eq_true, if_false]
      cases x.negative <;> decide

end Criteria.Binary64
