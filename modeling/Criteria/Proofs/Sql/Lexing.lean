import Criteria.Sql.Token

namespace Criteria.Sql

/-- Nothing stands together across the cut. -/
def Apart (first second : List Char) : Prop :=
  ∀ c ∈ first.getLast?, ∀ d ∈ second.head?, standsWith c d = false

def isLoose (c : Char) : Bool :=
  !isNamePart c && c != '<' && c != '>' && c != '='

@[simp] theorem isLoose_blank : isLoose ' ' = true := rfl

@[simp] theorem isLoose_comma : isLoose ',' = true := rfl

@[simp] theorem isLoose_leftParen : isLoose '(' = true := rfl

@[simp] theorem isLoose_rightParen : isLoose ')' = true := rfl

theorem standsWith_of_isLoose_left {c : Char} (d : Char) (loose : isLoose c = true) :
    standsWith c d = false := by
  simp only [isLoose, Bool.and_eq_true, Bool.not_eq_true', bne_iff_ne] at loose
  simp [standsWith, loose]

theorem standsWith_of_isLoose_right (c : Char) {d : Char} (loose : isLoose d = true) :
    standsWith c d = false := by
  simp only [isLoose, Bool.and_eq_true, Bool.not_eq_true', bne_iff_ne] at loose
  simp [standsWith, loose]

theorem Apart.of_head {second : List Char} (first : List Char)
    (loose : ∀ d ∈ second.head?, isLoose d = true) : Apart first second :=
  fun c _ d member => standsWith_of_isLoose_right c (loose d member)

theorem Apart.of_last {first : List Char} (second : List Char)
    (loose : ∀ c ∈ first.getLast?, isLoose c = true) : Apart first second :=
  fun c member d _ => standsWith_of_isLoose_left d (loose c member)

theorem Apart.after_blank (text : String) (second : List Char) :
    Apart (text ++ " ").toList second := by
  apply Apart.of_last second
  rw [String.toList_append, List.getLast?_append]
  simp

theorem lexemes_ne_nil {c : Char} (rest : List Char) (shown : isBlank c = false) :
    lexemes (c :: rest) ≠ [] := by
  rw [lexemes, if_neg (by simp [shown])]
  split
  · split <;> simp
  · simp

theorem isBlank_of_standsWith {c d : Char} (together : standsWith c d = true) :
    isBlank d = false := by
  cases blank : isBlank d with
  | false => rfl
  | true =>
      have loose : isLoose d = true := by
        simp only [isBlank, decide_eq_true_eq] at blank
        rcases blank with rfl | rfl | rfl | rfl | rfl <;> rfl
      simp [standsWith_of_isLoose_right c loose] at together

theorem lexemes_append {first second : List Char} (apart : Apart first second) :
    lexemes (first ++ second) = lexemes first ++ lexemes second := by
  -- Only the last character of the first text looks at the second one.
  induction first with
  | nil => rfl
  | cons c rest induction =>
      cases rest with
      | nil =>
          have alone : ¬ second.head?.any (standsWith c) = true := by
            cases heads : second.head? with
            | none => simp
            | some d =>
                simp [apart c (by simp) d (by simp [heads])]
          by_cases blank : isBlank c = true
          · simp [lexemes, blank]
          · rw [List.cons_append, List.nil_append, lexemes, if_neg blank, if_neg alone]
            simp [lexemes, blank]
      | cons d rest =>
          have apart : Apart (d :: rest) second := by
            intro last member
            exact apart last (by simpa using member)
          have split := induction apart
          rw [List.cons_append, lexemes, split, lexemes.eq_2 c (d :: rest)]
          simp only [List.cons_append, List.head?_cons, Option.any_some]
          by_cases blank : isBlank c = true
          · simp [blank]
          · by_cases together : standsWith c d = true
            · have filled := lexemes_ne_nil rest (isBlank_of_standsWith together)
              cases pieces : lexemes (d :: rest) with
              | nil => exact absurd pieces filled
              | cons piece pieces => simp [blank, together]
            · simp [blank, together]

def Lexes (text : List Char) (tokens : List Token) : Prop :=
  (lexemes text).mapM Token.ofLexeme? = some tokens

theorem Lexes.nil : Lexes [] [] := rfl

theorem Lexes.append {first second : List Char} {tokens others : List Token}
    (left : Lexes first tokens) (right : Lexes second others) (apart : Apart first second) :
    Lexes (first ++ second) (tokens ++ others) := by
  rw [Lexes, lexemes_append apart, List.mapM_append]
  rw [Lexes] at left right
  simp [left, right]

/-- Characters that can all stand in a name stay together. -/
theorem lexemes_of_all_isNamePart {c : Char} {rest : List Char}
    (parts : ∀ d ∈ c :: rest, isNamePart d = true) : lexemes (c :: rest) = [c :: rest] := by
  have shown (d : Char) (part : isNamePart d = true) : isBlank d = false :=
    isBlank_of_standsWith (c := d) (by simp [standsWith, part])
  induction rest generalizing c with
  | nil => simp [lexemes, shown c (parts c (by simp))]
  | cons d rest induction =>
      have later := induction (c := d) fun e member => parts e (by simp [member])
      have together : standsWith c d = true := by
        simp [standsWith, parts c (by simp), parts d (by simp)]
      rw [lexemes, later]
      simp [shown c (parts c (by simp)), together]

/-- Words that start like a name and that no statement gives a meaning of their own. -/
structure IsPlainName (name : String) : Prop where
  start : name.toList.head?.any isNameStart = true
  parts : name.toList.all isNamePart = true
  free : Token.ofWord name.toList = .name name

theorem isPlainName_iff (name : String) :
    IsPlainName name ↔
      name.toList.head?.any isNameStart = true ∧ name.toList.all isNamePart = true ∧
        Token.ofWord name.toList = .name name :=
  ⟨fun plain => ⟨plain.start, plain.parts, plain.free⟩, fun ⟨start, parts, free⟩ =>
    ⟨start, parts, free⟩⟩

instance : DecidablePred IsPlainName := fun name =>
  decidable_of_iff _ (isPlainName_iff name).symm

theorem ofLexeme?_of_isNamePart {c : Char} (rest : List Char) (part : isNamePart c = true) :
    Token.ofLexeme? (c :: rest) =
      if isNameStart c then some (Token.ofWord (c :: rest))
      else if c.isDigit && rest.all Char.isDigit then
        some (.number (Nat.ofDigitChars 10 (c :: rest) 0))
      else none := by
  have other (d : Char) (sign : isNamePart d = false) : c ≠ d := by
    rintro rfl
    simp [part] at sign
  rw [Token.ofLexeme?]
  all_goals
    intro same _
    exact absurd same (other _ (by decide))

theorem isNameStart_of_isDigit {c : Char} (digit : c.isDigit = true) : isNameStart c = false := by
  simp only [Char.isDigit, Bool.and_eq_true, decide_eq_true_eq, ge_iff_le,
    UInt32.le_iff_toNat_le] at digit
  have low : 48 ≤ c.toNat := digit.1
  have high : c.toNat ≤ 57 := digit.2
  have letter : c.isAlpha = false := by
    show (decide ('A'.val ≤ c.val ∧ c.val ≤ 'Z'.val) ||
      decide ('a'.val ≤ c.val) && decide (c.val ≤ 'z'.val)) = false
    simp [UInt32.le_iff_toNat_le]
    omega
  have underscore : c ≠ '_' := by
    rintro rfl
    exact absurd high (by decide)
  have beyond : ¬ 0x80 ≤ c.toNat := by omega
  simp [isNameStart, letter, underscore, beyond]

theorem IsPlainName.lexes {name : String} (plain : IsPlainName name) :
    Lexes name.toList [.name name] := by
  have start := plain.start
  have parts := plain.parts
  have free := plain.free
  cases letters : name.toList with
  | nil => simp [letters] at start
  | cons c rest =>
      rw [letters] at start parts free
      have parts : ∀ d ∈ c :: rest, isNamePart d = true := by
        simpa [List.all_eq_true] using parts
      rw [Lexes, lexemes_of_all_isNamePart parts]
      have start : isNameStart c = true := by simpa using start
      simp [ofLexeme?_of_isNamePart rest (parts c (by simp)), start, free]

theorem lexes_toDigits (n : Nat) : Lexes (Nat.toDigits 10 n) [.number n] := by
  have digits : ∀ c ∈ Nat.toDigits 10 n, c.isDigit = true :=
    fun c member => Nat.isDigit_of_mem_toDigits (by decide) (by decide) member
  have value : Nat.ofDigitChars 10 (Nat.toDigits 10 n) 0 = n := Nat.ofDigitChars_ten_toDigits
  cases written : Nat.toDigits 10 n with
  | nil => exact absurd written Nat.toDigits_ne_nil
  | cons c rest =>
      rw [written] at digits value
      have parts : ∀ d ∈ c :: rest, isNamePart d = true := by
        intro d member
        simp [isNamePart, digits d member]
      rw [Lexes, lexemes_of_all_isNamePart parts]
      have first := digits c (by simp)
      have later : rest.all Char.isDigit = true := by
        simpa [List.all_eq_true] using fun d member => digits d (by simp [member])
      simp [ofLexeme?_of_isNamePart rest (parts c (by simp)), isNameStart_of_isDigit first, first,
        later, value]

end Criteria.Sql
