import Criteria.Proofs.ClauseTokens

/-!
Clauses with a common beginning. What two clauses begin with can be cut off where its end shows: a
word ends before a character that no word has, and of phrases none of which begins another at most
one fits.
-/

namespace Criteria

def isWordPart (c : Char) : Bool :=
  c.isAlphanum || c == '_'

/-- Names of ASCII letters, digits and underscores. A keyword is a word too. -/
structure IsWord (name : String) : Prop where
  filled : name ≠ ""
  parts : ∀ c ∈ name.toList, isWordPart c = true

theorem isWord_iff (name : String) :
    IsWord name ↔ name ≠ "" ∧ name.toList.all isWordPart = true :=
  ⟨fun word => ⟨word.filled, List.all_eq_true.mpr word.parts⟩,
    fun ⟨filled, parts⟩ => ⟨filled, List.all_eq_true.mp parts⟩⟩

instance : DecidablePred IsWord := fun name =>
  decidable_of_iff _ (isWord_iff name).symm

theorem IsWord.begins {name : String} (word : IsWord name) :
    ∃ c rest, name.toList = c :: rest ∧ isWordPart c = true := by
  obtain ⟨c, rest, text⟩ := List.exists_cons_of_ne_nil
    (mt String.toList_eq_nil_iff.mp word.filled)
  exact ⟨c, rest, text, word.parts c (by simp [text])⟩

theorem isWordPart_of_isLoose {c : Char} (loose : Sql.isLoose c = true) : isWordPart c = false := by
  simp only [Sql.isLoose, Sql.isNamePart, Sql.isNameStart, Bool.and_eq_true, Bool.not_eq_true',
    Bool.or_eq_false_iff] at loose
  simp [isWordPart, Char.isAlphanum, loose]

theorem append_cancel_of_forall {p : Char → Bool} {s t x y : List Char}
    (first : ∀ c ∈ s, p c = true) (second : ∀ c ∈ t, p c = true)
    (ends : ∀ c ∈ x.head?, p c = false) (also : ∀ c ∈ y.head?, p c = false)
    (same : s ++ x = t ++ y) : s = t ∧ x = y := by
  have stop {z : List Char} (ends : ∀ c ∈ z.head?, p c = false) : z.takeWhile p = [] := by
    cases z with
    | nil => rfl
    | cons c rest => simp [ends c rfl]
  have taken := congrArg (List.takeWhile p) same
  rw [List.takeWhile_append_of_pos first, List.takeWhile_append_of_pos second, stop ends,
    stop also, List.append_nil, List.append_nil] at taken
  subst taken
  exact ⟨rfl, List.append_cancel_left same⟩

def PrefixFree (phrases : List String) : Prop :=
  ∀ s ∈ phrases, ∀ t ∈ phrases, s.toList <+: t.toList → s = t

instance : DecidablePred PrefixFree := fun phrases =>
  inferInstanceAs (Decidable (∀ s ∈ phrases, ∀ t ∈ phrases, s.toList <+: t.toList → s = t))

namespace Clause

variable {s t : String} {u v : Clause}

theorem cut (same : literal s ++ u = literal s ++ v) : u = v := by
  have texts := congrArg (fun c => c.selection.toList) same
  have arguments := congrArg Clause.arguments same
  exact ext (by simpa using texts) (by simpa using arguments)

theorem cut_placeholder {a b : String} (same : placeholder a ++ u = placeholder b ++ v) :
    a = b ∧ u = v := by
  have texts := congrArg (fun c => c.selection.toList) same
  have arguments := congrArg Clause.arguments same
  simp only [arguments_append, arguments_placeholder, List.singleton_append,
    List.cons.injEq] at arguments
  exact ⟨arguments.1, ext (by simpa using texts) arguments.2⟩

theorem cut_word (first : IsWord s) (second : IsWord t) (ends : u.StartsLoose)
    (also : v.StartsLoose) (same : literal s ++ u = literal t ++ v) : s = t ∧ u = v := by
  have texts := congrArg (fun c => c.selection.toList) same
  have arguments := congrArg Clause.arguments same
  simp only [selection_append, selection_literal, String.toList_append] at texts
  obtain ⟨word, rest⟩ := append_cancel_of_forall first.parts second.parts
    (fun c member => isWordPart_of_isLoose (ends c member))
    (fun c member => isWordPart_of_isLoose (also c member)) texts
  exact ⟨String.toList_inj.mp word, ext rest (by simpa using arguments)⟩

theorem cut_phrase {phrases : List String} (free : PrefixFree phrases) (first : s ∈ phrases)
    (second : t ∈ phrases) (same : literal s ++ u = literal t ++ v) : s = t ∧ u = v := by
  have texts := congrArg (fun c => c.selection.toList) same
  simp only [selection_append, selection_literal, String.toList_append] at texts
  have phrase : s = t := by
    rcases List.prefix_or_prefix_of_prefix ⟨_, texts⟩ ⟨_, rfl⟩ with begins | begins
    · exact free s first t second begins
    · exact (free t second s first begins).symm
  subst phrase
  exact ⟨rfl, cut same⟩

end Clause

/-- Phrases that open another part beside the one before. -/
def openers : List String :=
  [" WHERE ", " AND ", " OR ", ", "]

/-- Phrases that no sequence goes on behind. -/
def closers : List String :=
  [" ORDER BY ", " LIMIT ", ")"]

theorem phrases_prefixFree : PrefixFree (openers ++ closers) := by
  decide

namespace Clause

/-- Nothing follows, or what follows closes the sequence before it. -/
def Ends (u : Clause) : Prop :=
  u = .empty ∨ ∃ phrase ∈ closers, ∃ rest, u = .literal phrase ++ rest

theorem Ends.closer {phrase : String} (closes : phrase ∈ closers) (rest : Clause) :
    (literal phrase ++ rest).Ends :=
  .inr ⟨phrase, closes, rest, rfl⟩

theorem Ends.ne_opener {u : Clause} (ends : u.Ends) {phrase : String} (opens : phrase ∈ openers)
    (rest : Clause) : u ≠ literal phrase ++ rest := by
  rintro rfl
  rcases ends with none | ⟨closer, closes, others, same⟩
  · have filled : ∀ s ∈ openers, s.toList ≠ [] := by decide
    have texts := congrArg (fun c => c.selection.toList) none
    simp [empty, filled phrase opens] at texts
  · have apart : ∀ s ∈ openers, s ∉ closers := by decide
    have phrase := (cut_phrase phrases_prefixFree (List.mem_append_left _ opens)
      (List.mem_append_right _ closes) same).1
    exact apart _ opens (phrase ▸ closes)

theorem ne_of_closers {s t : String} (first : s ∈ closers) (second : t ∈ closers) (other : s ≠ t)
    (u v : Clause) : literal s ++ u ≠ literal t ++ v :=
  fun same => other (cut_phrase phrases_prefixFree (List.mem_append_right _ first)
    (List.mem_append_right _ second) same).1

end Clause

namespace Clause

/-- Items one after the other, each with what separates it from the one before. -/
def sequence (write : α → Clause) : List α → Clause
  | [] => .empty
  | item :: rest => write item ++ sequence write rest

theorem cut_sequence {write : α → Clause} {f : α → β} {items others : List α} {u v : Clause}
    (cuts : ∀ a ∈ items, ∀ b ∈ others, ∀ x y, write a ++ x = write b ++ y →
      f a = f b ∧ x = y)
    (ends : ∀ b ∈ others, ∀ x, u ≠ write b ++ x) (also : ∀ a ∈ items, ∀ x, v ≠ write a ++ x)
    (same : sequence write items ++ u = sequence write others ++ v) :
    items.map f = others.map f ∧ u = v := by
  induction items generalizing others with
  | nil =>
      cases others with
      | nil => exact ⟨rfl, by simpa [sequence] using same⟩
      | cons b others =>
          rw [sequence, empty_append, sequence, append_assoc] at same
          exact absurd same (ends b (by simp) _)
  | cons a items induction =>
      cases others with
      | nil =>
          rw [sequence, sequence, empty_append, append_assoc] at same
          exact absurd same.symm (also a (by simp) _)
      | cons b others =>
          rw [sequence, sequence, append_assoc, append_assoc] at same
          obtain ⟨here, rest⟩ := cuts a (by simp) b (by simp) _ _ same
          obtain ⟨later, rest⟩ := induction
            (fun c first d second => cuts c (by simp [first]) d (by simp [second]))
            (fun d member => ends d (by simp [member]))
            (fun c member => also c (by simp [member])) rest
          exact ⟨by rw [List.map_cons, List.map_cons, here, later], rest⟩

end Clause

namespace Clause

theorem places_cons (s : Scalar) (rest : List Scalar) :
    places (s :: rest) =
      placeholder s.canonical ++
        sequence (fun t => literal "," ++ placeholder t.canonical) rest := by
  induction rest generalizing s with
  | nil => apply ext <;> simp [places, sequence, empty]
  | cons t rest induction =>
      rw [places, induction t, sequence, append_assoc, append_assoc]

theorem cut_places {items others : List Scalar} {u v : Clause}
    (same : places items ++ (literal ")" ++ u) = places others ++ (literal ")" ++ v)) :
    items.map Scalar.canonical = others.map Scalar.canonical ∧ u = v := by
  have texts := congrArg (fun c => c.selection.toList) same
  cases items with
  | nil =>
      cases others with
      | nil => exact ⟨rfl, cut (by simpa [places] using same)⟩
      | cons t others => simp [places_cons, places, empty] at texts
  | cons s items =>
      cases others with
      | nil => simp [places_cons, places, empty] at texts
      | cons t others =>
          rw [places_cons, places_cons, append_assoc, append_assoc] at same
          obtain ⟨value, rest⟩ := cut_placeholder same
          have ends (w : Clause) (a : Scalar) (x : Clause) :
              literal ")" ++ w ≠ literal "," ++ placeholder a.canonical ++ x := by
            intro closed
            have marks := congrArg (fun c => c.selection.toList) closed
            simp at marks
          obtain ⟨values, rest⟩ := cut_sequence (f := Scalar.canonical)
            (fun a _ b _ x y here => by
              rw [append_assoc, append_assoc] at here
              exact cut_placeholder (cut here))
            (fun b _ => ends u b) (fun a _ => ends v a) rest
          exact ⟨by rw [List.map_cons, List.map_cons, value, values], cut rest⟩

end Clause

theorem isWord_repr (n : Nat) : IsWord n.repr where
  filled empty := by
    have digits := congrArg String.toList empty
    simp [Nat.toDigits_ne_nil] at digits
  parts c member := by
    rw [Nat.toList_repr] at member
    have digit := Nat.isDigit_of_mem_toDigits (by decide) (by decide) member
    simp [isWordPart, Char.isAlphanum, digit]

theorem repr_injective {m n : Nat} (same : m.repr = n.repr) : m = n := by
  have digits := congrArg (fun s => Nat.ofDigitChars 10 s.toList 0) same
  simpa [Nat.toList_repr, Nat.ofDigitChars_ten_toDigits] using digits

theorem limitClause_some (n : UInt64) :
    limitClause (some n) = .literal " LIMIT " ++ .literal n.toNat.repr := by
  apply Clause.ext <;> simp [limitClause]

theorem cut_limit {limit other : Option UInt64} {u v : Clause}
    (same : limitClause limit ++ (.literal ")" ++ u) =
      limitClause other ++ (.literal ")" ++ v)) : limit = other ∧ u = v := by
  have phrases : " LIMIT " ∈ closers ∧ ")" ∈ closers := by decide
  have loose (w : Clause) : (Clause.literal ")" ++ w).StartsLoose := by
    simp [Clause.StartsLoose]
  cases limit with
  | none =>
      cases other with
      | none => exact ⟨rfl, Clause.cut (by simpa [limitClause] using same)⟩
      | some n =>
          rw [limitClause_some, Clause.append_assoc, limitClause, Clause.empty_append] at same
          exact absurd same (Clause.ne_of_closers phrases.2 phrases.1 (by decide) _ _)
  | some m =>
      cases other with
      | none =>
          rw [limitClause_some, Clause.append_assoc, limitClause, Clause.empty_append] at same
          exact absurd same (Clause.ne_of_closers phrases.1 phrases.2 (by decide) _ _)
      | some n =>
          rw [limitClause_some, limitClause_some, Clause.append_assoc, Clause.append_assoc] at same
          obtain ⟨digits, rest⟩ := Clause.cut_word (isWord_repr _) (isWord_repr _) (loose u)
            (loose v) (Clause.cut same)
          exact ⟨congrArg some (UInt64.toNat_inj.mp (repr_injective digits)), Clause.cut rest⟩

namespace SortKey

/-- A key without the comma before it. -/
def clause (key : SortKey) : Clause :=
  .literal key.column ++ .literal (" " ++ key.direction.keyword)

theorem literal_texts (key : SortKey) (rest : List SortKey) :
    Clause.literal (", ".intercalate ((key :: rest).map text)) =
      key.clause ++ Clause.sequence (fun next => .literal ", " ++ next.clause) rest := by
  induction rest generalizing key with
  | nil =>
      apply Clause.ext <;>
        simp [text, clause, Clause.sequence, Clause.empty, String.append_assoc]
  | cons next rest induction =>
      rw [Clause.sequence, Clause.append_assoc, ← induction next]
      apply Clause.ext <;>
        simp only [List.map_cons, String.intercalate_cons_cons] <;>
        simp [text, clause, String.append_assoc]

theorem cut_clause {key other : SortKey} {u v : Clause} (first : IsWord key.column)
    (second : IsWord other.column) (same : key.clause ++ u = other.clause ++ v) :
    key = other ∧ u = v := by
  have free : PrefixFree [" ASC", " DESC"] := by decide
  have phrase (direction : Direction) : " " ++ direction.keyword ∈ [" ASC", " DESC"] := by
    cases direction <;> decide
  have loose (direction : Direction) (w : Clause) :
      (Clause.literal (" " ++ direction.keyword) ++ w).StartsLoose := by
    simp [Clause.StartsLoose]
  rw [clause, clause, Clause.append_assoc, Clause.append_assoc] at same
  obtain ⟨column, directed⟩ := Clause.cut_word first second (loose _ _) (loose _ _) same
  obtain ⟨keyword, rest⟩ := Clause.cut_phrase free (phrase _) (phrase _) directed
  have direction : key.direction = other.direction := by
    revert keyword
    cases key.direction <;> cases other.direction <;> decide
  cases key
  cases other
  exact ⟨congr (congrArg SortKey.mk column) direction, rest⟩

theorem orderClause_cons (key : SortKey) (rest : List SortKey) :
    orderClause (key :: rest) = .literal " ORDER BY " ++ (key.clause ++
      Clause.sequence (fun next => .literal ", " ++ next.clause) rest) := by
  rw [← literal_texts]
  apply Clause.ext <;> simp [orderClause, orderText?]

end SortKey

/-- The sort keys and the limit of a subquery and the parenthesis that closes it. -/
def closing (orderings : List SortKey) (limit : Option UInt64) (rest : Clause) : Clause :=
  SortKey.orderClause orderings ++ (limitClause limit ++ (.literal ")" ++ rest))

@[simp] theorem closing_nil (limit : Option UInt64) (rest : Clause) :
    closing [] limit rest = limitClause limit ++ (.literal ")" ++ rest) :=
  Clause.empty_append _

theorem limitClause_closes (limit : Option UInt64) (rest : Clause) :
    ∃ phrase ∈ closers, phrase ≠ " ORDER BY " ∧ ∃ others,
      limitClause limit ++ (.literal ")" ++ rest) = .literal phrase ++ others := by
  cases limit with
  | none => exact ⟨")", by decide, by decide, rest, Clause.empty_append _⟩
  | some n =>
      refine ⟨" LIMIT ", by decide, by decide, .literal n.toNat.repr ++ (.literal ")" ++ rest), ?_⟩
      rw [limitClause_some, Clause.append_assoc]

theorem closing_ends (orderings : List SortKey) (limit : Option UInt64) (rest : Clause) :
    (closing orderings limit rest).Ends := by
  cases orderings with
  | nil =>
      obtain ⟨phrase, closes, _, others, same⟩ := limitClause_closes limit rest
      rw [closing_nil, same]
      exact .closer closes others
  | cons key keys =>
      rw [closing, SortKey.orderClause_cons, Clause.append_assoc]
      exact .closer (by decide) _

theorem closing_startsLoose (orderings : List SortKey) (limit : Option UInt64) (rest : Clause) :
    (closing orderings limit rest).StartsLoose :=
  (SortKey.orderClause_startsLoose orderings).append
    ((limitClause_startsLoose limit).append (by simp [Clause.StartsLoose]))

theorem closing_nil_ne_cons (limit other : Option UInt64) (key : SortKey) (keys : List SortKey)
    (u v : Clause) : closing [] limit u ≠ closing (key :: keys) other v := by
  obtain ⟨phrase, closes, unordered, others, same⟩ := limitClause_closes limit u
  rw [closing_nil, same, closing, SortKey.orderClause_cons, Clause.append_assoc]
  exact Clause.ne_of_closers closes (by decide) unordered _ _

theorem cut_closing {keys others : List SortKey} {limit other : Option UInt64} {u v : Clause}
    (first : ∀ key ∈ keys, IsWord key.column) (second : ∀ key ∈ others, IsWord key.column)
    (same : closing keys limit u = closing others other v) :
    keys = others ∧ limit = other ∧ u = v := by
  cases keys with
  | nil =>
      cases others with
      | nil => exact ⟨rfl, cut_limit (by simpa using same)⟩
      | cons key keys => exact absurd same (closing_nil_ne_cons _ _ _ _ _ _)
  | cons key keys =>
      cases others with
      | nil => exact absurd same.symm (closing_nil_ne_cons _ _ _ _ _ _)
      | cons next others =>
          have comma (l : Option UInt64) (w : Clause) (k : SortKey) (x : Clause) :
              limitClause l ++ (.literal ")" ++ w) ≠ .literal ", " ++ k.clause ++ x := by
            rw [← closing_nil, Clause.append_assoc]
            exact (closing_ends [] l w).ne_opener (by decide) _
          rw [closing, closing, SortKey.orderClause_cons, SortKey.orderClause_cons,
            Clause.append_assoc, Clause.append_assoc, Clause.append_assoc,
            Clause.append_assoc] at same
          obtain ⟨rfl, listed⟩ := SortKey.cut_clause (first key (by simp))
            (second next (by simp)) (Clause.cut same)
          obtain ⟨later, limited⟩ := Clause.cut_sequence (f := id)
            (fun a here b there x y written => by
              rw [Clause.append_assoc, Clause.append_assoc] at written
              exact SortKey.cut_clause (first a (by simp [here])) (second b (by simp [there]))
                (Clause.cut written))
            (fun b _ => comma limit u b) (fun a _ => comma other v a) listed
          exact ⟨by simpa using later, cut_limit limited⟩

end Criteria
