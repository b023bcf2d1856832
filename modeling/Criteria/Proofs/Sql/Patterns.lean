import Criteria.Sql.Like
import Mathlib.Data.List.Infix
import Mathlib.Data.List.TakeWhile

/-!
Patterns as conditions on characters. A text is read as the characters that were written, and a
pattern between two runs looks for itself in it.
-/

namespace Criteria.Sql.Like

/-- The code point that a character is read as: its own, but for the two that mark no character. -/
def pointOf (c : Char) : Nat :=
  if c.toNat = 0xfffe ∨ c.toNat = 0xffff then 0xfffd else c.toNat

theorem toNat_valid (c : Char) :
    c.toNat < 0xd800 ∨ (0xdfff < c.toNat ∧ c.toNat < 0x110000) :=
  c.valid

theorem settle_toNat {c : Char} (wide : 0x80 ≤ c.toNat) : settle c.toNat = pointOf c := by
  have valid := toNat_valid c
  unfold settle pointOf
  split <;> split <;> omega

/-- A byte that goes on with an open character. -/
def Continues (b : Nat) : Prop :=
  0x80 ≤ b ∧ b < 0xc0

theorem pointsFrom_some {bits : Nat} {bytes : List Nat} (fresh : ∀ b ∈ bytes.head?, ¬ Continues b) :
    pointsFrom (some bits) bytes = settle bits :: pointsFrom none bytes := by
  cases bytes with
  | nil => rfl
  | cons b rest =>
      have ends : ¬ (0x80 ≤ b ∧ b < 0xc0) := fresh b rfl
      rw [pointsFrom, pointsFrom, if_neg ends]
      by_cases zero : b = 0
      · rw [if_pos zero, if_pos zero]
      · rw [if_neg zero, if_neg zero]
        by_cases small : b < 0x80
        · rw [if_pos small, if_pos (by omega)]
        · rw [if_neg small, if_neg (by omega)]

theorem pointsFrom_lead {b : Nat} (lead : 0xc0 ≤ b) (rest : List Nat) :
    pointsFrom none (b :: rest) = pointsFrom (some (leadBits b)) rest := by
  rw [pointsFrom, if_neg (by omega), if_neg (by omega)]

theorem pointsFrom_next {b bits : Nat} (low : b < 64) (rest : List Nat) :
    pointsFrom (some bits) ((b + 0x80) :: rest) = pointsFrom (some (bits * 64 + b)) rest := by
  rw [pointsFrom, if_pos (by omega)]
  congr 2
  omega

def bytesOf (c : Char) : List Nat :=
  (String.utf8EncodeChar c).map UInt8.toNat

theorem bytesOf_eq (c : Char) :
    bytesOf c =
      if c.toNat ≤ 0x7f then [c.toNat]
      else if c.toNat ≤ 0x7ff then [c.toNat / 64 + 0xc0, c.toNat % 64 + 0x80]
      else if c.toNat ≤ 0xffff then
        [c.toNat / 4096 + 0xe0, c.toNat / 64 % 64 + 0x80, c.toNat % 64 + 0x80]
      else
        [c.toNat / 262144 + 0xf0, c.toNat / 4096 % 64 + 0x80, c.toNat / 64 % 64 + 0x80,
          c.toNat % 64 + 0x80] := by
  have valid := toNat_valid c
  have value : c.val.toNat = c.toNat := rfl
  unfold bytesOf String.utf8EncodeChar
  simp only [value]
  split
  · simp; omega
  split
  · simp; omega
  split
  · simp; omega
  · simp; omega

theorem bytesOf_starts (c : Char) : ∃ b rest, bytesOf c = b :: rest ∧ ¬ Continues b := by
  have valid := toNat_valid c
  rw [bytesOf_eq]
  unfold Continues
  split
  · exact ⟨_, _, rfl, by omega⟩
  split
  · exact ⟨_, _, rfl, by omega⟩
  split
  · exact ⟨_, _, rfl, by omega⟩
  · exact ⟨_, _, rfl, by omega⟩

theorem not_continues_head_flatMap (text : List Char) :
    ∀ b ∈ (text.flatMap bytesOf).head?, ¬ Continues b := by
  cases text with
  | nil => simp
  | cons c rest =>
      obtain ⟨b, later, starts, fresh⟩ := bytesOf_starts c
      rw [List.flatMap_cons, starts]
      simpa using fresh

/-- The bytes of a character are read as one code point, whatever character comes next. -/
theorem pointsFrom_bytesOf {c : Char} {bytes : List Nat} (shown : c ≠ '\x00')
    (fresh : ∀ b ∈ bytes.head?, ¬ Continues b) :
    pointsFrom none (bytesOf c ++ bytes) = pointOf c :: pointsFrom none bytes := by
  have valid := toNat_valid c
  have nonzero : c.toNat ≠ 0 := fun zero => shown (Char.toNat_inj.mp zero)
  by_cases narrow : c.toNat ≤ 0x7f
  · have same : pointOf c = c.toNat := if_neg (by omega)
    rw [bytesOf_eq, if_pos narrow, same, List.singleton_append, pointsFrom, if_neg nonzero,
      if_pos (by omega)]
  · rw [← settle_toNat (by omega), ← pointsFrom_some fresh, bytesOf_eq, if_neg narrow]
    split
    · have bits : leadBits (c.toNat / 64 + 0xc0) = c.toNat / 64 := by
        rw [leadBits, if_pos (by omega)]
        omega
      simp only [List.cons_append, List.nil_append]
      rw [pointsFrom_lead (by omega), bits, pointsFrom_next (by omega)]
      congr 2
      omega
    split
    · have bits : leadBits (c.toNat / 4096 + 0xe0) = c.toNat / 4096 := by
        rw [leadBits, if_neg (by omega), if_pos (by omega)]
        omega
      simp only [List.cons_append, List.nil_append]
      rw [pointsFrom_lead (by omega), bits, pointsFrom_next (by omega), pointsFrom_next (by omega)]
      congr 2
      omega
    · have bits : leadBits (c.toNat / 262144 + 0xf0) = c.toNat / 262144 := by
        rw [leadBits, if_neg (by omega), if_neg (by omega), if_pos (by omega)]
        omega
      simp only [List.cons_append, List.nil_append]
      rw [pointsFrom_lead (by omega), bits, pointsFrom_next (by omega), pointsFrom_next (by omega),
        pointsFrom_next (by omega)]
      congr 2
      omega

/-- The characters that a text is read as: those up to the first NUL. -/
def readable (text : String) : List Char :=
  text.toList.takeWhile (· ≠ '\x00')

theorem pointsFrom_flatMap (text : List Char) :
    pointsFrom none (text.flatMap bytesOf) = (text.takeWhile (· ≠ '\x00')).map pointOf := by
  induction text with
  | nil => rfl
  | cons c rest induction =>
      rw [List.flatMap_cons]
      by_cases ends : c = '\x00'
      · subst ends
        rfl
      · rw [pointsFrom_bytesOf ends (not_continues_head_flatMap rest), induction,
          List.takeWhile_cons_of_pos (by simpa using ends), List.map_cons]

theorem points_toUTF8 (text : String) :
    points text.toUTF8.data.toList = (readable text).map pointOf := by
  have bytes : text.toUTF8.data.toList = text.toList.flatMap String.utf8EncodeChar := by
    have encoded := congrArg (fun bytes => bytes.data.toList)
      (@String.toByteArray_ofList text.toList)
    rwa [String.ofList_toList, List.utf8Encode, List.toList_data_toByteArray] at encoded
  rw [points, bytes, List.map_flatMap]
  exact pointsFrom_flatMap text.toList

theorem anySuffix_iff {holds : List Nat → Bool} {text : List Nat} :
    anySuffix holds text = true ↔ ∃ rest, rest <:+ text ∧ holds rest = true := by
  induction text with
  | nil => simp [anySuffix]
  | cons c rest induction =>
      rw [anySuffix, Bool.or_eq_true, induction]
      constructor
      · rintro (whole | ⟨suffix, later, held⟩)
        · exact ⟨c :: rest, List.suffix_refl _, whole⟩
        · exact ⟨suffix, later.trans (List.suffix_cons c rest), held⟩
      · rintro ⟨suffix, within, held⟩
        rcases List.suffix_cons_iff.mp within with rfl | later
        · exact .inl held
        · exact .inr ⟨suffix, later, held⟩

theorem accepts_run {pattern text : List Nat} :
    accepts (anyRun :: pattern) text = true ↔
      ∃ rest, rest <:+ text ∧ accepts pattern rest = true := by
  rw [accepts.eq_def]
  exact anySuffix_iff

theorem accepts_cons {p c : Nat} {pattern rest : List Nat} (run : p ≠ anyRun) :
    accepts (p :: pattern) (c :: rest) = true ↔
      (p = anyOne ∨ lower p = lower c) ∧ accepts pattern rest = true := by
  simp [accepts, run]

/-- What two patterns accept one after the other. -/
theorem accepts_append {pattern later text : List Nat} :
    accepts (pattern ++ later) text = true ↔
      ∃ head tail, text = head ++ tail ∧ accepts pattern head = true ∧
        accepts later tail = true := by
  induction pattern generalizing text with
  | nil => simp [accepts]
  | cons p pattern induction =>
      by_cases run : p = anyRun
      · subst run
        rw [List.cons_append, accepts_run]
        constructor
        · rintro ⟨rest, ⟨before, rfl⟩, held⟩
          obtain ⟨head, tail, rfl, first, second⟩ := induction.mp held
          exact ⟨before ++ head, tail, by simp, accepts_run.mpr ⟨head, ⟨before, rfl⟩, first⟩,
            second⟩
        · rintro ⟨head, tail, rfl, first, second⟩
          obtain ⟨rest, ⟨before, rfl⟩, held⟩ := accepts_run.mp first
          exact ⟨rest ++ tail, ⟨before, by simp⟩, induction.mpr ⟨rest, tail, rfl, held, second⟩⟩
      · cases text with
        | nil => simp [accepts, run]
        | cons c rest =>
            simp only [List.cons_append, accepts_cons run, induction]
            constructor
            · rintro ⟨here, head, tail, rfl, first, second⟩
              exact ⟨c :: head, tail, rfl, (accepts_cons run).mpr ⟨here, first⟩, second⟩
            · rintro ⟨head, tail, split, first, second⟩
              cases head with
              | nil => simp [accepts, run] at first
              | cons d head =>
                  obtain ⟨rfl, rfl⟩ := List.cons.inj split
                  obtain ⟨here, first⟩ := (accepts_cons run).mp first
                  exact ⟨here, head, tail, rfl, first, second⟩

/-- Between two runs a pattern is looked for anywhere in the text. -/
theorem accepts_between {pattern text : List Nat} :
    accepts (anyRun :: pattern ++ [anyRun]) text = true ↔
      ∃ part, part <:+: text ∧ accepts pattern part = true := by
  have rest (text : List Nat) : accepts [anyRun] text = true :=
    accepts_run.mpr ⟨[], List.nil_suffix, rfl⟩
  rw [List.cons_append, accepts_run]
  constructor
  · rintro ⟨later, ⟨before, rfl⟩, held⟩
    obtain ⟨part, after, rfl, found, _⟩ := accepts_append.mp held
    exact ⟨part, ⟨before, after, by simp⟩, found⟩
  · rintro ⟨part, ⟨before, after, rfl⟩, found⟩
    exact ⟨part ++ after, ⟨before, by simp⟩,
      accepts_append.mpr ⟨part, after, rfl, found, rest after⟩⟩

/-- Whatever characters a pattern is made of, it accepts them. -/
theorem accepts_of_map_lower {pattern text : List Nat}
    (same : pattern.map lower = text.map lower) : accepts pattern text = true := by
  induction pattern generalizing text with
  | nil =>
      obtain rfl : text = [] := by simpa using same.symm
      rfl
  | cons p pattern induction =>
      cases text with
      | nil => simp at same
      | cons c rest =>
          simp only [List.map_cons, List.cons.injEq] at same
          have later := induction same.2
          by_cases run : p = anyRun
          · subst run
            exact accepts_run.mpr ⟨rest, List.suffix_cons c rest, later⟩
          · exact (accepts_cons run).mpr ⟨.inr same.1, later⟩

/-- Without the two characters that stand for others a pattern accepts nothing else. -/
theorem accepts_plain {pattern text : List Nat}
    (plain : ∀ p ∈ pattern, p ≠ anyRun ∧ p ≠ anyOne) :
    accepts pattern text = true ↔ pattern.map lower = text.map lower := by
  refine ⟨fun accepted => ?_, accepts_of_map_lower⟩
  induction pattern generalizing text with
  | nil =>
      obtain rfl : text = [] := List.isEmpty_iff.mp accepted
      rfl
  | cons p pattern induction =>
      obtain ⟨⟨run, one⟩, others⟩ := List.forall_mem_cons.mp plain
      cases text with
      | nil => simp [accepts, run] at accepted
      | cons c rest =>
          obtain ⟨here, later⟩ := (accepts_cons run).mp accepted
          rw [List.map_cons, List.map_cons, here.resolve_left one, induction others later]

/-- A character as it is compared: a letter of ASCII in lower case. -/
def fold (c : Char) : Char :=
  if c.toNat = 0xfffe ∨ c.toNat = 0xffff then '\ufffd' else c.toLower

theorem toNat_toLower (c : Char) : c.toLower.toNat = lower c.toNat := by
  have capital : (c.val ≥ 'A'.val ∧ c.val ≤ 'Z'.val) ↔ (65 ≤ c.toNat ∧ c.toNat ≤ 90) := by
    rw [ge_iff_le, UInt32.le_iff_toNat_le, UInt32.le_iff_toNat_le]
    exact Iff.rfl
  unfold Char.toLower lower
  by_cases letter : 65 ≤ c.toNat ∧ c.toNat ≤ 90
  · rw [dif_pos (capital.mpr letter), if_pos letter]
    show (c.val + ('a'.val - 'A'.val)).toNat = c.val.toNat + 32
    have value : c.val.toNat = c.toNat := rfl
    rw [UInt32.toNat_add, show ('a'.val - 'A'.val).toNat = 32 from rfl]
    omega
  · rw [dif_neg (mt capital.mp letter), if_neg letter]

theorem lower_pointOf (c : Char) : lower (pointOf c) = (fold c).toNat := by
  unfold pointOf fold
  split
  · rfl
  · exact (toNat_toLower c).symm

theorem map_lower_pointOf (text : List Char) :
    (text.map pointOf).map lower = (text.map fold).map Char.toNat := by
  simp [lower_pointOf]

/-- The text stands somewhere in what is read of the other. -/
def Within (text held : String) : Prop :=
  text.toList.map fold <:+: (readable held).map fold

instance : DecidableRel Within :=
  fun text held => inferInstanceAs (Decidable (text.toList.map fold <:+: (readable held).map fold))

theorem within_iff {text held : String} :
    Within text held ↔ ∃ part, part <:+: (readable held).map pointOf ∧
      (text.toList.map pointOf).map lower = part.map lower := by
  have exact : Within text held ↔
      (text.toList.map fold).map Char.toNat <:+: ((readable held).map fold).map Char.toNat := by
    rw [List.infix_map_iff]
    constructor
    · intro within
      exact ⟨_, within, rfl⟩
    · rintro ⟨part, inside, same⟩
      have equal : text.toList.map fold = part :=
        List.map_injective_iff.mpr (fun _ _ => Char.toNat_inj.mp) same
      rw [Within, equal]
      exact inside
  rw [exact, ← map_lower_pointOf, ← map_lower_pointOf, List.infix_map_iff]

theorem fold_toLower (c : Char) : fold c.toLower = fold c := by
  rw [← Char.toNat_inj, ← lower_pointOf, ← lower_pointOf, pointOf, pointOf, toNat_toLower]
  by_cases letter : 65 ≤ c.toNat ∧ c.toNat ≤ 90
  · have small : lower c.toNat = c.toNat + 32 := if_pos letter
    rw [small, if_neg (by omega), if_neg (by omega), small]
    exact if_neg (by omega)
  · have same : lower c.toNat = c.toNat := if_neg letter
    rw [same]

/-- A character that stands for itself alone, or for its other case too. -/
def Literal (c : Char) : Prop :=
  c ≠ '%' ∧ c ≠ '_' ∧ c ≠ '\ufffd' ∧ c ≠ '\ufffe' ∧ c ≠ '\uffff'

instance : DecidablePred Literal :=
  fun c => inferInstanceAs (Decidable (c ≠ '%' ∧ _))

theorem fold_eq_toLower {c : Char} (other : fold c ≠ '\ufffd') : fold c = c.toLower := by
  unfold fold at other ⊢
  split
  · rename_i marks
    exact absurd (if_pos marks) other
  · rfl

theorem Literal.fold_ne {c : Char} (literal : Literal c) : fold c ≠ '\ufffd' := by
  obtain ⟨_, _, replaced, former, latter⟩ := literal
  rw [ne_eq, ← Char.toNat_inj] at replaced former latter ⊢
  have marks : ('\ufffd'.toNat = 0xfffd ∧ '\ufffe'.toNat = 0xfffe) ∧ '\uffff'.toNat = 0xffff := by
    decide
  rw [fold, if_neg (by omega), toNat_toLower, lower]
  split <;> omega

/-- What stands in the other up to the case of its letters is found there. -/
theorem within_of_infix {text held : String}
    (inside : text.toList.map Char.toLower <:+: (readable held).map Char.toLower) :
    Within text held := by
  have folded (l : List Char) : (l.map Char.toLower).map fold = l.map fold := by
    simp [fold_toLower]
  have within := inside.map fold
  rwa [folded, folded] at within

/-- Nothing else is found for a text of characters that stand for themselves. -/
theorem infix_of_within {text held : String} (literal : ∀ c ∈ text.toList, Literal c)
    (within : Within text held) :
    text.toList.map Char.toLower <:+: (readable held).map Char.toLower := by
  obtain ⟨part, inside, same⟩ := List.infix_map_iff.mp within
  have fixed : text.toList.map fold = text.toList.map Char.toLower :=
    List.map_congr_left fun c member => fold_eq_toLower (literal c member).fold_ne
  have kept : part.map fold = part.map Char.toLower := by
    refine List.map_congr_left fun d member => fold_eq_toLower ?_
    have among : fold d ∈ text.toList.map fold := same ▸ List.mem_map_of_mem member
    obtain ⟨c, written, equal⟩ := List.mem_map.mp among
    exact equal ▸ (literal c written).fold_ne
  rw [← fixed, same, kept]
  exact inside.map Char.toLower

theorem readable_of_not_mem {text : String} (whole : '\x00' ∉ text.toList) :
    readable text = text.toList := by
  refine List.takeWhile_eq_self_iff.mpr fun c member => ?_
  have other : c ≠ '\x00' := fun same => whole (same ▸ member)
  simpa using other

theorem points_between {text : String} (whole : '\x00' ∉ text.toList) :
    points ("%" ++ text ++ "%").toUTF8.data.toList =
      anyRun :: text.toList.map pointOf ++ [anyRun] := by
  have all : ("%" ++ text ++ "%").toList = '%' :: text.toList ++ ['%'] := by simp
  have between : '\x00' ∉ ("%" ++ text ++ "%").toList := by simpa [all] using whole
  rw [points_toUTF8, readable_of_not_mem between, all]
  simp [anyRun, pointOf]

theorem holds_between {text held : String} (whole : '\x00' ∉ text.toList) :
    holds ("%" ++ text ++ "%").toUTF8.data.toList held.toUTF8.data.toList = true ↔
      ∃ part, part <:+: (readable held).map pointOf ∧
        accepts (text.toList.map pointOf) part = true := by
  rw [holds, points_between whole, points_toUTF8, accepts_between]

theorem holds_of_within {text held : String} (whole : '\x00' ∉ text.toList)
    (within : Within text held) :
    holds ("%" ++ text ++ "%").toUTF8.data.toList held.toUTF8.data.toList = true := by
  obtain ⟨part, inside, same⟩ := within_iff.mp within
  exact (holds_between whole).mpr ⟨part, inside, accepts_of_map_lower same⟩

theorem within_of_holds {text held : String} (whole : '\x00' ∉ text.toList)
    (plain : ∀ c ∈ text.toList, c ≠ '%' ∧ c ≠ '_')
    (found : holds ("%" ++ text ++ "%").toUTF8.data.toList held.toUTF8.data.toList = true) :
    Within text held := by
  obtain ⟨part, inside, accepted⟩ := (holds_between whole).mp found
  refine within_iff.mpr ⟨part, inside, (accepts_plain ?_).mp accepted⟩
  have itself (c : Char) {d : Char} (small : d.toNat < 0x80) (same : pointOf c = d.toNat) :
      c = d := by
    unfold pointOf at same
    split at same
    · omega
    · exact Char.toNat_inj.mp same
  refine List.forall_mem_map.mpr fun c member => ⟨fun run => ?_, fun one => ?_⟩
  · exact (plain c member).1 (itself c (by decide) run)
  · exact (plain c member).2 (itself c (by decide) one)

end Criteria.Sql.Like
