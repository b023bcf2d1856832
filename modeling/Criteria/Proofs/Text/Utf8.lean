import Criteria.Proofs.Sql.Patterns
import Criteria.Proofs.Sql.Values

namespace Criteria.Text.Utf8

open Criteria.Sql.Like (Continues bytesOf bytesOf_eq toNat_valid)

/-- The bytes behind the lead byte add six bits each to the bits that it begins with. -/
inductive Spells : List Nat → Nat → Prop
  | one {a : Nat} (lead : a < 0x80) : Spells [a] a
  | two {a b : Nat} (lead : 0xc0 ≤ a ∧ a < 0xe0) (second : Continues b) :
      Spells [a, b] (a % 32 * 64 + b % 64)
  | three {a b c : Nat} (lead : 0xe0 ≤ a ∧ a < 0xf0) (second : Continues b) (third : Continues c) :
      Spells [a, b, c] ((a % 16 * 64 + b % 64) * 64 + c % 64)
  | four {a b c d : Nat} (lead : 0xf0 ≤ a ∧ a < 0xf8) (second : Continues b) (third : Continues c)
      (fourth : Continues d) :
      Spells [a, b, c, d] (((a % 8 * 64 + b % 64) * 64 + c % 64) * 64 + d % 64)

/-- The least code point that needs that many bytes. -/
def leastPoint : Nat → Nat
  | 2 => 0x80
  | 3 => 0x800
  | 4 => 0x10000
  | _ => 0

structure IsCharacter (bytes : List Nat) (point : Nat) : Prop where
  spells : Spells bytes point
  notOverlong : leastPoint bytes.length ≤ point
  notSurrogate : point < 0xd800 ∨ 0xdfff < point
  inRange : point ≤ 0x10ffff

theorem bytesOf_of_spells {c : Char} {bytes : List Nat} (spells : Spells bytes c.toNat)
    (notOverlong : leastPoint bytes.length ≤ c.toNat) : bytesOf c = bytes := by
  rw [bytesOf_eq]
  generalize c.toNat = point at spells notOverlong
  cases spells with
  | one lead => rw [if_pos (by omega)]
  | two lead second =>
      have wide : 0x80 ≤ _ := notOverlong
      unfold Continues at second
      rw [if_neg (by omega), if_pos (by omega)]
      simp only [List.cons.injEq, and_true]
      omega
  | three lead second third =>
      have wide : 0x800 ≤ _ := notOverlong
      unfold Continues at second third
      rw [if_neg (by omega), if_neg (by omega), if_pos (by omega)]
      simp only [List.cons.injEq, and_true]
      omega
  | four lead second third fourth =>
      have wide : 0x10000 ≤ _ := notOverlong
      unfold Continues at second third fourth
      rw [if_neg (by omega), if_neg (by omega), if_neg (by omega)]
      simp only [List.cons.injEq, and_true]
      omega

theorem spells_bytesOf (c : Char) :
    Spells (bytesOf c) c.toNat ∧ leastPoint (bytesOf c).length ≤ c.toNat := by
  have valid := toNat_valid c
  rw [bytesOf_eq]
  generalize c.toNat = point at valid
  have continues {b : Nat} (low : b < 64) : Continues (b + 0x80) := by
    unfold Continues
    omega
  split
  case isTrue narrow => exact ⟨.one (by omega), point.zero_le⟩
  split
  case isTrue narrow =>
    have spells := @Spells.two (point / 64 + 0xc0) _ (by omega)
      (continues (point.mod_lt (by decide : 0 < 64)))
    have value : (point / 64 + 0xc0) % 32 * 64 + (point % 64 + 0x80) % 64 = point := by omega
    rw [value] at spells
    exact ⟨spells, show 0x80 ≤ point by omega⟩
  split
  case isTrue narrow =>
    have spells := @Spells.three (point / 4096 + 0xe0) _ _ (by omega)
      (continues ((point / 64).mod_lt (by decide : 0 < 64)))
      (continues (point.mod_lt (by decide : 0 < 64)))
    have value : ((point / 4096 + 0xe0) % 16 * 64 + (point / 64 % 64 + 0x80) % 64) * 64 +
        (point % 64 + 0x80) % 64 = point := by omega
    rw [value] at spells
    exact ⟨spells, show 0x800 ≤ point by omega⟩
  case isFalse wide =>
    have spells := @Spells.four (point / 262144 + 0xf0) _ _ _ (by omega)
      (continues ((point / 4096).mod_lt (by decide : 0 < 64)))
      (continues ((point / 64).mod_lt (by decide : 0 < 64)))
      (continues (point.mod_lt (by decide : 0 < 64)))
    have value : (((point / 262144 + 0xf0) % 8 * 64 + (point / 4096 % 64 + 0x80) % 64) * 64 +
        (point / 64 % 64 + 0x80) % 64) * 64 + (point % 64 + 0x80) % 64 = point := by omega
    rw [value] at spells
    exact ⟨spells, show 0x10000 ≤ point by omega⟩

theorem isCharacter_iff {bytes : List Nat} {point : Nat} :
    IsCharacter bytes point ↔ ∃ c : Char, c.toNat = point ∧ bytesOf c = bytes := by
  constructor
  · rintro ⟨spells, notOverlong, notSurrogate, inRange⟩
    have valid : point.isValidChar := by
      unfold Nat.isValidChar
      omega
    exact ⟨Char.ofNatAux point valid, rfl, bytesOf_of_spells spells notOverlong⟩
  · rintro ⟨c, rfl, rfl⟩
    have valid := toNat_valid c
    obtain ⟨spells, notOverlong⟩ := spells_bytesOf c
    exact ⟨spells, notOverlong, by omega, by omega⟩

/-- The bytes are those of characters, one after the other, with these code points. -/
inductive Encodes : List Nat → List Nat → Prop
  | nil : Encodes [] []
  | cons {point : Nat} {points first rest : List Nat} (character : IsCharacter first point)
      (later : Encodes points rest) : Encodes (point :: points) (first ++ rest)

theorem encodes_iff {points bytes : List Nat} :
    Encodes points bytes ↔
      ∃ text : List Char, text.map Char.toNat = points ∧ text.flatMap bytesOf = bytes := by
  constructor
  · intro encodes
    induction encodes with
    | nil => exact ⟨[], rfl, rfl⟩
    | cons character _ induction =>
        obtain ⟨c, rfl, rfl⟩ := isCharacter_iff.mp character
        obtain ⟨text, rfl, rfl⟩ := induction
        exact ⟨c :: text, rfl, rfl⟩
  · rintro ⟨text, rfl, rfl⟩
    induction text with
    | nil => exact .nil
    | cons c text induction => exact .cons (isCharacter_iff.mpr ⟨c, rfl, rfl⟩) induction

/-- Some characters have these bytes. -/
def Valid (bytes : ByteArray) : Prop :=
  ∃ points, Encodes points (bytes.data.toList.map UInt8.toNat)

theorem bytes_toUTF8 (s : String) :
    s.toUTF8.data.toList.map UInt8.toNat = s.toList.flatMap bytesOf := by
  have encoded := congrArg (fun bytes => bytes.data.toList) (@String.toByteArray_ofList s.toList)
  rw [String.ofList_toList, List.utf8Encode, List.toList_data_toByteArray] at encoded
  rw [String.toUTF8_eq_toByteArray, encoded, List.map_flatMap]
  rfl

theorem encodes_toUTF8 (s : String) :
    Encodes (s.toList.map Char.toNat) (s.toUTF8.data.toList.map UInt8.toNat) :=
  encodes_iff.mpr ⟨s.toList, rfl, (bytes_toUTF8 s).symm⟩

theorem valid_iff {bytes : ByteArray} : Valid bytes ↔ ∃ s : String, s.toUTF8 = bytes := by
  constructor
  · rintro ⟨points, encodes⟩
    obtain ⟨text, -, same⟩ := encodes_iff.mp encodes
    refine ⟨String.ofList text, ByteArray.ext (Array.toList_inj.mp ?_)⟩
    apply List.map_injective_iff.mpr fun _ _ => UInt8.toNat_inj.mp
    rw [bytes_toUTF8, String.toList_ofList, same]
  · rintro ⟨s, rfl⟩
    exact ⟨_, encodes_toUTF8 s⟩

theorem fromUTF8?_eq_some_iff {bytes : ByteArray} {s : String} :
    String.fromUTF8? bytes = some s ↔ s.toUTF8 = bytes := by
  constructor
  · intro read
    rw [String.fromUTF8?, Option.dite_none_right_eq_some] at read
    obtain ⟨valid, read⟩ := read
    cases read
    rfl
  · rintro rfl
    rw [String.toUTF8_eq_toByteArray, Sql.Datum.fromUTF8?_toByteArray]

theorem fromUTF8?_eq_none_iff {bytes : ByteArray} :
    String.fromUTF8? bytes = none ↔ ¬ Valid bytes := by
  rw [Option.eq_none_iff_forall_ne_some, valid_iff, not_exists]
  exact forall_congr' fun s => not_congr fromUTF8?_eq_some_iff

instance (bytes : ByteArray) : Decidable (Valid bytes) :=
  decidable_of_iff ((String.fromUTF8? bytes).isSome = true) <| by
    rw [Option.isSome_iff_exists, valid_iff]
    exact exists_congr fun s => fromUTF8?_eq_some_iff

end Criteria.Text.Utf8
