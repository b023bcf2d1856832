import Criteria.Sql.Grammar

namespace Criteria.Sql

def commaSeparated : List (List Token) → List Token
  | [] => []
  | [piece] => piece
  | piece :: next :: rest => piece ++ .comma :: commaSeparated (next :: rest)

def columnTokens (columns : List String) : List Token :=
  if columns.isEmpty then [.star] else commaSeparated (columns.map ([.name ·]))

def placeTokens (arguments : List (Option String)) : List Token :=
  commaSeparated (arguments.map ([.placeholder ·]))

def directionToken : Direction → Token
  | .ascending => .keyword .ascWord
  | .descending => .keyword .descWord

def keyTokens (key : SortKey) : List Token :=
  [.name key.column, directionToken key.direction]

def orderTokens (keys : List SortKey) : List Token :=
  if keys.isEmpty then []
  else .keyword .orderWord :: .keyword .byWord :: commaSeparated (keys.map keyTokens)

def limitTokens : Option Nat → List Token
  | some n => [.keyword .limitWord, .number n]
  | none => []

def selectTokens (columns : List String) (table : String) (condition : List Token)
    (orderings : List SortKey) (limit : Option Nat) : List Token :=
  .keyword .selectWord :: columnTokens columns ++ [.keyword .fromWord, .name table] ++
    condition ++ orderTokens orderings ++ limitTokens limit

theorem readNames_commaSeparated (names : List String) (rest : List Token) (filled : names ≠ [])
    (ends : rest.head? ≠ some .comma) :
    readNames (commaSeparated (names.map ([.name ·])) ++ rest) = some (names, rest) := by
  induction names with
  | nil => exact absurd rfl filled
  | cons name others induction =>
      cases others with
      | nil =>
          simp only [List.map_cons, List.map_nil, commaSeparated, List.cons_append, List.nil_append]
          cases rest with
          | nil => rfl
          | cons token rest =>
              cases token with
              | comma => simp at ends
              | _ => rfl
      | cons next others =>
          have later := induction (by simp)
          simp only [List.map_cons] at later
          simp [commaSeparated, readNames, later]

theorem readColumns_columnTokens (columns : List String) (rest : List Token)
    (ends : rest.head? ≠ some .comma) :
    readColumns (columnTokens columns ++ rest) = some (columns, rest) := by
  cases columns with
  | nil => rfl
  | cons name others =>
      have read := readNames_commaSeparated (name :: others) rest (by simp) ends
      have named : columnTokens (name :: others) =
          commaSeparated ((name :: others).map ([.name ·])) := rfl
      rw [named]
      cases others with
      | nil => simpa [commaSeparated, readColumns] using read
      | cons next others => simpa [commaSeparated, readColumns] using read

theorem readPlaces_placeTokens (arguments : List (Option String)) (rest : List Token)
    (filled : arguments ≠ []) :
    readPlaces (placeTokens arguments ++ .rightParen :: rest) = some (arguments, rest) := by
  unfold placeTokens
  induction arguments with
  | nil => exact absurd rfl filled
  | cons argument others induction =>
      cases others with
      | nil => rfl
      | cons next others =>
          have later := induction (by simp)
          simp only [List.map_cons] at later
          simp [commaSeparated, readPlaces, later]

theorem readSortKeys_commaSeparated (keys : List SortKey) (rest : List Token) (filled : keys ≠ [])
    (ends : rest.head? ≠ some .comma) :
    readSortKeys (commaSeparated (keys.map keyTokens) ++ rest) = some (keys, rest) := by
  induction keys with
  | nil => exact absurd rfl filled
  | cons key others induction =>
      obtain ⟨column, direction⟩ := key
      cases others with
      | nil =>
          cases rest with
          | nil => cases direction <;> rfl
          | cons token rest =>
              cases token with
              | comma => simp at ends
              | _ => cases direction <;> rfl
      | cons next others =>
          have later := induction (by simp)
          simp only [List.map_cons] at later
          cases direction with
          | ascending =>
              change readSortKeys (.name column :: .keyword .ascWord :: .comma ::
                (commaSeparated (keyTokens next :: others.map keyTokens) ++ rest)) = _
              simp [readSortKeys, later]
          | descending =>
              change readSortKeys (.name column :: .keyword .descWord :: .comma ::
                (commaSeparated (keyTokens next :: others.map keyTokens) ++ rest)) = _
              simp [readSortKeys, later]

theorem readOrder_orderTokens (keys : List SortKey) (rest : List Token)
    (ends : rest.head? ≠ some .comma) (other : rest.head? ≠ some (.keyword .orderWord)) :
    readOrder (orderTokens keys ++ rest) = some (keys, rest) := by
  cases keys with
  | nil =>
      simp only [orderTokens, List.isEmpty_nil, if_true, List.nil_append]
      unfold readOrder
      split
      · simp at other
      · rfl
  | cons key others =>
      exact readSortKeys_commaSeparated (key :: others) rest (by simp) ends

theorem readLimit_limitTokens (limit : Option Nat) (rest : List Token)
    (other : rest.head? ≠ some (.keyword .limitWord)) :
    readLimit (limitTokens limit ++ rest) = some (limit, rest) := by
  cases limit with
  | none =>
      simp only [limitTokens, List.nil_append]
      unfold readLimit
      split
      · simp at other
      · simp at other
      · rfl
  | some n => rfl

end Criteria.Sql
