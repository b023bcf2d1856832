import Criteria.Sql.Syntax

/-!
The grammar of statements. A comparison binds tighter than `NOT`, `NOT` tighter than `AND`, and
`AND` tighter than `OR`. Each reader takes what it knows from the front of the tokens and leaves the
rest.
-/

namespace Criteria.Sql

def readNames : List Token → Option (List String × List Token)
  | .name n :: .comma :: rest => do
      let (names, rest) ← readNames rest
      some (n :: names, rest)
  | .name n :: rest => some ([n], rest)
  | _ => none

def readColumns : List Token → Option (List String × List Token)
  | .star :: rest => some ([], rest)
  | tokens => readNames tokens

def readPlaces : List Token → Option (List (Option String) × List Token)
  | .placeholder a :: .comma :: rest => do
      let (arguments, rest) ← readPlaces rest
      some (a :: arguments, rest)
  | .placeholder a :: .rightParen :: rest => some ([a], rest)
  | _ => none

def readSortKeys : List Token → Option (List SortKey × List Token)
  | .name n :: .keyword .ascWord :: .comma :: rest => do
      let (keys, rest) ← readSortKeys rest
      some (⟨n, .ascending⟩ :: keys, rest)
  | .name n :: .keyword .descWord :: .comma :: rest => do
      let (keys, rest) ← readSortKeys rest
      some (⟨n, .descending⟩ :: keys, rest)
  | .name n :: .comma :: rest => do
      let (keys, rest) ← readSortKeys rest
      some (⟨n, .ascending⟩ :: keys, rest)
  | .name n :: .keyword .ascWord :: rest => some ([⟨n, .ascending⟩], rest)
  | .name n :: .keyword .descWord :: rest => some ([⟨n, .descending⟩], rest)
  | .name n :: rest => some ([⟨n, .ascending⟩], rest)
  | _ => none

def readOrder : List Token → Option (List SortKey × List Token)
  | .keyword .orderWord :: .keyword .byWord :: rest => readSortKeys rest
  | tokens => some ([], tokens)

def readLimit : List Token → Option (Option Nat × List Token)
  | .keyword .limitWord :: .number n :: rest => some (some n, rest)
  | .keyword .limitWord :: _ => none
  | tokens => some (none, tokens)

/-! Expressions and statements. The first argument bounds the depth of the reading. -/

mutual
def readOr : Nat → List Token → Option (Expr × List Token)
  | 0, _ => none
  | depth + 1, tokens => do
      let (left, rest) ← readAnd depth tokens
      match rest with
      | .keyword .orWord :: rest =>
          let (right, rest) ← readOr depth rest
          some (.or left right, rest)
      | rest => some (left, rest)

def readAnd : Nat → List Token → Option (Expr × List Token)
  | 0, _ => none
  | depth + 1, tokens => do
      let (left, rest) ← readNot depth tokens
      match rest with
      | .keyword .andWord :: rest =>
          let (right, rest) ← readAnd depth rest
          some (.and left right, rest)
      | rest => some (left, rest)

def readNot : Nat → List Token → Option (Expr × List Token)
  | 0, _ => none
  | depth + 1, .keyword .notWord :: rest => do
      let (operand, rest) ← readNot depth rest
      some (.not operand, rest)
  | depth + 1, tokens => readPrimary depth tokens

def readPrimary : Nat → List Token → Option (Expr × List Token)
  | 0, _ => none
  | depth + 1, .leftParen :: rest => do
      let (inner, rest) ← readOr depth rest
      match rest with
      | .rightParen :: rest => some (inner, rest)
      | _ => none
  | _ + 1, .name column :: .relation relation :: .placeholder argument :: rest =>
      some (.compare column relation argument, rest)
  | _ + 1, .name column :: .keyword .likeWord :: .placeholder argument :: rest =>
      some (.like column argument, rest)
  | _ + 1, .name column :: .keyword .inWord :: .leftParen :: .rightParen :: rest =>
      some (.inList column [], rest)
  | depth + 1, .name column :: .keyword .inWord :: .leftParen :: .keyword .selectWord :: rest => do
      let (select, rest) ← readSelect depth rest
      match rest with
      | .rightParen :: rest => some (.inSelect column select, rest)
      | _ => none
  | _ + 1, .name column :: .keyword .inWord :: .leftParen :: rest => do
      let (arguments, rest) ← readPlaces rest
      some (.inList column arguments, rest)
  | _ + 1, _ => none

def readCondition : Nat → List Token → Option (Option Expr × List Token)
  | 0, _ => none
  | depth + 1, .keyword .whereWord :: rest => do
      let (condition, rest) ← readOr depth rest
      some (some condition, rest)
  | _ + 1, tokens => some (none, tokens)

def readSelect : Nat → List Token → Option (Select × List Token)
  | 0, _ => none
  | depth + 1, tokens => do
      let (columns, rest) ← readColumns tokens
      match rest with
      | .keyword .fromWord :: .name table :: rest =>
          let (condition, rest) ← readCondition depth rest
          let (orderings, rest) ← readOrder rest
          let (limit, rest) ← readLimit rest
          some (⟨columns, table, condition, orderings, limit⟩, rest)
      | _ => none
end

/-- Four readers pass the same tokens on before one of them takes a token. -/
def depthFor (tokens : List Token) : Nat :=
  5 * tokens.length + 5

def Expr.ofTokens? (tokens : List Token) : Option Expr :=
  match readOr (depthFor tokens) tokens with
  | some (expr, []) => some expr
  | _ => none

def Select.ofTokens? : List Token → Option Select
  | .keyword .selectWord :: tokens =>
      match readSelect (depthFor tokens) tokens with
      | some (select, []) => some select
      | _ => none
  | _ => none

end Criteria.Sql
