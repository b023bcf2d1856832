namespace Criteria.Sql

inductive Keyword
  | selectWord
  | fromWord
  | whereWord
  | orderWord
  | byWord
  | limitWord
  | notWord
  | andWord
  | orWord
  | inWord
  | likeWord
  | ascWord
  | descWord
  deriving DecidableEq

namespace Keyword

def ofWord? (word : String) : Option Keyword :=
  match word with
  | "SELECT" => some selectWord
  | "FROM" => some fromWord
  | "WHERE" => some whereWord
  | "ORDER" => some orderWord
  | "BY" => some byWord
  | "LIMIT" => some limitWord
  | "NOT" => some notWord
  | "AND" => some andWord
  | "OR" => some orWord
  | "IN" => some inWord
  | "LIKE" => some likeWord
  | "ASC" => some ascWord
  | "DESC" => some descWord
  | _ => none

end Keyword

/-- Words that are not read as the name of a column wherever one can stand. -/
def reservedWords : List String :=
  ["ADD", "ALL", "ALTER", "AS", "AUTOINCREMENT", "BETWEEN", "CASE", "CAST", "CHECK", "COLLATE",
    "COMMIT", "CONSTRAINT", "CREATE", "CURRENT_DATE", "CURRENT_TIME", "CURRENT_TIMESTAMP",
    "DEFAULT", "DEFERRABLE", "DELETE", "DISTINCT", "DROP", "ELSE", "ESCAPE", "EXCEPT", "EXISTS",
    "FOREIGN", "GROUP", "HAVING", "INDEX", "INSERT", "INTERSECT", "INTO", "IS", "ISNULL", "JOIN",
    "NOTHING", "NOTNULL", "NULL", "ON", "PRIMARY", "RAISE", "REFERENCES", "RETURNING", "SET",
    "TABLE", "THEN", "TO", "TRANSACTION", "UNION", "UNIQUE", "UPDATE", "USING", "VALUES", "WHEN",
    "WITH"]

inductive Relation
  | eq
  | ge
  | le
  | gt
  | lt
  deriving DecidableEq

/-- A placeholder holds the text that is bound to it, once one is. -/
inductive Token
  | keyword (word : Keyword)
  | reserved (word : String)
  | name (text : String)
  | placeholder (argument : Option String)
  | number (value : Nat)
  | relation (relation : Relation)
  | leftParen
  | rightParen
  | comma
  | star
  deriving DecidableEq

def isBlank (c : Char) : Bool :=
  c = ' ' ∨ c = '\t' ∨ c = '\n' ∨ c = '\x0c' ∨ c = '\r'

/-- Letters are those of ASCII and everything beyond it. -/
def isNameStart (c : Char) : Bool :=
  c.isAlpha || c == '_' || 0x80 ≤ c.toNat

def isNamePart (c : Char) : Bool :=
  isNameStart c || c.isDigit || c == '$'

def standsWith (c next : Char) : Bool :=
  (isNamePart c && isNamePart next) || ((c == '<' || c == '>') && next == '=')

/-- The longest runs of characters that stand together. -/
def lexemes : List Char → List (List Char)
  | [] => []
  | c :: rest =>
      if isBlank c then lexemes rest
      else if rest.head?.any (standsWith c) then
        match lexemes rest with
        | first :: others => (c :: first) :: others
        | [] => [[c]]
      else [c] :: lexemes rest

namespace Token

def ofWord (word : List Char) : Token :=
  let upper := String.ofList (word.map Char.toUpper)
  match Keyword.ofWord? upper with
  | some known => .keyword known
  | none => if upper ∈ reservedWords then .reserved upper else .name (String.ofList word)

def ofLexeme? : List Char → Option Token
  | ['?'] => some (.placeholder none)
  | ['('] => some .leftParen
  | [')'] => some .rightParen
  | [','] => some .comma
  | ['*'] => some .star
  | ['='] => some (.relation .eq)
  | ['<'] => some (.relation .lt)
  | ['>'] => some (.relation .gt)
  | ['<', '='] => some (.relation .le)
  | ['>', '='] => some (.relation .ge)
  | [] => none
  | c :: rest =>
      if isNameStart c then some (ofWord (c :: rest))
      else if c.isDigit && rest.all Char.isDigit then
        some (.number (Nat.ofDigitChars 10 (c :: rest) 0))
      else none

def ofText? (text : String) : Option (List Token) :=
  (lexemes text.toList).mapM ofLexeme?

def isPlaceholder : Token → Bool
  | placeholder _ => true
  | _ => false

/-- Puts the arguments into the placeholders in the order of the text. -/
def bind : List Token → List String → List Token
  | [], _ => []
  | .placeholder _ :: tokens, argument :: arguments =>
      .placeholder (some argument) :: bind tokens arguments
  | token :: tokens, arguments => token :: bind tokens arguments

end Token

end Criteria.Sql
