/-!
Patterns of `LIKE`: `%` stands for any run of characters, `_` for one of them, and letters of ASCII
for their other case too. A pattern may be of any length.
-/

namespace Criteria.Sql.Like

/-! Characters are read leniently: no sequence of bytes is refused. A zero byte ends the text. -/

def leadBits (b : Nat) : Nat :=
  if b < 0xe0 then b % 32
  else if b < 0xf0 then b % 16
  else if b < 0xf8 then b % 8
  else if b < 0xfc then b % 4
  else if b < 0xfe then b % 2
  else 0

/-- What cannot be a character, and the two code points that mark it, read as the replacement
character. -/
def settle (point : Nat) : Nat :=
  if point < 0x80 ∨ (0xd800 ≤ point ∧ point ≤ 0xdfff) ∨ point = 0xfffe ∨ point = 0xffff then 0xfffd
  else point

/-- Reads the bytes after those of the open character, which holds the bits so far. -/
def pointsFrom : Option Nat → List Nat → List Nat
  | none, [] => []
  | some bits, [] => [settle bits]
  | none, b :: rest =>
      if b = 0 then []
      else if b < 0xc0 then b :: pointsFrom none rest
      else pointsFrom (some (leadBits b)) rest
  | some bits, b :: rest =>
      if 0x80 ≤ b ∧ b < 0xc0 then pointsFrom (some (bits * 64 + b % 64)) rest
      else if b = 0 then [settle bits]
      else if b < 0x80 then settle bits :: b :: pointsFrom none rest
      else settle bits :: pointsFrom (some (leadBits b)) rest

def points (bytes : List UInt8) : List Nat :=
  pointsFrom none (bytes.map UInt8.toNat)

def lower (point : Nat) : Nat :=
  if 65 ≤ point ∧ point ≤ 90 then point + 32 else point

def anySuffix (accepts : List Nat → Bool) : List Nat → Bool
  | [] => accepts []
  | c :: rest => accepts (c :: rest) || anySuffix accepts rest

def anyRun : Nat :=
  '%'.toNat

def anyOne : Nat :=
  '_'.toNat

/-- The whole text has to be matched. -/
def accepts : List Nat → List Nat → Bool
  | [], text => text.isEmpty
  | p :: pattern, text =>
      if p = anyRun then anySuffix (accepts pattern) text
      else
        match text with
        | [] => false
        | c :: rest => (p = anyOne ∨ lower p = lower c) && accepts pattern rest

def holds (pattern text : List UInt8) : Bool :=
  accepts (points pattern) (points text)

end Criteria.Sql.Like
