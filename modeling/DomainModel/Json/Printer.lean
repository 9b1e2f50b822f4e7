import DomainModel.Decimal.Numeral
import DomainModel.Json.Basic

/-!
# Printing JSON

One printer writes a document in every layout. A layout says what stands after a bracket or a comma
and before a closing bracket, by the depth there, and what stands after a colon. Empty arrays and
objects are written without a break.
-/

namespace DomainModel.Json

/-- The digits of an integer, with a minus sign if it is negative. -/
def wholeText (i : Int) : List Char :=
  if i < 0 then '-' :: Nat.toDigits 10 i.natAbs else Nat.toDigits 10 i.natAbs

/-- JSON writes a positive exponent with its sign. -/
def numeralStyle : NumeralStyle := ⟨true⟩

def numberText : Number → List Char
  | .whole n => wholeText n.value
  | .real x => numeralStyle.text x

/-- A control character by its code, in four hexadecimal digits. -/
def controlEscape (c : Char) : List Char :=
  let digits := Nat.toDigits 16 c.toNat
  ['\\', 'u'] ++ List.replicate (4 - digits.length) '0' ++ digits

/-- A character as it stands in a string. -/
def escapeChar (c : Char) : List Char :=
  if c = '"' ∨ c = '\\' then ['\\', c]
  else if c = '\x08' then ['\\', 'b']
  else if c = '\x0c' then ['\\', 'f']
  else if c = '\n' then ['\\', 'n']
  else if c = '\r' then ['\\', 'r']
  else if c = '\t' then ['\\', 't']
  else if c.toNat < 0x20 then controlEscape c
  else [c]

/-- A string with its quotes. -/
def stringText (s : String) : List Char := '"' :: s.toList.flatMap escapeChar ++ ['"']

/-- How documents are laid out. -/
structure Layout where
  /-- What separates items, by the depth at which they stand. -/
  lineBreak : Nat → List Char
  /-- What follows the colon after a key. -/
  afterColon : List Char

mutual

/-- A document at a depth. -/
def print (l : Layout) (depth : Nat) : Json → List Char
  | .null => "null".toList
  | .bool true => "true".toList
  | .bool false => "false".toList
  | .number n => numberText n
  | .string s => stringText s
  | .array [] => ['[', ']']
  | .array (x :: xs) =>
    '[' :: l.lineBreak (depth + 1) ++ print l (depth + 1) x ++ printItems l (depth + 1) xs
      ++ l.lineBreak depth ++ [']']
  | .object [] => ['{', '}']
  | .object ((k, x) :: xs) =>
    '{' :: l.lineBreak (depth + 1) ++ stringText k ++ ':' :: l.afterColon ++ print l (depth + 1) x
      ++ printMembers l (depth + 1) xs ++ l.lineBreak depth ++ ['}']

/-- The items of an array after the first. -/
def printItems (l : Layout) (depth : Nat) : List Json → List Char
  | [] => []
  | x :: xs => ',' :: l.lineBreak depth ++ print l depth x ++ printItems l depth xs

/-- The members of an object after the first. -/
def printMembers (l : Layout) (depth : Nat) : List (String × Json) → List Char
  | [] => []
  | (k, x) :: xs =>
    ',' :: l.lineBreak depth ++ stringText k ++ ':' :: l.afterColon ++ print l depth x
      ++ printMembers l depth xs

end

/-- Everything on one line, without blanks. -/
def compactLayout : Layout := ⟨fun _ => [], []⟩

/-- One item a line, indented by two spaces for each level. -/
def prettyLayout : Layout := ⟨fun depth => '\n' :: List.replicate (2 * depth) ' ', [' ']⟩

/-- A document on one line. -/
def compact (j : Json) : String := String.ofList (print compactLayout 0 j)

/-- A document with one item a line. -/
def pretty (j : Json) : String := String.ofList (print prettyLayout 0 j)

end DomainModel.Json
