import DomainModel.Decimal.Numeral
import DomainModel.Json.Printer
import DomainModel.Yaml.Scalar

/-!
# Printing YAML

A document is written in block style. The members of an object stand under each other, and so do
the items of an array, each after a dash; an array that is the value of a key stands at the
indentation of the key, and every other array or object two columns further in. Keys that are long
or hold a break are written after a question mark.
-/

namespace DomainModel.Yaml

/-- YAML writes a positive exponent without a sign. -/
def numeralStyle : NumeralStyle := ⟨false⟩

def numberText : Number → List Char
  | .whole n => Json.wholeText n.value
  | .real x => numeralStyle.text x

/-- Whether a key can stand before a colon on its own line. -/
def isSimpleKey (key : String) : Bool := key.utf8ByteSize ≤ 128 && !key.toList.any isBreak

/-- A line of text with a break at its end. -/
def endLine (cs : List Char) : List Char :=
  if cs.getLast?.any isBreak then cs else cs ++ ['\n']

/-- A key with the colon after it. -/
def keyText (indent : Nat) (key : String) : List Char :=
  if isSimpleKey key then scalarText (indent + 2) key ++ [':']
  else '?' :: ' ' :: endLine (scalarText (indent + 2) key) ++ spaces indent ++ [':']

/-- What a value comes after: a simple key, below which an array or object begins, or a mark on
whose line it begins. -/
inductive Lead where
  | simpleKey
  | mark
  deriving DecidableEq

/-- The lead that a key gives to its value. -/
def Lead.ofKey (key : String) : Lead := if isSimpleKey key then simpleKey else mark

/-- What stands between a lead and the first line of an array or object at `indent`. -/
def Lead.gap (lead : Lead) (indent : Nat) : List Char :=
  match lead with
  | simpleKey => '\n' :: spaces indent
  | mark => [' ']

/-- The indentation of an array after a lead in lines at `indent`. -/
def Lead.arrayIndent (lead : Lead) (indent : Nat) : Nat :=
  match lead with
  | simpleKey => indent
  | mark => indent + 2

mutual

/-- A document after a lead, in lines at `indent`. -/
def value (indent : Nat) (lead : Lead) : Json → List Char
  | .null => " null\n".toList
  | .bool true => " true\n".toList
  | .bool false => " false\n".toList
  | .number n => ' ' :: numberText n ++ ['\n']
  | .string s => ' ' :: endLine (scalarText (indent + 2) s)
  | .array [] => " []\n".toList
  | .array (x :: xs) =>
    let inner := lead.arrayIndent indent
    lead.gap inner ++ '-' :: value inner .mark x ++ items inner xs
  | .object [] => " \x7b\x7d\n".toList
  | .object ((k, x) :: xs) =>
    lead.gap (indent + 2) ++ keyText (indent + 2) k ++ value (indent + 2) (.ofKey k) x
      ++ members (indent + 2) xs

/-- The items of an array after the first. -/
def items (indent : Nat) : List Json → List Char
  | [] => []
  | x :: xs => spaces indent ++ '-' :: value indent .mark x ++ items indent xs

/-- The members of an object after the first. -/
def members (indent : Nat) : List (String × Json) → List Char
  | [] => []
  | (k, x) :: xs =>
    spaces indent ++ keyText indent k ++ value indent (.ofKey k) x ++ members indent xs

end

/-- A whole document: its outermost lines are not indented. -/
def document : Json → List Char
  | .object ((k, x) :: xs) => keyText 0 k ++ value 0 (.ofKey k) x ++ members 0 xs
  | .array (x :: xs) => '-' :: value 0 .mark x ++ items 0 xs
  | j => (value 0 .mark j).drop 1

/-- A document in block style. -/
def print (j : Json) : String := String.ofList (document j)

end DomainModel.Yaml
