import DomainModel.Decimal.Reading
import DomainModel.Json.Source

/-!
# Reading JSON text

A text is read once, from the front, into a `Source`: the parser goes on for as long as the text is
JSON, and marks the place where it stops being so. Each parsing function returns what it read and
the text after it, or no text if the text broke.
-/

namespace DomainModel.Json.Parser

/-- White space between tokens. -/
def isSpace (c : Char) : Bool := c = ' ' || c = '\n' || c = '\r' || c = '\t'

/-- The text from the next token on. -/
def skipSpace (cs : List Char) : List Char := cs.dropWhile isSpace

/-! ## Strings -/

/-- A piece of a string: a character, or the code of an escape, which may be half of a character. -/
inductive Piece where
  | char (c : Char)
  | code (n : Nat)

/-- The value of a hexadecimal digit. -/
def hexDigit? (c : Char) : Option Nat :=
  if '0' ≤ c ∧ c ≤ '9' then some (c.toNat - '0'.toNat)
  else if 'a' ≤ c ∧ c ≤ 'f' then some (c.toNat - 'a'.toNat + 10)
  else if 'A' ≤ c ∧ c ≤ 'F' then some (c.toNat - 'A'.toNat + 10)
  else none

/-- The character that an escape of one letter stands for. -/
def escaped? (c : Char) : Option Char :=
  match c with
  | '"' => some '"'
  | '\\' => some '\\'
  | '/' => some '/'
  | 'b' => some '\x08'
  | 'f' => some '\x0c'
  | 'n' => some '\n'
  | 'r' => some '\r'
  | 't' => some '\t'
  | _ => none

/-- The pieces up to the closing quote, and the text after it. Control characters and unknown
escapes are not allowed. -/
def pieces : List Char → Option (List Piece × List Char)
  | [] => none
  | '"' :: cs => some ([], cs)
  | '\\' :: 'u' :: a :: b :: c :: d :: cs => do
    let n := ((← hexDigit? a) * 16 + (← hexDigit? b)) * 256 + (← hexDigit? c) * 16 + (← hexDigit? d)
    let (ps, rest) ← pieces cs
    return (.code n :: ps, rest)
  | '\\' :: e :: cs => do
    let c ← escaped? e
    let (ps, rest) ← pieces cs
    return (.char c :: ps, rest)
  | c :: cs =>
    if c.toNat < 0x20 ∨ c = '\\' then none
    else do
      let (ps, rest) ← pieces cs
      return (.char c :: ps, rest)

/-- Whether a code is the first half of a pair. -/
def isHighSurrogate (n : Nat) : Bool := 0xd800 ≤ n && n < 0xdc00

/-- Whether a code is the second half of a pair. -/
def isLowSurrogate (n : Nat) : Bool := 0xdc00 ≤ n && n < 0xe000

/-- The characters of a string, unless half of a pair stands alone. -/
def assemble : List Piece → Option (List Char)
  | [] => some []
  | .char c :: ps => (assemble ps).map (c :: ·)
  | .code high :: .code low :: ps =>
    if isHighSurrogate high then
      if isLowSurrogate low then
        (assemble ps).map (Char.ofNat (0x10000 + (high - 0xd800) * 0x400 + (low - 0xdc00)) :: ·)
      else none
    else if isLowSurrogate high then none
    else (assemble (.code low :: ps)).map (Char.ofNat high :: ·)
  | .code n :: ps =>
    if isHighSurrogate n ∨ isLowSurrogate n then none
    else (assemble ps).map (Char.ofNat n :: ·)

/-- The string after an opening quote, without a value if it stands for none, and the text after
it. -/
def string (cs : List Char) : Option (Option String × List Char) := do
  let (ps, rest) ← pieces cs
  return ((assemble ps).map String.ofList, rest)

/-! ## Numbers -/

/-- The digits at the front of a text, and the text after them. -/
def digits (cs : List Char) : List Nat × List Char :=
  ((cs.takeWhile Char.isDigit).map fun c => c.toNat - '0'.toNat, cs.dropWhile Char.isDigit)

/-- The parts of a number as it is written. -/
structure Literal where
  /-- There is a minus sign. -/
  negative : Bool
  /-- The digits before the point. -/
  whole : List Nat
  /-- The digits after the point, if there is a point. -/
  fraction : Option (List Nat)
  exponent : Option Int

/-- The digits before the point: a zero, or digits that do not start with one. -/
def wholePart (cs : List Char) : Option (List Nat × List Char) :=
  match digits cs with
  | ([], _) => none
  | (0 :: _ :: _, _) => none
  | (ds, rest) => some (ds, rest)

/-- The point and the digits after it, at least one, if there is a point. -/
def fractionPart : List Char → Option (Option (List Nat) × List Char)
  | '.' :: cs =>
    match digits cs with
    | ([], _) => none
    | (ds, rest) => some (some ds, rest)
  | cs => some (none, cs)

def digitsValue (ds : List Nat) : Nat := ds.foldl (fun n d => n * 10 + d) 0

/-- The exponent, with at least one digit, if there is one. -/
def exponentPart (cs : List Char) : Option (Option Int × List Char) :=
  let signed (negative : Bool) (cs : List Char) : Option (Option Int × List Char) :=
    match digits cs with
    | ([], _) => none
    | (ds, rest) => some (some (if negative then -digitsValue ds else digitsValue ds), rest)
  match cs with
  | 'e' :: '+' :: cs | 'E' :: '+' :: cs => signed false cs
  | 'e' :: '-' :: cs | 'E' :: '-' :: cs => signed true cs
  | 'e' :: cs | 'E' :: cs => signed false cs
  | cs => some (none, cs)

/-- A number as it is written, and the text after it. -/
def literal (cs : List Char) : Option (Literal × List Char) := do
  let (negative, cs) := match cs with
    | '-' :: cs => (true, cs)
    | cs => (false, cs)
  let (whole, cs) ← wholePart cs
  let (fraction, cs) ← fractionPart cs
  let (exponent, cs) ← exponentPart cs
  return (⟨negative, whole, fraction, exponent⟩, cs)

/-- The integer that a literal without point and exponent stands for, if a document can hold it.
Negative zero is no integer. -/
def Literal.whole? (l : Literal) : Option Whole :=
  let n := digitsValue l.whole
  let i : Int := if l.negative then -n else n
  if h : l.fraction = none ∧ l.exponent = none ∧ ¬ (l.negative ∧ n = 0)
      ∧ -0x8000000000000000 ≤ i ∧ i < 0x10000000000000000
  then some ⟨i, h.2.2.2.1, h.2.2.2.2⟩ else none

/-- The binary64 number that a literal is read as. -/
def Literal.real? (l : Literal) : Option Binary64 :=
  let (value, dropped) := Decimal.collectWhole 0 0 l.whole
  let (value, exponent) := Decimal.collectFraction value dropped (l.fraction.getD [])
  Decimal.toBinary64? l.negative value (exponent + l.exponent.getD 0)

/-- The number that a literal stands for. -/
def Literal.number? (l : Literal) : Option Number :=
  match l.whole? with
  | some n => some (.whole n)
  | none => l.real?.map .real

/-! ## Values -/

/-- Drops a word from the front of a text. -/
def word? : List Char → List Char → Option (List Char)
  | [], cs => some cs
  | w :: ws, c :: cs => if w = c then word? ws cs else none
  | _ :: _, [] => none

/-- A value that is neither array, object nor string. -/
def scalar (cs : List Char) : Source × Option (List Char) :=
  let named (w : String) (s : Source) : Source × Option (List Char) :=
    match word? w.toList cs with
    | some rest => (s, some rest)
    | none => (.broken, none)
  match cs with
  | 'n' :: _ => named "null" .null
  | 't' :: _ => named "true" (.bool true)
  | 'f' :: _ => named "false" (.bool false)
  | _ =>
    match literal cs with
    | some (l, rest) =>
      match l.number? with
      | some n => (.number n, some rest)
      | none => (.unreadable, some rest)
    | none => (.broken, none)

mutual

/-- The value at the front of a text; arrays and objects nest at most `fuel` deep and long. -/
def value : (fuel : Nat) → List Char → Source × Option (List Char)
  | 0, _ => (.broken, none)
  | fuel + 1, cs =>
    match skipSpace cs with
    | '"' :: cs =>
      match string cs with
      | some (some s, rest) => (.text s, some rest)
      | some (none, rest) => (.unreadable, some rest)
      | none => (.broken, none)
    | '[' :: cs =>
      match skipSpace cs with
      | ']' :: rest => (.array [] true, some rest)
      | cs =>
        let (items, rest) := items fuel cs
        (.array items rest.isSome, rest)
    | '{' :: cs =>
      match skipSpace cs with
      | '}' :: rest => (.object [] none, some rest)
      | '"' :: cs =>
        let (members, stray, rest) := members fuel cs
        (.object members stray, rest)
      -- a key was due; what stands there instead decides the fault
      | cs => (.object [] (some (value fuel cs).1), none)
    | cs => scalar cs

/-- The items of an array, up to its closing bracket. -/
def items : (fuel : Nat) → List Char → List Source × Option (List Char)
  | 0, _ => ([], none)
  | fuel + 1, cs =>
    match value fuel cs with
    | (x, none) => ([x], none)
    | (x, some rest) =>
      match skipSpace rest with
      | ']' :: rest => ([x], some rest)
      | ',' :: rest =>
        let (xs, rest) := items fuel rest
        (x :: xs, rest)
      | _ => ([x], none)

/-- The members of an object, from inside the quotes of a key up to the closing brace. -/
def members : (fuel : Nat) → List Char →
    List (Option String × Source) × Option Source × Option (List Char)
  | 0, _ => ([], some .broken, none)
  | fuel + 1, cs =>
    match string cs with
    | none => ([], some .broken, none)
    | some (key, rest) =>
      match skipSpace rest with
      | ':' :: rest =>
        match value fuel rest with
        | (x, none) => ([(key, x)], some .broken, none)
        | (x, some rest) =>
          match skipSpace rest with
          | '}' :: rest => ([(key, x)], none, some rest)
          | ',' :: rest =>
            match skipSpace rest with
            | '"' :: rest =>
              let (ms, stray, rest) := members fuel rest
              ((key, x) :: ms, stray, rest)
            | _ => ([(key, x)], some .broken, none)
          | _ => ([(key, x)], some .broken, none)
      | _ => ([(key, .broken)], some .broken, none)

end

end DomainModel.Json.Parser

namespace DomainModel

/-- The source at the front of a text, and the text after it. No part of a text nests deeper, and no
list in it is longer, than the text. -/
def Source.ofText (text : String) : Source × Option (List Char) :=
  Json.Parser.value (2 * text.length + 2) text.toList

end DomainModel
