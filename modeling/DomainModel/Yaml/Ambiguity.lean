import DomainModel.Json.Basic

/-!
# Plain texts that would not be read as texts

A text written without quotes is read back as something else if it spells null, a truth value, an
integer or a float. Digits that start with a zero spell no number, but are not safe either.
-/

namespace DomainModel.Yaml

/-- The spellings of null and of the truth values. -/
def words : List String :=
  ["null", "Null", "NULL", "~", "true", "True", "TRUE", "false", "False", "FALSE"]

/-- The spellings of the infinities without sign, and of what is no number. -/
def specialFloats : List String :=
  [".inf", ".Inf", ".INF", "+.inf", "+.Inf", "+.INF", "-.inf", "-.Inf", "-.INF", ".nan", ".NaN",
   ".NAN"]

/-- The sign a text starts with, as whether it is a minus, and the text after it. -/
def splitSign : List Char → Option Bool × List Char
  | '+' :: cs => (some false, cs)
  | '-' :: cs => (some true, cs)
  | cs => (none, cs)

def digitIn (base : Nat) (c : Char) : Option Nat :=
  let n := c.toNat
  let value :=
    if 0x30 ≤ n ∧ n ≤ 0x39 then n - 0x30
    else if 0x61 ≤ n ∧ n ≤ 0x66 then n - 0x61 + 10
    else if 0x41 ≤ n ∧ n ≤ 0x46 then n - 0x41 + 10
    else 16
  if value < base then some value else none

/-- The number that digits in a base make; there has to be one. -/
def numberIn (base : Nat) (cs : List Char) : Option Nat :=
  if cs = [] then none
  else cs.foldl (fun n c => do return (← n) * base + (← digitIn base c)) (some 0)

/-- The base and the digits of an integer, by the letters before it. -/
def splitBase : List Char → Nat × List Char
  | '0' :: 'x' :: cs => (16, cs)
  | '0' :: 'o' :: cs => (8, cs)
  | '0' :: 'b' :: cs => (2, cs)
  | cs => (10, cs)

/-- At least two digits of which the first is a zero, after an optional sign. -/
def isPaddedDigits (cs : List Char) : Bool :=
  match (splitSign cs).2 with
  | '0' :: d :: ds => (d :: ds).all Char.isDigit
  | _ => false

/-- An integer of 128 bits: unsigned, or signed if it has a minus. -/
def isInteger (cs : List Char) : Bool :=
  let (sign, digits) := splitSign cs
  let (base, digits) := splitBase digits
  match numberIn base digits with
  | none => false
  | some n =>
    !(isPaddedDigits cs)
      && (if sign = some true then decide (n ≤ Nat.pow 2 127) else decide (n < Nat.pow 2 128))

/-- Whether `digits · 10 ^ exponent` rounds to a finite binary64 number: it is below the midpoint
between the greatest of these and the next power of two. Numbers with far fewer or far more digits
before the point are decided by their count. -/
def roundsToFinite (digits : Nat) (exponent : Int) : Bool :=
  let bound := Nat.pow 2 1024 - Nat.pow 2 970
  let point : Int := exponent + (Nat.toDigits 10 digits).length
  if digits = 0 ∨ point < 300 then true
  else if 320 < point then false
  else decide (digits * Nat.pow 10 exponent.toNat < bound * Nat.pow 10 (-exponent).toNat)

/-- The exponent that a float ends in; it has to have digits. -/
def exponentOf : List Char → Option Int
  | [] => some 0
  | e :: cs =>
    if e = 'e' ∨ e = 'E' then
      let (sign, digits) := splitSign cs
      (numberIn 10 digits).map fun n => if sign = some true then -n else n
    else none

/-- A finite float in decimal notation: digits with a point somewhere or none, and an exponent or
none. -/
def isDecimalFloat (cs : List Char) : Bool :=
  let unsigned := (splitSign cs).2
  let whole := unsigned.takeWhile Char.isDigit
  let (fraction, rest) :=
    match unsigned.dropWhile Char.isDigit with
    | '.' :: cs => (cs.takeWhile Char.isDigit, cs.dropWhile Char.isDigit)
    | cs => ([], cs)
  match numberIn 10 (whole ++ fraction), exponentOf rest with
  | some n, some e => roundsToFinite n (e - fraction.length)
  | _, _ => false

/-- Whether a text written without quotes would not be read as that text. -/
def isAmbiguous (s : String) : Bool :=
  s = "" || words.contains s || specialFloats.contains s || isInteger s.toList
    || isPaddedDigits s.toList || isDecimalFloat s.toList

end DomainModel.Yaml
