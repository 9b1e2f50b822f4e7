import DomainModel.Decimal.Shortest

/-!
# Numerals for binary64 numbers

A number is written with its shortest digits. If the point falls into the first sixteen digits or
at most four places before them the number is written out, always with a digit on either side of
the point; otherwise it has an exponent. Styles differ only in the sign of a positive exponent.
-/

namespace DomainModel

/-- The choices made in writing a number. -/
structure NumeralStyle where
  /-- Whether a positive exponent has a plus sign. -/
  plusExponent : Bool

namespace NumeralStyle

/-- An exponent in decimal digits. -/
def exponentText (style : NumeralStyle) (e : Int) : List Char :=
  let sign := if e < 0 then ['-'] else if style.plusExponent then ['+'] else []
  sign ++ Nat.toDigits 10 e.natAbs

/-- A decimal in text. -/
def decimalText (style : NumeralStyle) (d : Decimal) : List Char :=
  let digits := Nat.toDigits 10 d.digits
  let point : Int := d.exponent + digits.length
  if d.digits = 0 then ['0', '.', '0']
  else if 0 < point ∧ point ≤ 16 then
    let rest := digits.drop point.toNat
    digits.take point.toNat ++ List.replicate d.exponent.toNat '0'
      ++ '.' :: if rest = [] then ['0'] else rest
  else if -5 < point ∧ point ≤ 0 then
    '0' :: '.' :: List.replicate (-point).toNat '0' ++ digits
  else
    let rest := digits.drop 1
    digits.take 1 ++ (if rest = [] then [] else '.' :: rest)
      ++ 'e' :: style.exponentText (point - 1)

/-- A number in text. Negative zero keeps its sign. -/
def text (style : NumeralStyle) (x : Binary64) : List Char :=
  (if x.negative then ['-'] else []) ++ style.decimalText x.shortest

end NumeralStyle

end DomainModel
