import DomainModel.Decimal.Binary64

/-!
# Reading decimals

The digits of a number are collected in an integer below `2 ^ 64`. A digit that no longer fits is
dropped: before the point it still counts for the magnitude, after the point it counts for nothing.
The integer and the power of ten are each rounded to binary64 and then multiplied or divided, so a
long decimal may be read as a neighbour of the nearest number.
-/

namespace DomainModel.Decimal

/-- The integers that collected digits can make lie below this bound. -/
def digitBound : Nat := 0x10000000000000000

/-- Collects the digits before the point: the integer made of the first of them, and how many were
dropped. -/
def collectWhole (value dropped : Nat) : List Nat → Nat × Nat
  | [] => (value, dropped)
  | d :: ds =>
    -- after the first digit that does not fit, all are dropped
    if dropped = 0 ∧ value * 10 + d < digitBound then collectWhole (value * 10 + d) 0 ds
    else collectWhole value (dropped + 1) ds

/-- Collects the digits after the point, up to the first that no longer fits. -/
def collectFraction (value : Nat) (exponent : Int) : List Nat → Nat × Int
  | [] => (value, exponent)
  | d :: ds =>
    if value * 10 + d < digitBound then collectFraction (value * 10 + d) (exponent - 1) ds
    else (value, exponent)

/-- The power of ten nearest to `10 ^ n`, for `n` at most 308. -/
def powerOfTen (n : Nat) : Float := Float.ofScientific 1 false n

/-- Divides by `10 ^ n`, by at most `10 ^ 308` at a time. -/
def scaleDown (x : Float) (n : Nat) : Float :=
  if n ≤ 308 then x / powerOfTen n
  else if x == 0 then x
  else scaleDown (x / powerOfTen 308) (n - 308)
termination_by n

/-- The number read for `value · 10 ^ exponent`, unless it is beyond all binary64 numbers. -/
def toBinary64? (negative : Bool) (value : Nat) (exponent : Int) : Option Binary64 :=
  let start := (UInt64.ofNat value).toFloat
  let magnitude :=
    if exponent < 0 then scaleDown start exponent.natAbs
    else if exponent ≤ 308 then start * powerOfTen exponent.toNat
    else if value = 0 then start
    -- an infinity, which stands for no number
    else start / 0
  Binary64.ofBits? (if negative then -magnitude else magnitude).toBits

end DomainModel.Decimal
