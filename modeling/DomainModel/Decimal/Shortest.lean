import DomainModel.Decimal.Binary64

/-!
# Shortest decimals

Of all decimals that round to a given binary64 number, `Binary64.shortest` has the fewest digits,
and of those it is nearest to the number. A decimal rounds to the number if it lies between the
midpoints to the two neighbours; the midpoints themselves count if the significand is even.
-/

namespace DomainModel

/-- The number `digits · 10 ^ exponent`. -/
structure Decimal where
  digits : Nat
  /-- The power of ten of the last digit. -/
  exponent : Int
  deriving DecidableEq, Repr

namespace Decimal

/-- The same number without trailing zeros among the digits. -/
def strip (d : Decimal) : Decimal :=
  if h : d.digits ≠ 0 ∧ d.digits % 10 = 0 then strip ⟨d.digits / 10, d.exponent + 1⟩ else d
termination_by d.digits
decreasing_by exact Nat.div_lt_self (by omega) (by omega)

end Decimal

namespace Binary64

/-- A positive number `4 · significand · 2 ^ (exponent - 2)` against the grid of multiples of
`10 ^ place`: the midpoints and the number lie at `below / unit`, `value / unit`, `above / unit`
steps of the grid. -/
structure Grid where
  /-- The midpoint to the neighbour below. -/
  below : Nat
  value : Nat
  /-- The midpoint to the neighbour above. -/
  above : Nat
  unit : Nat

/-- The grid of multiples of `10 ^ place` around the magnitude of `x`. The neighbour below a power
of two is half as far away as the one above, save at the smallest exponent. -/
def grid (x : Binary64) (place : Int) : Grid :=
  let m := x.significand
  let scale := Nat.pow 2 (x.exponent - 2).toNat * Nat.pow 10 (-place).toNat
  let gap := if x.fraction = 0 ∧ 1 < x.biased then 1 else 2
  { below := (4 * m - gap) * scale
    value := 4 * m * scale
    above := (4 * m + 2) * scale
    unit := Nat.pow 2 (2 - x.exponent).toNat * Nat.pow 10 place.toNat }

/-- Whether the `n`-th step of the grid rounds to `x`. -/
def rounds (x : Binary64) (g : Grid) (n : Nat) : Bool :=
  -- a midpoint rounds to the neighbour with the even significand
  if x.significand % 2 = 0 then g.below ≤ n * g.unit && n * g.unit ≤ g.above
  else g.below < n * g.unit && n * g.unit < g.above

/-- The step of the grid nearest to `x` among those that round to `x`, if there is one. -/
def nearestStep (x : Binary64) (g : Grid) : Option Nat :=
  let low := g.value / g.unit
  match x.rounds g low, x.rounds g (low + 1) with
  | true, true =>
    let toLow := g.value - low * g.unit
    let toHigh := (low + 1) * g.unit - g.value
    if toLow < toHigh ∨ (toLow = toHigh ∧ low % 2 = 0) then some low else some (low + 1)
  | true, false => some low
  | false, true => some (low + 1)
  | false, false => none

/-- The place of the first decimal digit of the magnitude of `x`, which is not zero: the binary
logarithm gives it up to one. -/
def leadingPlace (x : Binary64) : Int :=
  -- the fraction is the decimal logarithm of two, a little above
  let low := ((x.significand.log2 : Int) + x.exponent) * 30103 / 100000
  let g := x.grid (low + 1)
  if g.unit ≤ g.value then low + 1 else low

/-- The first grid on which a step rounds to `x`, from `count` digits on. -/
def searchDigits (x : Binary64) (leading : Int) : (count fuel : Nat) → Decimal
  | _, 0 => ⟨x.significand, 0⟩
  | count, fuel + 1 =>
    let place := leading - count + 1
    match x.nearestStep (x.grid place) with
    | some n => Decimal.strip ⟨n, place⟩
    | none => searchDigits x leading (count + 1) fuel

/-- The shortest decimal that rounds to the magnitude of `x`; 17 digits always suffice. -/
def shortest (x : Binary64) : Decimal :=
  if x.significand = 0 then ⟨0, 0⟩ else searchDigits x x.leadingPlace 1 17

end Binary64

end DomainModel
