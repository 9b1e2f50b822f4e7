/-!
# Finite binary64 numbers

A number is held by its 64 bits. Its magnitude is `significand · 2 ^ exponent`.
-/

namespace DomainModel

/-- A finite binary64 number, by its bits: the sign, eleven bits of exponent, 52 of fraction. -/
structure Binary64 where
  bits : UInt64
  /-- The exponent is not the one of the infinities and of what is no number. -/
  finite : bits.toNat / 0x10000000000000 % 0x800 ≠ 0x7ff
  deriving DecidableEq, Repr

namespace Binary64

/-- The number with these bits, unless they stand for an infinity or for no number. -/
def ofBits? (bits : UInt64) : Option Binary64 :=
  if h : bits.toNat / 0x10000000000000 % 0x800 ≠ 0x7ff then some ⟨bits, h⟩ else none

/-- Whether the sign bit is set; it is in negative zero. -/
def negative (x : Binary64) : Bool := 0x8000000000000000 ≤ x.bits.toNat

def biased (x : Binary64) : Nat := x.bits.toNat / 0x10000000000000 % 0x800

def fraction (x : Binary64) : Nat := x.bits.toNat % 0x10000000000000

/-- The integer that the magnitude is a multiple of a power of two of. -/
def significand (x : Binary64) : Nat :=
  if x.biased = 0 then x.fraction else 0x10000000000000 + x.fraction

/-- The power of two that goes with `significand`. -/
def exponent (x : Binary64) : Int :=
  if x.biased = 0 then -1074 else x.biased - 1075

end Binary64

end DomainModel
