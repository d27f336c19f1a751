import Mathlib.Algebra.Group.Int.Defs
import Mathlib.Algebra.Group.Nat.Defs
import Mathlib.Data.Nat.Basic

/-!
# IEEE 754 binary numbers

Floating point numbers as bit patterns, with the operations a program compares and converts them
by.  A `Format` gives the widths of the exponent and of the fraction; all operations are functions
on the numbers of the bit patterns, so they can be evaluated.  A finite pattern stands for a
`Dyadic`, an integer times a power of two, and `Format.round` is the one rounding (to nearest, ties
to even) every arithmetic result goes through.

The special patterns are recognised first: a NaN compares as unordered and is kept as a quiet NaN by
a conversion, and infinities are handled apart from numbers.  What is left is arithmetic on dyadic
numbers, which is exact, and one rounding.  Comparisons need no rounding at all, since they compare
the dyadic numbers.
-/

namespace Dnp3
namespace Library

/-- The number `sig * 2 ^ exp`. -/
structure Dyadic where
  sig : Int
  exp : Int
  deriving DecidableEq, Repr

namespace Dyadic

/-- The significand over the exponent `e`, where `e` is not above the exponent. -/
def scaled (x : Dyadic) (e : Int) : Int := x.sig * 2 ^ (x.exp - e).toNat

/-- Compare two numbers at the smaller of their exponents. -/
def lt (x y : Dyadic) : Bool :=
  let e := min x.exp y.exp
  x.scaled e < y.scaled e

/-- Subtract two numbers at the smaller of their exponents; the result is exact. -/
def sub (x y : Dyadic) : Dyadic :=
  let e := min x.exp y.exp
  { sig := x.scaled e - y.scaled e, exp := e }

/-- The integer part, towards zero. -/
def truncate (x : Dyadic) : Int :=
  if 0 ≤ x.exp then x.sig * 2 ^ x.exp.toNat else x.sig.tdiv (2 ^ (-x.exp).toNat)

end Dyadic

/-- The widths of a binary interchange format. -/
structure Format where
  expBits : Nat
  fracBits : Nat
  deriving DecidableEq, Repr

namespace Format

variable (F : Format)

/-- The exponent field of infinities and NaNs. -/
def expMax : Nat := 2 ^ F.expBits - 1

/-- What the exponent field is greater than the exponent by. -/
def bias : Int := 2 ^ (F.expBits - 1) - 1

/-- The exponent of the last bit of a subnormal number. -/
def expMin : Int := 1 - F.bias - F.fracBits

/-- The weight of the sign. -/
def signBit : Nat := 2 ^ (F.expBits + F.fracBits)

/-- The sign is set. -/
def negative (bits : Nat) : Bool := bits / F.signBit % 2 = 1

/-- The exponent field. -/
def expField (bits : Nat) : Nat := bits / 2 ^ F.fracBits % 2 ^ F.expBits

/-- The fraction, without the leading bit. -/
def fraction (bits : Nat) : Nat := bits % 2 ^ F.fracBits

/-- The pattern stands for no number. -/
def isNaN (bits : Nat) : Bool := F.expField bits = F.expMax ∧ F.fraction bits ≠ 0

/-- The pattern stands for an infinity. -/
def isInf (bits : Nat) : Bool := F.expField bits = F.expMax ∧ F.fraction bits = 0

/-- Attach a sign to the pattern of a magnitude. -/
def withSign (negative : Bool) (bits : Nat) : Nat := if negative then F.signBit + bits else bits

/-- The infinity of a sign. -/
def inf (negative : Bool) : Nat := F.withSign negative (F.expMax * 2 ^ F.fracBits)

/-- The quiet NaN that invalid operations give. -/
def nan : Nat := F.withSign true (F.expMax * 2 ^ F.fracBits + 2 ^ (F.fracBits - 1))

/-- The value of a finite pattern. -/
def value (bits : Nat) : Dyadic :=
  let magnitude : Dyadic :=
    if F.expField bits = 0 then { sig := F.fraction bits, exp := F.expMin }
    else { sig := 2 ^ F.fracBits + F.fraction bits, exp := F.expMin + F.expField bits - 1 }
  if F.negative bits then { magnitude with sig := -magnitude.sig } else magnitude

/-- Drop `d` bits, rounding to nearest, ties to even. -/
def roundShift (n d : Nat) : Nat :=
  let q := n / 2 ^ d
  let r := 2 * (n % 2 ^ d)
  if r > 2 ^ d ∨ (r = 2 ^ d ∧ q % 2 = 1) then q + 1 else q

/-- The pattern nearest to a number.  `zeroSign` is the sign of a zero result. -/
def round (zeroSign : Bool) (x : Dyadic) : Nat :=
  if x.sig = 0 then F.withSign zeroSign 0
  else
    let n := x.sig.natAbs
    -- the exponent of the last bit that is kept
    let e := max (x.exp + (Nat.log2 n + 1) - (F.fracBits + 1)) F.expMin
    let kept := if e ≤ x.exp then n * 2 ^ (x.exp - e).toNat else roundShift n (e - x.exp).toNat
    let bits := (e - F.expMin).toNat * 2 ^ F.fracBits + kept
    if F.expMax * 2 ^ F.fracBits ≤ bits then F.inf (x.sig < 0) else F.withSign (x.sig < 0) bits

/-- The nearest pattern of an integer. -/
def ofInt (i : Int) : Nat := F.round false { sig := i, exp := 0 }

/-- `x < y`; false when one of them is not a number. -/
def lt (x y : Nat) : Bool :=
  if F.isNaN x || F.isNaN y then false
  else if F.isInf x then F.negative x && !(F.isInf y && F.negative y)
  else if F.isInf y then !F.negative y
  else (F.value x).lt (F.value y)

/-- `x == y`: zeros are equal, and a NaN equals nothing. -/
def eq (x y : Nat) : Bool := !F.isNaN x && !F.isNaN y && !F.lt x y && !F.lt y x

/-- The nearest pattern of a difference, with the rules for infinities and NaNs. -/
def sub (x y : Nat) : Nat :=
  if F.isNaN x || F.isNaN y then F.nan
  else if F.isInf x then
    if F.isInf y && F.negative x == F.negative y then F.nan else F.inf (F.negative x)
  else if F.isInf y then F.inf (!F.negative y)
  else F.round (F.negative x && !F.negative y) ((F.value x).sub (F.value y))

/-- Clear the sign. -/
def abs (x : Nat) : Nat := x % F.signBit

/-- Convert a pattern to another format; a NaN keeps the upper bits of its payload and is quiet. -/
def convert (G : Format) (x : Nat) : Nat :=
  if F.isNaN x then
    let payload := F.fraction x * 2 ^ G.fracBits / 2 ^ F.fracBits % 2 ^ (G.fracBits - 1)
    G.withSign (F.negative x) (G.expMax * 2 ^ G.fracBits + 2 ^ (G.fracBits - 1) + payload)
  else if F.isInf x then G.inf (F.negative x)
  else G.round (F.negative x) (F.value x)

end Format

/-- binary32 and binary64. -/
def binary32 : Format := { expBits := 8, fracBits := 23 }

/-- Double precision. -/
def binary64 : Format := { expBits := 11, fracBits := 52 }

-- 1.5, the largest subnormal binary32 number widened, and one third rounded to binary32
example : binary64.round false { sig := 3, exp := -1 } = 0x3FF8000000000000 := by decide +kernel
example : binary32.convert binary64 0x007FFFFF = 0x380FFFFFC0000000 := by decide +kernel
example : binary64.convert binary32 0x3FD5555555555555 = 0x3EAAAAAB := by decide +kernel

-- the zeros are equal
example : binary32.eq 0x80000000 0 = true := by decide +kernel

end Library
end Dnp3
