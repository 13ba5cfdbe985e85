/-!
# Binary floating-point numbers

The 64-bit binary numbers of IEEE 754, as their bits. Geometry on a surface is in this format. A
finite one is an integer multiple of `2 ^ -1074`, which is how `scaled` and `ofRatio` see it: no
other arithmetic is needed. Powers of two are written as shifts.
-/

namespace Whiteboard

/-- A binary floating-point number of 64 bits. Two are equal if their bits are, so the two zeros
differ and a number that is none is equal to itself. -/
structure Binary64 where
  /-- Sign, biased exponent and fraction, from the highest bit. -/
  bits : UInt64
  deriving DecidableEq, Inhabited

namespace Binary64

/-- The multiple of `2 ^ -1074` that one is. -/
def unit : Nat := 1 <<< 1074

/-- The highest biased exponent, kept for infinities and for what is no number. -/
def maxExponent : Nat := 2047

/-- Whether the sign bit is set. -/
def isNegative (v : Binary64) : Bool := v.bits.toNat >>> 63 = 1

/-- The 11 bits of the biased exponent. -/
def exponent (v : Binary64) : Nat := (v.bits.toNat >>> 52) % (maxExponent + 1)

/-- The 52 bits of the fraction. -/
def fraction (v : Binary64) : Nat := v.bits.toNat % (1 <<< 52)

/-- Whether a number is neither an infinity nor what is no number. -/
def isFinite (v : Binary64) : Bool := v.exponent ≠ maxExponent

/-- The size of a finite number in units of `2 ^ -1074`. -/
def magnitude (v : Binary64) : Nat :=
  if v.exponent = 0 then v.fraction else ((1 <<< 52) + v.fraction) <<< (v.exponent - 1)

/-- A finite number in units of `2 ^ -1074`. -/
def scaled (v : Binary64) : Int :=
  if v.isNegative then -(v.magnitude : Int) else v.magnitude

/-- The number with a sign and a size in bits, cut off at infinity. -/
def ofSize (negative : Bool) (size : Nat) : Binary64 :=
  ⟨UInt64.ofNat ((if negative then 1 <<< 63 else 0) + min size (maxExponent <<< 52))⟩

/-- The integer nearest to `a / d`; a half goes to the even neighbour. -/
def nearest (a d : Nat) : Nat :=
  let q := a / d
  let twice := 2 * (a % d)
  if twice < d || (twice == d && q % 2 == 0) then q else q + 1

/-- The number nearest to `± a / d`; a tie goes to the even neighbour, and what is too large for
the format becomes an infinity. The significand has 53 bits, or fewer at the lowest exponent. -/
def ofRatio (negative : Bool) (a d : Nat) : Binary64 :=
  let units := a * unit
  let shift := (units / d).log2 - 52
  -- a significand that is rounded up to 54 bits carries into the exponent, as it should
  ofSize negative ((shift <<< 52) + nearest units (d <<< shift))

/-- The number nearest to an integer, ties to even. -/
def ofInt (n : Int) : Binary64 := ofRatio (n < 0) n.natAbs 1

/-- The zero with the sign bit set. -/
def negativeZero : Binary64 := ⟨0x8000000000000000⟩

/-- The integer that a finite number is, if it has no fractional part. -/
def toInt? (v : Binary64) : Option Int :=
  if v.isFinite && v.magnitude % unit = 0 then some (v.scaled / unit) else none

end Binary64

end Whiteboard
