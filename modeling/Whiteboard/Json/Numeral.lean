import Whiteboard.Json.Basic
import Whiteboard.Text.Decimal

/-!
# Numerals of exchange values

What a written number means. A numeral without fraction and exponent is a whole number if 64 bits
hold it, with or without sign. Any other is a floating-point number: its leading digits, as far as
64 bits hold them, are rounded, and the result is scaled by a power of ten.
-/

namespace Whiteboard

/-- A written number. -/
structure Numeral where
  negative : Bool
  /-- The digits before the point. -/
  whole : Text
  /-- The digits behind the point, if there is one. -/
  fraction : Option Text := none
  /-- The power of ten, if one is written. -/
  exponent : Option Int := none

namespace Numeral

/-- A significand of 64 bits and the power of ten that scales it. -/
structure Scaled where
  significand : Nat := 0
  exponent : Int := 0

/-- The digits that 64 bits hold; from the first that does not fit, each digit is worth `skipped`
powers of ten instead. -/
private def takeDigits (s : Scaled) (kept skipped : Int) : Text → Scaled
  | [] => s
  | digits@(c :: rest) =>
    let next := 10 * s.significand + (c.toNat - '0'.toNat)
    if next < UInt64.size then takeDigits ⟨next, s.exponent + kept⟩ kept skipped rest
    else ⟨s.significand, s.exponent + skipped * digits.length⟩

/-- The significand of a numeral, and its power of ten without the written exponent. -/
def significand (n : Numeral) : Scaled :=
  takeDigits (takeDigits {} 0 1 n.whole) (-1) 0 (n.fraction.getD [])

/-- A finite number times or by another, rounded once. -/
private def scale (v : Binary64) (power : Nat) (divide : Bool) : Binary64 :=
  let ten := Binary64.ofRatio false (Nat.pow 10 power) 1
  if divide then Binary64.ofRatio v.isNegative v.magnitude ten.magnitude
  else Binary64.ofRatio v.isNegative (v.magnitude * ten.magnitude) (Binary64.unit * Binary64.unit)

/-- The floating-point number that a numeral denotes, if it is not too large. -/
def float? (n : Numeral) : Option Binary64 :=
  let s := n.significand
  let v := Binary64.ofRatio n.negative s.significand 1
  let e := s.exponent + n.exponent.getD 0
  if s.significand = 0 then some v
  else if 308 < e then none
  else
    let scaled :=
      if 0 ≤ e then scale v e.toNat false
      else if -308 ≤ e then scale v (-e).toNat true
      -- a power of ten beyond the 308th is no number, so what is smaller takes two steps
      else scale (scale v 308 true) (min 308 (-e - 308)).toNat true
    if scaled.isFinite then some scaled else none

/-- The value that a numeral denotes, if it is not too large. -/
def value? (n : Numeral) : Option Json :=
  let size := Nat.ofDigitChars 10 n.whole 0
  if n.fraction.isNone && n.exponent.isNone then
    if n.negative then
      if 0 < size && size ≤ UInt64.size / 2 then some (.int (-size)) else n.float?.map .float
    else if size < UInt64.size then some (.int size)
    else n.float?.map .float
  else n.float?.map .float

end Numeral

end Whiteboard
