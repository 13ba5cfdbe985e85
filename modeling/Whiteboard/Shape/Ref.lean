import Whiteboard.Text.Decimal

/-!
# Shape references

Statements name shapes by number, in many spellings: `shape1`, `shape:1` and `1` all name the same
shape. Only the first run of digits counts.
-/

namespace Whiteboard

/-- A shape's number in the text. -/
structure ShapeRef where
  number : UInt64
  deriving DecidableEq, Inhabited

namespace ShapeRef

/-- The one written form, `shape:<n>`. -/
def text (r : ShapeRef) : Text := "shape:".toList ++ Text.decimal r.number.toNat

/-- The reference with this number, if it fits in 64 bits. -/
def ofNat? (n : Nat) : Option ShapeRef :=
  if n < UInt64.size then some ⟨UInt64.ofNat n⟩ else none

/-- The reference that a text spells: its first run of digits, if that is a number of 64 bits. -/
def read? (s : Text) : Option ShapeRef := (Text.firstNumber? s).bind ofNat?

/-- The number of a reference gives the reference back. -/
theorem ofNat?_number (r : ShapeRef) : ofNat? r.number.toNat = some r := by
  have := r.number.toNat_lt
  simp [ofNat?, this]

end ShapeRef

end Whiteboard
