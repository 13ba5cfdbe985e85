import Whiteboard.Number.Binary64
import Whiteboard.Shape.Kind
import Whiteboard.Shape.Ref

/-!
# Shape specifications

What is to be drawn: a kind, a place, and whatever the kind needs besides.
-/

namespace Whiteboard

/-- A shape that may be handed to a surface. An arrow starts at `x, y` or at the shape `source`
names, and ends at `endX, endY` or at the shape `target` names. -/
structure ShapeSpec where
  kind : ShapeKind
  x : Binary64
  y : Binary64
  width : Option Binary64 := none
  height : Option Binary64 := none
  label : Text := []
  endX : Option Binary64 := none
  endY : Option Binary64 := none
  source : Option ShapeRef := none
  target : Option ShapeRef := none
  /-- The name by which arrows refer to this shape. -/
  ident : Option ShapeRef := none
  deriving DecidableEq, Inhabited

namespace ShapeSpec

/-- Whether the shape is an arrow. -/
def isArrow (spec : ShapeSpec) : Bool := spec.kind = .arrow

/-- The literal end of an arrow, if both coordinates are there. -/
def endPoint? (spec : ShapeSpec) : Option (Binary64 × Binary64) :=
  match spec.endX, spec.endY with
  | some x, some y => some (x, y)
  | _, _ => none

end ShapeSpec

end Whiteboard
