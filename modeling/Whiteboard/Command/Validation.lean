import Whiteboard.Command.Basic
import Whiteboard.Shape.Spec

/-!
# Validation

A command becomes a shape specification if it breaks none of four rules, checked in order: it names
a kind, it has coordinates, it has a size if its kind needs one, and an arrow has an end.
-/

namespace Whiteboard

/-- The rule that a command breaks. -/
inductive Rejection
  /-- The text under `shape` names no kind, or there is none. -/
  | invalidShapeType (raw : Option Text)
  | missingCoordinates (kind : ShapeKind)
  | missingDimensions (kind : ShapeKind)
  | missingArrowEndpoint
  deriving DecidableEq

namespace Rejection

/-- The code of a rejection, for machines. -/
def code : Rejection → Text
  | .invalidShapeType _ => "E_INVALID_SHAPE_TYPE".toList
  | .missingCoordinates _ => "E_MISSING_COORDINATES".toList
  | .missingDimensions _ => "E_MISSING_DIMENSIONS".toList
  | .missingArrowEndpoint => "E_MISSING_ARROW_ENDPOINT".toList

/-- The text of a rejection, for people. -/
def message : Rejection → Text
  | .invalidShapeType raw => "invalid shape type: ".toList ++ raw.getD "<missing>".toList
  | .missingCoordinates kind => kind.name ++ " is missing x/y coordinates".toList
  | .missingDimensions kind => kind.name ++ " requires width and height".toList
  | .missingArrowEndpoint => "arrow requires endX/endY or from/to".toList

end Rejection

namespace Command

/-- A numeric parameter as a coordinate. -/
def coordinate? (c : Command) (key : Key) : Option Binary64 :=
  (c.number? key).map fun n => Binary64.ofInt n.toInt

/-- Whether an arrow has an end: both literal coordinates, or both references. -/
def hasArrowEnd (c : Command) : Bool :=
  ((c.number? .endX).isSome && (c.number? .endY).isSome) ||
    ((c.reference? .source).isSome && (c.reference? .target).isSome)

/-- The shape that a command asks for, or the first rule it breaks. -/
def validate (c : Command) : Except Rejection ShapeSpec :=
  match (c.text? .shape).bind ShapeKind.read?, c.coordinate? .x, c.coordinate? .y with
  | none, _, _ => .error (.invalidShapeType (c.text? .shape))
  | some kind, some x, some y =>
    let width := c.coordinate? .width
    let height := c.coordinate? .height
    if kind.needsSize && (width.isNone || height.isNone) then .error (.missingDimensions kind)
    else if kind = .arrow && !c.hasArrowEnd then .error .missingArrowEndpoint
    else
      .ok {
        kind, x, y, width, height
        label := (c.text? .label).getD []
        endX := c.coordinate? .endX
        endY := c.coordinate? .endY
        source := c.reference? .source
        target := c.reference? .target
        ident := c.reference? .ident }
  | some kind, _, _ => .error (.missingCoordinates kind)

/-- The shape that a command asks for, if it breaks no rule. -/
def spec? (c : Command) : Option ShapeSpec :=
  match c.validate with
  | .ok spec => some spec
  | .error _ => none

/-- The rule that a command breaks, if it breaks one. -/
def rejection? (c : Command) : Option Rejection :=
  match c.validate with
  | .ok _ => none
  | .error rejection => some rejection

end Command

end Whiteboard
