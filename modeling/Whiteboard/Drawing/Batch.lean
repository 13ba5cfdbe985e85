import Whiteboard.Shape.Spec

/-!
# Batches

What is drawn in one go: shapes first, then arrows, which may refer to any of the shapes.
-/

namespace Whiteboard

/-- The shapes and the arrows of one go. -/
structure Batch where
  shapes : List ShapeSpec := []
  arrows : List ShapeSpec := []
  deriving DecidableEq

namespace Batch

/-- The batch of some specifications; shapes and arrows keep their order. -/
def ofSpecs (specs : List ShapeSpec) : Batch where
  shapes := specs.filter fun spec => !spec.isArrow
  arrows := specs.filter ShapeSpec.isArrow

/-- Whether there is nothing to draw. -/
def isEmpty (batch : Batch) : Bool := batch.shapes.isEmpty && batch.arrows.isEmpty

end Batch

end Whiteboard
