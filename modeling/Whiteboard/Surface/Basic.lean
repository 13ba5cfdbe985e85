import Whiteboard.Shape.Spec
import Whiteboard.Surface.Id

/-!
# Surfaces

A surface draws shapes. It is seen only through three calls: it creates a shape and answers with
the shape's id or an error, it settles what it created, and it tells whether it holds a shape. A
shape may become visible only when the surface settles.
-/

namespace Whiteboard

/-- A shape to be created. An arrow may be bound to shapes that the surface holds: `tail` is where
it starts, `head` where it ends. -/
structure ShapeCall where
  spec : ShapeSpec
  tail : Option SurfaceId := none
  head : Option SurfaceId := none
  deriving DecidableEq

/-- Why a surface creates nothing. -/
inductive SurfaceError
  /-- The surface does not want this shape. -/
  | rejected (kind : ShapeKind) (reason : Text)
  /-- The surface cannot draw now. -/
  | unavailable (reason : Text)
  deriving DecidableEq

namespace SurfaceError

/-- The code of an error, for machines. -/
def code : SurfaceError → Text
  | .rejected _ _ => "E_SURFACE_REJECTED".toList
  | .unavailable _ => "E_SURFACE_UNAVAILABLE".toList

/-- The text of an error, for people. -/
def message : SurfaceError → Text
  | .rejected kind reason => "surface rejected ".toList ++ kind.name ++ ": ".toList ++ reason
  | .unavailable reason => "surface unavailable: ".toList ++ reason

/-- Whether the same call may succeed later. -/
def isRetryable : SurfaceError → Bool
  | .rejected _ _ => false
  | .unavailable _ => true

end SurfaceError

/-- The answer to a creation call. -/
inductive Answer
  | created (id : SurfaceId)
  | failed (error : SurfaceError)
  deriving DecidableEq

/-- A surface, by what each call does to its board. -/
structure Surface (Board : Type) where
  create : ShapeCall → Board → Answer × Board
  contains : SurfaceId → Board → Bool × Board
  /-- Without a reason to wait, there is nothing to settle. -/
  settle : Board → Board := id

/-- One creation, and the settling that follows it whatever the answer. -/
def Surface.draw {Board : Type} (S : Surface Board) (call : ShapeCall) (board : Board) :
    Answer × Board :=
  let (answer, board) := S.create call board
  (answer, S.settle board)

end Whiteboard
