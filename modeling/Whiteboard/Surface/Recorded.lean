import Whiteboard.Surface.Basic

/-!
# Recorded surfaces

Any surface can be watched: each call is recorded with its answer, and the surface itself is left as
it is.
-/

namespace Whiteboard

/-- A call on a surface, with the answer. -/
inductive Event
  | create (call : ShapeCall) (answer : Answer)
  | settle
  | contains (id : SurfaceId) (answer : Bool)
  deriving DecidableEq

/-- A board and what happened on it, the first event first. -/
structure Recorded (Board : Type) where
  board : Board
  events : List Event := []

/-- The surface with every call recorded. -/
def Surface.recorded {Board : Type} (S : Surface Board) : Surface (Recorded Board) where
  create call r :=
    let (answer, board) := S.create call r.board
    (answer, ⟨board, r.events ++ [.create call answer]⟩)
  contains id r :=
    let (answer, board) := S.contains id r.board
    (answer, ⟨board, r.events ++ [.contains id answer]⟩)
  settle r := ⟨S.settle r.board, r.events ++ [.settle]⟩

end Whiteboard
