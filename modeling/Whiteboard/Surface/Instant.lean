import Whiteboard.Surface.Basic

/-!
# The instant surface

A surface that holds a shape as soon as it is created, and never has anything to settle.
-/

namespace Whiteboard

/-- The ids that an instant surface has given, the first one first. -/
structure Instant where
  ids : List SurfaceId := []
  deriving Inhabited

namespace Instant

/-- The instant surface with a supply of ids. -/
def surface (supply : Nat → SurfaceId) : Surface Instant where
  create _ board :=
    let id := supply board.ids.length
    (.created id, ⟨board.ids ++ [id]⟩)
  contains id board := (board.ids.contains id, board)

end Instant

end Whiteboard
