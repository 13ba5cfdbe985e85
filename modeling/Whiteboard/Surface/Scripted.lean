import Whiteboard.Surface.Basic

/-!
# Scripted surfaces

A surface whose creations fail on purpose, chosen by label, so that the ways in which drawing goes
wrong can be rehearsed on any surface.
-/

namespace Whiteboard

/-- What goes wrong with a creation. -/
inductive Mishap
  /-- The surface refuses the shape. -/
  | reject
  /-- The surface cannot be reached. -/
  | unavailable
  /-- The surface answers with an id, but never holds the shape. -/
  | ghost
  deriving DecidableEq

/-- A board, and how many ids were given to shapes that it does not hold. -/
structure Scripted (Board : Type) where
  board : Board
  ghosts : Nat := 0

/-- The surface with the mishaps of some labels. Ids for shapes that are never held come from a
supply of their own. -/
def Surface.scripted {Board : Type} (S : Surface Board) (mishap : Text → Option Mishap)
    (ghost : Nat → SurfaceId) : Surface (Scripted Board) where
  create call s :=
    match mishap call.spec.label with
    | some .reject => (.failed (.rejected call.spec.kind "scripted".toList), s)
    | some .unavailable => (.failed (.unavailable "scripted".toList), s)
    | some .ghost => (.created (ghost s.ghosts), { s with ghosts := s.ghosts + 1 })
    | none =>
      let (answer, board) := S.create call s.board
      (answer, { s with board })
  contains id s :=
    let (answer, board) := S.contains id s.board
    (answer, { s with board })
  settle s := { s with board := S.settle s.board }

end Whiteboard
