import Whiteboard.Session.Basic

/-!
# Sessions on one surface

Several sessions may draw on one surface. Each request goes to one of them; the board is the only
thing that they share.
-/

namespace Whiteboard

/-- Some sessions and the board they share. -/
structure Shared (Board : Type) where
  sessions : List Session
  board : Board

namespace Shared

variable {Board : Type}

/-- What a request to one of the sessions does. A request to no session does nothing. -/
def handle (S : Surface Board) (w : Shared Board) (index : Nat) (request : Request) :
    Option BatchReport × Shared Board :=
  match w.sessions[index]? with
  | none => (none, w)
  | some s =>
    let (report, s, board) := s.handle S request w.board
    (report, ⟨w.sessions.set index s, board⟩)

/-- What a list of requests does, each to the session with its index; the reports carry the index
too. -/
def handleAll (S : Surface Board) (w : Shared Board) : List (Nat × Request) →
    List (Nat × BatchReport) × Shared Board
  | [] => ([], w)
  | (index, request) :: requests =>
    let (report, w) := w.handle S index request
    let (reports, w) := handleAll S w requests
    ((report.map (index, ·)).toList ++ reports, w)

end Shared

end Whiteboard
