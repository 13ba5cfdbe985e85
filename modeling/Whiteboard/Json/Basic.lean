import Whiteboard.Number.Binary64
import Whiteboard.Text.Basic

/-!
# Exchange values

The values in which shapes are exchanged: those of JSON, with whole numbers kept apart from
floating-point ones. The entries of an object stand in rising order of their names, each name once.
-/

namespace Whiteboard

/-- An exchange value. -/
inductive Json
  | null
  | bool (b : Bool)
  | int (n : Int)
  | float (v : Binary64)
  | str (s : Text)
  | arr (items : List Json)
  | obj (entries : List (Text × Json))
  deriving Inhabited

namespace Json

/-- The entries with one more, at the place of its name; an entry of that name is replaced. -/
def insertEntry (name : Text) (v : Json) : List (Text × Json) → List (Text × Json)
  | [] => [(name, v)]
  | (other, w) :: entries =>
    if name = other then (name, v) :: entries
    else if name < other then (name, v) :: (other, w) :: entries
    else (other, w) :: insertEntry name v entries

/-- The object with some entries; of two entries with one name the later counts. -/
def object (entries : List (Text × Json)) : Json :=
  .obj (entries.foldl (fun acc (name, v) => insertEntry name v acc) [])

/-- A floating-point number as a value. What is not finite has no form of its own. -/
def number (v : Binary64) : Json := if v.isFinite then .float v else .null

/-- A value as a floating-point number; a whole number is rounded to the nearest one. -/
def toNumber? : Json → Option Binary64
  | .int n => some (Binary64.ofInt n)
  | .float v => some v
  | _ => none

end Json

end Whiteboard
