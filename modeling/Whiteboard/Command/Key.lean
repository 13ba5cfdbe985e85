import Whiteboard.Text.Basic

/-!
# Parameter keys

The eleven keys a statement may give a value to. The same names are the fields of a shape
specification in its exchange form.
-/

namespace Whiteboard

/-- A key of a statement. `source` and `target` are the shapes at the two ends of an arrow, and
`ident` the name of the shape itself. -/
inductive Key
  | shape
  | x
  | y
  | width
  | height
  | label
  | endX
  | endY
  | source
  | target
  | ident
  deriving DecidableEq, Inhabited

namespace Key

/-- Every key, in the order in which parameters are listed. -/
def all : List Key :=
  [.shape, .x, .y, .width, .height, .label, .endX, .endY, .source, .target, .ident]

/-- The key as statements write it. -/
def name : Key → Text
  | .shape => "shape".toList
  | .x => "x".toList
  | .y => "y".toList
  | .width => "width".toList
  | .height => "height".toList
  | .label => "label".toList
  | .endX => "endX".toList
  | .endY => "endY".toList
  | .source => "from".toList
  | .target => "to".toList
  | .ident => "id".toList

/-- The key with exactly this name. -/
def ofName? (s : Text) : Option Key := all.find? fun key => key.name = s

/-- Whether the value of a key is a number. -/
def isNumeric : Key → Bool
  | .x | .y | .width | .height | .endX | .endY => true
  | .shape | .label | .source | .target | .ident => false

theorem mem_all (key : Key) : key ∈ all := by
  cases key <;> simp [all]

/-- A key is found by its name. -/
theorem ofName?_name (key : Key) : ofName? key.name = some key := by
  cases key <;> decide

/-- Only a key's own name finds it. -/
theorem name_eq_of_ofName? {s : Text} {key : Key} (h : ofName? s = some key) : key.name = s := by
  simpa using List.find?_some h

end Key

end Whiteboard
