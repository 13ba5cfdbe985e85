import Whiteboard.Text.Basic

/-!
# Kinds of shape

The five kinds a surface can draw, and their names.
-/

namespace Whiteboard

/-- A kind of shape. -/
inductive ShapeKind
  | rectangle
  | ellipse
  | arrow
  | circle
  | square
  deriving DecidableEq, Inhabited

namespace ShapeKind

/-- Every kind. -/
def all : List ShapeKind := [.rectangle, .ellipse, .arrow, .circle, .square]

/-- The name of a kind. -/
def name : ShapeKind → Text
  | .rectangle => "rectangle".toList
  | .ellipse => "ellipse".toList
  | .arrow => "arrow".toList
  | .circle => "circle".toList
  | .square => "square".toList

/-- The kind with exactly this name. -/
def ofName? (s : Text) : Option ShapeKind := all.find? fun kind => kind.name = s

/-- The kind with this name, in small or capital letters. -/
def read? (s : Text) : Option ShapeKind := ofName? s.lower

/-- Whether a shape of this kind cannot be drawn without width and height. -/
def needsSize : ShapeKind → Bool
  | .rectangle | .ellipse => true
  | .arrow | .circle | .square => false

theorem mem_all (kind : ShapeKind) : kind ∈ all := by
  cases kind <;> simp [all]

/-- A kind is found by its name. -/
theorem ofName?_name (kind : ShapeKind) : ofName? kind.name = some kind := by
  cases kind <;> decide

/-- Only a kind's own name finds it. -/
theorem name_eq_of_ofName? {s : Text} {kind : ShapeKind} (h : ofName? s = some kind) :
    kind.name = s := by
  simpa using List.find?_some h

end ShapeKind

end Whiteboard
