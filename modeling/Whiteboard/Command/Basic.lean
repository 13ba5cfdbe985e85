import Whiteboard.Command.Key
import Whiteboard.Shape.Ref

/-!
# Commands

A command is what one statement asks for: an action and the values of some keys. The values are as
the statement gave them; whether they suit the action is for `Whiteboard.Command.Validation`.
-/

namespace Whiteboard

/-- What a command does. -/
inductive Action
  | create
  deriving DecidableEq, Inhabited

namespace Action

/-- The name of an action. -/
def name : Action → Text
  | .create => "CREATE".toList

/-- The action with exactly this name. -/
def ofName? (s : Text) : Option Action := if s = create.name then some create else none

/-- The action with this name, in small or capital letters. -/
def read? (s : Text) : Option Action := if s.lower = create.name.lower then some create else none

end Action

/-! ### Values and parameters -/

/-- The value of a parameter. -/
inductive Value
  | number (n : Int64)
  | text (t : Text)
  | reference (r : ShapeRef)
  deriving DecidableEq

namespace Value

/-- The number, if the value is one. -/
def number? : Value → Option Int64
  | .number n => some n
  | _ => none

/-- The text, if the value is one. -/
def text? : Value → Option Text
  | .text t => some t
  | _ => none

/-- The reference, if the value is one. -/
def reference? : Value → Option ShapeRef
  | .reference r => some r
  | _ => none

end Value

/-- The parameters of a statement: each key has at most one value. -/
structure Params where
  shape : Option Value := none
  x : Option Value := none
  y : Option Value := none
  width : Option Value := none
  height : Option Value := none
  label : Option Value := none
  endX : Option Value := none
  endY : Option Value := none
  source : Option Value := none
  target : Option Value := none
  ident : Option Value := none
  deriving DecidableEq

namespace Params

/-- The value of a key, if it has one. -/
def get (p : Params) : Key → Option Value
  | .shape => p.shape
  | .x => p.x
  | .y => p.y
  | .width => p.width
  | .height => p.height
  | .label => p.label
  | .endX => p.endX
  | .endY => p.endY
  | .source => p.source
  | .target => p.target
  | .ident => p.ident

/-- The parameters with one key's value replaced, or removed by `none`. -/
def set (p : Params) (key : Key) (v : Option Value) : Params :=
  match key with
  | .shape => { p with shape := v }
  | .x => { p with x := v }
  | .y => { p with y := v }
  | .width => { p with width := v }
  | .height => { p with height := v }
  | .label => { p with label := v }
  | .endX => { p with endX := v }
  | .endY => { p with endY := v }
  | .source => { p with source := v }
  | .target => { p with target := v }
  | .ident => { p with ident := v }

/-- The parameters built from pairs; of two pairs with one key the later counts. -/
def ofList (pairs : List (Key × Value)) : Params :=
  pairs.foldl (fun p (key, v) => p.set key (some v)) {}

/-- The keys that have a value, with it, in the order of `Key.all`. -/
def toList (p : Params) : List (Key × Value) :=
  Key.all.filterMap fun key => (p.get key).map (key, ·)

@[simp] theorem get_empty (key : Key) : get {} key = none := by
  cases key <;> rfl

@[simp] theorem get_set_self (p : Params) (key : Key) (v : Option Value) :
    (p.set key v).get key = v := by
  cases key <;> rfl

/-- Setting one key leaves the others alone. -/
theorem get_set_of_ne (p : Params) {key other : Key} (h : other ≠ key) (v : Option Value) :
    (p.set key v).get other = p.get other := by
  cases key <;> cases other <;> first | rfl | exact absurd rfl h

/-- Parameters are known by the values of their keys. -/
@[ext] theorem ext_get {p q : Params} (h : ∀ key, p.get key = q.get key) : p = q := by
  cases p
  cases q
  congr 1
  · exact h .shape
  · exact h .x
  · exact h .y
  · exact h .width
  · exact h .height
  · exact h .label
  · exact h .endX
  · exact h .endY
  · exact h .source
  · exact h .target
  · exact h .ident

end Params

/-! ### Commands -/

/-- One command. -/
structure Command where
  action : Action
  params : Params
  deriving DecidableEq

namespace Command

/-- The value of a key as a number; a value of another sort counts as absent. -/
def number? (c : Command) (key : Key) : Option Int64 := (c.params.get key).bind Value.number?

/-- The value of a key as a text; a value of another sort counts as absent. -/
def text? (c : Command) (key : Key) : Option Text := (c.params.get key).bind Value.text?

/-- The value of a key as a reference; a value of another sort counts as absent. -/
def reference? (c : Command) (key : Key) : Option ShapeRef :=
  (c.params.get key).bind Value.reference?

end Command

end Whiteboard
