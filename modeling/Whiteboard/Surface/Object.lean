import Whiteboard.Json.Decode
import Whiteboard.Surface.Basic

/-!
# Objects

A shape as a surface keeps it: its id, its geometry, its place in the stack, and whatever else is to
be shown, as an exchange value.
-/

namespace Whiteboard

/-- A shape on a surface. -/
structure Object where
  id : SurfaceId
  kind : ShapeKind
  x : Binary64
  y : Binary64
  width : Option Binary64
  height : Option Binary64
  zIndex : Int32
  props : Json

namespace ShapeCall

/-- A point as an exchange value. -/
def point (x y : Binary64) : Json :=
  .object [("x".toList, .number x), ("y".toList, .number y)]

/-- What is shown besides the geometry: the label, and for an arrow its start, its literal end and
the shapes it is bound to. -/
def props (call : ShapeCall) : Json :=
  let spec := call.spec
  let label := [("text".toList, Json.str spec.label)]
  let ends :=
    if spec.isArrow then
      [("a".toList, point spec.x spec.y)] ++
        (spec.endPoint?.map fun (x, y) => ("b".toList, point x y)).toList ++
        (call.tail.map fun id => ("source_id".toList, Json.str id.text)).toList ++
        (call.head.map fun id => ("target_id".toList, Json.str id.text)).toList
    else []
  .object (label ++ ends)

end ShapeCall

namespace Object

/-- The object that a call creates. -/
def ofCall (id : SurfaceId) (zIndex : Int32) (call : ShapeCall) : Object where
  id
  kind := call.spec.kind
  x := call.spec.x
  y := call.spec.y
  width := call.spec.width
  height := call.spec.height
  zIndex
  props := call.props

/-- A field of an object. -/
inductive Field
  | id
  | kind
  | x
  | y
  | width
  | height
  | zIndex
  | props
  deriving DecidableEq

namespace Field

/-- Every field, in the order of the items when an object is given as an array. -/
def all : List Field := [.id, .kind, .x, .y, .width, .height, .zIndex, .props]

/-- The name of a field in the exchange form. -/
def name : Field → Text
  | .id => "id".toList
  | .kind => "kind".toList
  | .x => "x".toList
  | .y => "y".toList
  | .width => "width".toList
  | .height => "height".toList
  | .zIndex => "z_index".toList
  | .props => "props".toList

/-- The field with exactly this name. -/
def ofName? (s : Text) : Option Field := all.find? fun field => field.name = s

end Field

/-- The exchange form of a field. -/
def field (o : Object) : Field → Json
  | .id => .str o.id.text
  | .kind => .str o.kind.name
  | .x => .number o.x
  | .y => .number o.y
  | .width => (o.width.map .number).getD .null
  | .height => (o.height.map .number).getD .null
  | .zIndex => .int o.zIndex.toInt
  | .props => o.props

/-- The exchange form of an object. -/
def toJson (o : Object) : Json := .object (Field.all.map fun field => (field.name, o.field field))

/-- An object being read: what the entries so far have given. -/
structure Draft where
  id : Option SurfaceId := none
  kind : Option ShapeKind := none
  x : Option Binary64 := none
  y : Option Binary64 := none
  width : Option Binary64 := none
  height : Option Binary64 := none
  zIndex : Option Int32 := none
  props : Option Json := none

namespace Draft

/-- The draft with the value of one field. -/
def read (d : Draft) (field : Field) (j : Json) : Except DecodeError Draft :=
  match field with
  | .id =>
    j.asText.bind fun s => (Json.orMalformed (SurfaceId.read? s)).map fun v => { d with id := some v }
  | .kind => j.asKind.map fun v => { d with kind := some v }
  | .x => j.asNumber.map fun v => { d with x := some v }
  | .y => j.asNumber.map fun v => { d with y := some v }
  | .width => (j.asOption Json.asNumber).map fun v => { d with width := v }
  | .height => (j.asOption Json.asNumber).map fun v => { d with height := v }
  | .zIndex => j.asInt32.map fun v => { d with zIndex := some v }
  | .props => .ok { d with props := some j }

/-- The object, if all that is needed is there. -/
def finish (d : Draft) : Except DecodeError Object :=
  match d.id, d.kind, d.x, d.y, d.zIndex, d.props with
  | some id, some kind, some x, some y, some zIndex, some props =>
    .ok { id, kind, x, y, width := d.width, height := d.height, zIndex, props }
  | _, _, _, _, _, _ => .error .malformed

end Draft

/-- The object that a value describes. -/
def ofJson (j : Json) : Except DecodeError Object :=
  j.asRecord Field.ofName? Field.all Draft.read {} Draft.finish

end Object

end Whiteboard
