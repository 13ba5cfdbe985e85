import Whiteboard.Json.Decode
import Whiteboard.Shape.Spec

/-!
# Specifications as exchange values

A specification is written as an object under the names of the keys; what is absent is left out, but
the label is always there. It is read from an object with more entries, in the order of the entries,
or from an array with an item for each key.
-/

namespace Whiteboard

/-- A specification being read: what the entries so far have given. -/
structure SpecDraft where
  kind : Option ShapeKind := none
  x : Option Binary64 := none
  y : Option Binary64 := none
  width : Option Binary64 := none
  height : Option Binary64 := none
  label : Text := []
  endX : Option Binary64 := none
  endY : Option Binary64 := none
  source : Option ShapeRef := none
  target : Option ShapeRef := none
  ident : Option ShapeRef := none
  deriving DecidableEq

namespace SpecDraft

/-- The draft with the value of one key. -/
def read (d : SpecDraft) (key : Key) (j : Json) : Except DecodeError SpecDraft :=
  match key with
  | .shape => j.asKind.map fun v => { d with kind := some v }
  | .x => j.asNumber.map fun v => { d with x := some v }
  | .y => j.asNumber.map fun v => { d with y := some v }
  | .width => (j.asOption Json.asNumber).map fun v => { d with width := v }
  | .height => (j.asOption Json.asNumber).map fun v => { d with height := v }
  | .label => j.asText.map fun v => { d with label := v }
  | .endX => (j.asOption Json.asNumber).map fun v => { d with endX := v }
  | .endY => (j.asOption Json.asNumber).map fun v => { d with endY := v }
  | .source => (j.asOption Json.asRef).map fun v => { d with source := v }
  | .target => (j.asOption Json.asRef).map fun v => { d with target := v }
  | .ident => (j.asOption Json.asRef).map fun v => { d with ident := v }

/-- The specification, if what every one needs is there. -/
def finish (d : SpecDraft) : Except DecodeError ShapeSpec :=
  match d.kind, d.x, d.y with
  | some kind, some x, some y =>
    .ok {
      kind, x, y
      width := d.width
      height := d.height
      label := d.label
      endX := d.endX
      endY := d.endY
      source := d.source
      target := d.target
      ident := d.ident }
  | _, _, _ => .error .malformed

end SpecDraft

namespace ShapeSpec

/-- The written form of a value under a key, if there is one to write. -/
def field? (spec : ShapeSpec) : Key → Option Json
  | .shape => some (.str spec.kind.name)
  | .x => some (.number spec.x)
  | .y => some (.number spec.y)
  | .width => spec.width.map .number
  | .height => spec.height.map .number
  | .label => some (.str spec.label)
  | .endX => spec.endX.map .number
  | .endY => spec.endY.map .number
  | .source => spec.source.map fun r => .str r.text
  | .target => spec.target.map fun r => .str r.text
  | .ident => spec.ident.map fun r => .str r.text

/-- The written form of a specification. -/
def toJson (spec : ShapeSpec) : Json :=
  .object (Key.all.filterMap fun key => (spec.field? key).map (key.name, ·))

/-- The specification that a value describes. -/
def ofJson (j : Json) : Except DecodeError ShapeSpec :=
  j.asRecord Key.ofName? Key.all SpecDraft.read {} SpecDraft.finish

end ShapeSpec

end Whiteboard
