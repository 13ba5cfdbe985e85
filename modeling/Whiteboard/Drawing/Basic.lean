import Whiteboard.Drawing.Batch
import Whiteboard.Drawing.Bindings
import Whiteboard.Drawing.Fate

/-!
# Drawing a batch

A batch is drawn in two phases. First every shape is created, in order, and its name bound to the
id that the surface gave it. Only then the arrows are drawn, in order, so that an arrow may refer to
a shape that stands behind it in the text. A creation is always followed by settling, so an end of
an arrow is looked up only when the surface shows what it holds.

A reference that names no shape on the surface is never bound to another shape. While more text may
come, its arrow waits. Behind the last text the policy decides whether the arrow is skipped or its
end left unbound; an arrow whose head has no literal place either is always skipped.

## Main definitions

* `Policy`, `Finality` — what decides about dangling ends
* `Surface.drawShapes`, `Surface.drawArrows` — the two phases
* `Surface.drawBatch` — both
-/

namespace Whiteboard

/-- What becomes of an arrow whose references never resolve. -/
inductive Policy
  /-- It is dropped. -/
  | skip
  /-- Its dangling ends stay unbound. -/
  | unbind
  deriving DecidableEq

/-- Whether more text may come. -/
inductive Finality
  | more
  | last
  deriving DecidableEq

/-! ### Ends of arrows -/

/-- What an end of an arrow was found to be. -/
inductive Endpoint
  /-- The surface holds the shape that the reference means. -/
  | bound (id : SurfaceId)
  /-- There is no reference. -/
  | free
  /-- The reference means no shape on the surface. -/
  | missing (ref : ShapeRef)
  deriving DecidableEq

namespace Endpoint

/-- The shape that the end is bound to. -/
def id? : Endpoint → Option SurfaceId
  | .bound id => some id
  | .free | .missing _ => none

/-- The reference that means no shape, if there is one. -/
def missing? : Endpoint → Option ShapeRef
  | .missing ref => some ref
  | .bound _ | .free => none

/-- The dangling ends of an arrow, the tail first. -/
def dangling (tail head : Endpoint) : List Dangling :=
  (tail.missing?.map (⟨.tail, ·⟩)).toList ++ (head.missing?.map (⟨.head, ·⟩)).toList

end Endpoint

namespace Surface

variable {Board : Type}

/-- Looks an end of an arrow up. The surface is asked only about a reference that is bound. -/
def lookUp (S : Surface Board) (ids : Bindings) (ref : Option ShapeRef) (board : Board) :
    Endpoint × Board :=
  match ref with
  | none => (.free, board)
  | some r =>
    match ids.resolve? r with
    | none => (.missing r, board)
    | some id =>
      let (there, board) := S.contains id board
      (if there then .bound id else .missing r, board)

/-! ### The two phases -/

/-- Draws shapes in order, and binds the name of each one that is created. -/
def drawShapes (S : Surface Board) : List ShapeSpec → Bindings → Board → Fates × Bindings × Board
  | [], ids, board => ([], ids, board)
  | spec :: specs, ids, board =>
    let (answer, board) := S.draw ⟨spec, none, none⟩ board
    let ids :=
      match answer, spec.ident with
      | .created id, some r => ids.bind r id
      | _, _ => ids
    let (fates, ids, board) := drawShapes S specs ids board
    (.drawn ⟨spec, none, none⟩ [] answer :: fates, ids, board)

/-- Draws an arrow whose ends have been looked up. -/
def drawArrowBetween (S : Surface Board) (policy : Policy) (finality : Finality) (spec : ShapeSpec)
    (tail head : Endpoint) (board : Board) : Fate × Board :=
  let dangling := Endpoint.dangling tail head
  let call : ShapeCall := ⟨spec, tail.id?, head.id?⟩
  if dangling.isEmpty then
    let (answer, board) := S.draw call board
    (.drawn call [] answer, board)
  else
    match finality, policy with
    | .more, _ => (.deferred spec, board)
    | .last, .skip => (.skipped spec dangling, board)
    | .last, .unbind =>
      -- a dangling tail can start at the arrow's own place, but a head needs one to point at
      if head.missing?.isSome && spec.endPoint?.isNone then
        (.skipped spec dangling, board)
      else
        let (answer, board) := S.draw call board
        (.drawn call dangling answer, board)

/-- Looks both ends of an arrow up, the tail first, and draws it. -/
def drawArrow (S : Surface Board) (policy : Policy) (finality : Finality) (ids : Bindings)
    (spec : ShapeSpec) (board : Board) : Fate × Board :=
  let (tail, board) := S.lookUp ids spec.source board
  let (head, board) := S.lookUp ids spec.target board
  S.drawArrowBetween policy finality spec tail head board

/-- Draws arrows in order. -/
def drawArrows (S : Surface Board) (policy : Policy) (finality : Finality) (ids : Bindings) :
    List ShapeSpec → Board → Fates × Board
  | [], board => ([], board)
  | spec :: specs, board =>
    let (fate, board) := S.drawArrow policy finality ids spec board
    let (fates, board) := drawArrows S policy finality ids specs board
    (fate :: fates, board)

/-- Draws a batch: all its shapes, then all its arrows. -/
def drawBatch (S : Surface Board) (policy : Policy) (finality : Finality) (batch : Batch)
    (ids : Bindings) (board : Board) : Fates × Bindings × Board :=
  let (shapes, ids, board) := S.drawShapes batch.shapes ids board
  let (arrows, board) := S.drawArrows policy finality ids batch.arrows board
  (shapes ++ arrows, ids, board)

end Surface

end Whiteboard
