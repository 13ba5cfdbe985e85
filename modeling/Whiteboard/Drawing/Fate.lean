import Whiteboard.Diagnostic

/-!
# Fates

What became of each shape and arrow of a batch. Everything that is told about a batch is read off
the fates, in their order.
-/

namespace Whiteboard

/-- An end of an arrow whose reference names no shape on the surface. -/
structure Dangling where
  arrowEnd : ArrowEnd
  ref : ShapeRef
  deriving DecidableEq

/-- What became of one specification. -/
inductive Fate
  /-- It was handed to the surface, which gave the answer; the dangling ends stayed unbound. -/
  | drawn (call : ShapeCall) (dangling : List Dangling) (answer : Answer)
  /-- It was dropped because of its dangling ends. -/
  | skipped (spec : ShapeSpec) (dangling : List Dangling)
  /-- It waits for a later batch. -/
  | deferred (spec : ShapeSpec)
  deriving DecidableEq

/-- A shape that the surface created. -/
structure Created where
  id : SurfaceId
  call : ShapeCall
  deriving DecidableEq

namespace Fate

/-- The shape that was created, if one was. -/
def created? : Fate → Option Created
  | .drawn call _ (.created id) => some ⟨id, call⟩
  | _ => none

/-- The specification that waits, if it does. -/
def deferred? : Fate → Option ShapeSpec
  | .deferred spec => some spec
  | _ => none

/-- What is told about dangling ends. -/
def tell (resolution : Resolution) (dangling : List Dangling) : List Diagnostic :=
  dangling.map fun d => .unresolved d.ref d.arrowEnd resolution

/-- What went wrong. -/
def diagnostics : Fate → List Diagnostic
  | .drawn _ dangling (.created _) => tell .unbound dangling
  | .drawn _ dangling (.failed error) => tell .unbound dangling ++ [.surface error]
  | .skipped _ dangling => tell .skipped dangling
  | .deferred _ => []

end Fate

/-- The fates of a batch, in the order of drawing. -/
abbrev Fates := List Fate

namespace Fates

/-- What the surface created, in the order of the calls. -/
def created (fates : Fates) : List Created := fates.filterMap Fate.created?

/-- The arrows that wait for later text. -/
def deferred (fates : Fates) : List ShapeSpec := fates.filterMap Fate.deferred?

/-- What went wrong, in order. -/
def diagnostics (fates : Fates) : List Diagnostic := fates.flatMap Fate.diagnostics

end Fates

end Whiteboard
