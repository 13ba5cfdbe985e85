import Whiteboard.Surface.Object

/-!
# The memory surface

A surface that keeps its objects in memory. A new object is pending until the surface settles; then
every pending object is committed, in the order of creation, and only then the surface holds it.
-/

namespace Whiteboard

/-- The objects of a memory surface, in the order of creation. -/
structure Memory where
  committed : List Object := []
  pending : List Object := []
  deriving Inhabited

namespace Memory

/-- How many objects there are, committed or pending. -/
def size (m : Memory) : Nat := m.committed.length + m.pending.length

/-- The object that a call adds next. It takes the next id of the supply and lies above all
others. -/
def next (supply : Nat → SurfaceId) (m : Memory) (call : ShapeCall) : Object :=
  .ofCall (supply m.size) (Int32.ofNat m.size) call

/-- A creation never fails, and leaves the object pending. -/
def create (supply : Nat → SurfaceId) (call : ShapeCall) (m : Memory) : Answer × Memory :=
  let object := m.next supply call
  (.created object.id, { m with pending := m.pending ++ [object] })

/-- Every pending object is committed. -/
def settle (m : Memory) : Memory where
  committed := m.committed ++ m.pending

/-- The committed object with this id. -/
def get? (m : Memory) (id : SurfaceId) : Option Object := m.committed.find? fun o => o.id = id

/-- Whether an object with this id is committed. -/
def contains (m : Memory) (id : SurfaceId) : Bool := (m.get? id).isSome

/-- The memory surface with a supply of ids. -/
def surface (supply : Nat → SurfaceId) : Surface Memory where
  create := create supply
  contains id m := (m.contains id, m)
  settle := settle

end Memory

end Whiteboard
