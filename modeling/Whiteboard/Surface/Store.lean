import Whiteboard.Surface.Object

/-!
# Stores

A memory surface that finds its objects by their ids. It keeps three collections: the committed
objects under their ids, the pending ones in the order of creation, and the ids of the committed
ones in the order in which they were committed. On a supply without repetitions it shows what
`Memory` shows, which keeps its objects in one list.
-/

namespace Whiteboard

/-- Objects under ids, each id once. -/
structure Shelf where
  entries : List (SurfaceId × Object) := []
  deriving Inhabited

namespace Shelf

/-- The object under an id. -/
def get? (f : Shelf) (id : SurfaceId) : Option Object :=
  (f.entries.find? fun entry => entry.1 = id).map Prod.snd

/-- The objects with one under an id, in place of what was there before. -/
def put (f : Shelf) (id : SurfaceId) (object : Object) : Shelf :=
  ⟨(id, object) :: f.entries.filter fun entry => entry.1 ≠ id⟩

/-- How many objects there are. -/
def size (f : Shelf) : Nat := f.entries.length

@[simp] theorem get?_empty (id : SurfaceId) : get? {} id = none := rfl

@[simp] theorem get?_put_self (f : Shelf) (id : SurfaceId) (object : Object) :
    (f.put id object).get? id = some object := by
  simp [put, get?]

/-- Putting an object under one id leaves the others alone. -/
theorem get?_put_of_ne (f : Shelf) {id other : SurfaceId} (h : other ≠ id) (object : Object) :
    (f.put id object).get? other = f.get? other := by
  have same : ∀ entry : SurfaceId × Object,
      (!decide (entry.1 = id) && decide (entry.1 = other)) = decide (entry.1 = other) := by
    intro entry
    by_cases found : entry.1 = other <;> simp [found, h]
  simp [put, get?, Ne.symm h, List.find?_filter, same]

/-- A new id takes a new place. -/
theorem size_put {f : Shelf} {id : SurfaceId} (new : f.get? id = none) (object : Object) :
    (f.put id object).size = f.size + 1 := by
  have all : f.entries.filter (fun entry => entry.1 ≠ id) = f.entries := by
    refine List.filter_eq_self.mpr fun entry mem => ?_
    have none := List.find?_eq_none.mp (Option.map_eq_none_iff.mp new) entry mem
    simpa using none
  rw [size, put, all, size, List.length_cons]

end Shelf

/-- The collections of a memory surface. -/
structure Store where
  committed : Shelf := {}
  pending : List Object := []
  /-- The ids of the committed objects, in the order in which they were committed. -/
  order : List SurfaceId := []
  deriving Inhabited

namespace Store

/-- How many ids were given. -/
def given (s : Store) : Nat := s.order.length + s.pending.length

/-- How many objects there are, committed or pending. -/
def size (s : Store) : Nat := s.committed.size + s.pending.length

/-- The object that a call adds next. It takes the next id of the supply and lies above all
others. -/
def next (supply : Nat → SurfaceId) (s : Store) (call : ShapeCall) : Object :=
  .ofCall (supply s.given) (Int32.ofNat s.size) call

/-- A creation never fails, and leaves the object pending. -/
def create (supply : Nat → SurfaceId) (call : ShapeCall) (s : Store) : Answer × Store :=
  let object := s.next supply call
  (.created object.id, { s with pending := s.pending ++ [object] })

/-- One object is committed. -/
def commit (s : Store) (object : Object) : Store where
  committed := s.committed.put object.id object
  pending := s.pending
  order := s.order ++ [object.id]

/-- Every pending object is committed, in the order of creation. -/
def settle (s : Store) : Store := s.pending.foldl commit { s with pending := [] }

/-- The committed object with this id. -/
def get? (s : Store) (id : SurfaceId) : Option Object := s.committed.get? id

/-- Whether an object with this id is committed. -/
def contains (s : Store) (id : SurfaceId) : Bool := (s.get? id).isSome

/-- The committed objects, in the order in which they were committed. -/
def objects (s : Store) : List Object := s.order.filterMap s.get?

/-- The memory surface with a supply of ids. -/
def surface (supply : Nat → SurfaceId) : Surface Store where
  create := create supply
  contains id s := (s.contains id, s)
  settle := settle

end Store

end Whiteboard
