import Whiteboard.Shape.Ref
import Whiteboard.Surface.Id

/-!
# Bindings

Which shape on the surface a reference means. A reference that is bound again means the newer shape.
-/

namespace Whiteboard

/-- The surface ids of references, each reference once. -/
structure Bindings where
  entries : List (ShapeRef × SurfaceId) := []
  deriving DecidableEq

namespace Bindings

/-- The id that a reference is bound to. -/
def resolve? (b : Bindings) (r : ShapeRef) : Option SurfaceId :=
  (b.entries.find? fun entry => entry.1 = r).map Prod.snd

/-- The bindings with a reference bound to an id, in place of what it was bound to before. -/
def bind (b : Bindings) (r : ShapeRef) (id : SurfaceId) : Bindings :=
  ⟨(r, id) :: b.entries.filter fun entry => entry.1 ≠ r⟩

/-- How many references are bound. -/
def size (b : Bindings) : Nat := b.entries.length

@[simp] theorem resolve?_empty (r : ShapeRef) : resolve? {} r = none := rfl

@[simp] theorem resolve?_bind_self (b : Bindings) (r : ShapeRef) (id : SurfaceId) :
    (b.bind r id).resolve? r = some id := by
  simp [bind, resolve?]

/-- Binding one reference leaves the others alone. -/
theorem resolve?_bind_of_ne (b : Bindings) {r other : ShapeRef} (h : other ≠ r) (id : SurfaceId) :
    (b.bind r id).resolve? other = b.resolve? other := by
  have same : ∀ entry : ShapeRef × SurfaceId,
      (!decide (entry.1 = r) && decide (entry.1 = other)) = decide (entry.1 = other) := by
    intro entry
    by_cases found : entry.1 = other <;> simp [found, h]
  simp [bind, resolve?, Ne.symm h, List.find?_filter, same]

end Bindings

end Whiteboard
