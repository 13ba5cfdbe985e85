import Mathlib.Algebra.Group.Nat.Defs
import Mathlib.Data.List.DropRight
import Whiteboard.Proofs.Drawable
import Whiteboard.Proofs.Entries
import Whiteboard.Proofs.Memory
import Whiteboard.Surface.Recorded
import Whiteboard.Surface.Store

/-!
# What is committed, and when

However creations, settlings and questions follow one another, a memory surface commits what was
created before the latest settling, in the order of creation and each object once, and the rest is
pending. A store keeps the same in three collections. They stay in step because no two objects have
one id: an object that is committed takes a new place in each of them, and so the number of objects
under ids is the number of objects in order, from which the place of the next one is counted.

## Main definitions

* `Use`, `Surface.useAll` — what a surface is asked, and the board behind it
* `Event.made`, `Event.untilSettled`, `Event.sinceSettled` — what was created, and when
* `Memory.Keeps` — a memory with everything that was created on it
* `Store.Mirrors` — a store with the objects of a memory
* `Object.Shows`, `Store.Shows` — an object that shows a call, and a store that shows them all

## Main results

* `Memory.Keeps.use` — a memory keeps what is created on it
* `Store.agrees_useAll` — a store cannot be told from a memory
* `Store.committed_once` — everything is committed once, in the order of creation
-/

namespace Whiteboard

/-! ### Uses of a surface -/

/-- A call on a surface, as whoever uses it chooses it. -/
inductive Use
  | create (call : ShapeCall)
  | settle
  | contains (id : SurfaceId)

/-- The shape that a use asks for. -/
def Use.call? : Use → Option ShapeCall
  | .create call => some call
  | _ => none

namespace Surface

variable {Board : Type} (S : Surface Board)

/-- The board behind one use. -/
def use (board : Board) : Use → Board
  | .create call => (S.create call board).2
  | .settle => S.settle board
  | .contains id => (S.contains id board).2

/-- The board behind some uses. -/
def useAll (uses : List Use) (board : Board) : Board := uses.foldl S.use board

end Surface

namespace Event

/-- What an event has given, if it is a creation that went well. -/
def made? : Event → Option Created
  | .create call (.created id) => some ⟨id, call⟩
  | _ => none

/-- Everything that was created, in the order of creation. -/
def made (events : List Event) : List Created := events.filterMap made?

/-- The events up to the latest settling. -/
def untilSettled (events : List Event) : List Event := events.rdropWhile (· ≠ .settle)

/-- The events since the latest settling. -/
def sinceSettled (events : List Event) : List Event := events.rtakeWhile (· ≠ .settle)

variable (events : List Event) (event : Event)

@[simp] theorem made_append (a b : List Event) : made (a ++ b) = made a ++ made b :=
  List.filterMap_append

/-- Whatever was created was created before the latest settling or after it. -/
theorem made_untilSettled_append : made (untilSettled events) ++ made (sinceSettled events) =
    made events := by
  rw [← made_append, untilSettled, sinceSettled, List.rdropWhile_append_rtakeWhile]

theorem untilSettled_concat_settle : untilSettled (events ++ [.settle]) = events ++ [.settle] :=
  List.rdropWhile_concat_neg _ _ _ (by simp)

variable {event}

theorem untilSettled_concat (h : event ≠ .settle) :
    untilSettled (events ++ [event]) = untilSettled events :=
  List.rdropWhile_concat_pos _ _ _ (by simpa using h)

end Event

/-! ### What a memory holds -/

namespace Memory

variable {supply : Nat → SurfaceId} {m : Memory} {events : List Event}

/-- A memory with everything that was created on it: what was created before the latest settling is
committed, and the rest is pending. -/
structure Keeps (supply : Nat → SurfaceId) (m : Memory) (events : List Event) : Prop where
  objects : m.committed ++ m.pending = objects (Event.made events)
  committed : m.committed.length = (Event.made (Event.untilSettled events)).length
  ids : (Event.made events).map Created.id =
    (List.range (Event.made events).length).map supply

theorem keeps_empty (supply : Nat → SurfaceId) : Keeps supply {} [] := ⟨rfl, rfl, rfl⟩

theorem Keeps.size (keeps : m.Keeps supply events) : m.size = (Event.made events).length := by
  rw [Memory.size, ← List.length_append, keeps.objects, Memory.objects, List.length_mapIdx]

theorem map_id_objects (made : List Created) :
    (Memory.objects made).map Object.id = made.map Created.id := by
  refine List.ext_getElem (by simp [Memory.objects]) fun n _ _ => ?_
  simp [Memory.objects, Object.ofCall]

/-- No two objects have one id. -/
theorem Keeps.nodup (keeps : m.Keeps supply events) (distinct : Function.Injective supply) :
    ((m.committed ++ m.pending).map Object.id).Nodup := by
  rw [keeps.objects, map_id_objects, keeps.ids]
  exact List.nodup_range.map distinct

theorem get?_concat (m : Memory) (object : Object) (id : SurfaceId) :
    ({ m with committed := m.committed ++ [object] } : Memory).get? id =
      (m.get? id).or (if object.id = id then some object else none) := by
  rw [get?, get?, List.find?_append, List.find?_singleton]
  simp

/-- A creation adds a pending object, with the next id. -/
theorem Keeps.create (keeps : m.Keeps supply events) (call : ShapeCall) :
    (m.create supply call).2.Keeps supply (events ++ [.create call (m.create supply call).1]) := by
  have made : Event.made (events ++ [.create call (m.create supply call).1]) =
      Event.made events ++ [⟨supply m.size, call⟩] := Event.made_append ..
  refine ⟨?_, ?_, ?_⟩
  · have added : (m.create supply call).2.committed ++ (m.create supply call).2.pending =
        m.committed ++ m.pending ++ [m.next supply call] := (List.append_assoc ..).symm
    rw [added, made, keeps.objects, next, keeps.size]
    simp [Memory.objects, List.mapIdx_append]
  · rw [Event.untilSettled_concat _ (by simp)]
    exact keeps.committed
  · rw [made, List.map_append, keeps.ids, keeps.size]
    simp [List.range_succ]

/-- A settling commits whatever was created. -/
theorem Keeps.settle (keeps : m.Keeps supply events) :
    m.settle.Keeps supply (events ++ [.settle]) := by
  have made : Event.made (events ++ [.settle]) = Event.made events := by
    simp [Event.made, Event.made?]
  refine ⟨?_, ?_, ?_⟩
  · rw [made, ← keeps.objects]
    exact List.append_nil _
  · rw [Event.untilSettled_concat_settle, made, ← keeps.size, Memory.size, ← List.length_append]
    rfl
  · rw [made]
    exact keeps.ids

/-- A question changes nothing. -/
theorem Keeps.contains (keeps : m.Keeps supply events) (id : SurfaceId) (held : Bool) :
    m.Keeps supply (events ++ [.contains id held]) := by
  have made : Event.made (events ++ [.contains id held]) = Event.made events := by
    simp [Event.made, Event.made?]
  refine ⟨?_, ?_, ?_⟩
  · rw [made, keeps.objects]
  · rw [Event.untilSettled_concat _ (by simp), keeps.committed]
  · rw [made, keeps.ids]

/-- One use goes on from what was created. -/
theorem Keeps.use {r : Recorded Memory} (keeps : r.board.Keeps supply r.events) (u : Use) :
    ((surface supply).recorded.use r u).board.Keeps supply
      ((surface supply).recorded.use r u).events := by
  cases u with
  | create call => exact keeps.create call
  | settle => exact keeps.settle
  | contains id => exact keeps.contains id _

end Memory

/-! ### A store shows what a memory shows -/

namespace Store

variable {supply : Nat → SurfaceId} {s : Store} {m : Memory} {object : Object}

/-- A store whose three collections are those of a memory, under their ids and in their order. -/
structure Mirrors (s : Store) (m : Memory) : Prop where
  pending : s.pending = m.pending
  order : s.order = m.committed.map Object.id
  get? : ∀ id, s.get? id = m.get? id
  size : s.committed.size = m.committed.length

theorem mirrors_empty : Mirrors {} {} := ⟨rfl, rfl, fun _ => rfl, rfl⟩

theorem Mirrors.contains (mirrors : s.Mirrors m) (id : SurfaceId) :
    s.contains id = m.contains id := by
  rw [Store.contains, mirrors.get?, Memory.contains]

/-- In the order of the store stand the objects of the memory. -/
theorem Mirrors.objects (mirrors : s.Mirrors m) (distinct : (m.committed.map Object.id).Nodup) :
    s.objects = m.committed := by
  have found : ∀ object ∈ m.committed, s.get? object.id = some object := fun object mem => by
    rw [mirrors.get?]
    exact (find?_key_eq_some_iff distinct).mpr ⟨mem, rfl⟩
  rw [Store.objects, mirrors.order, List.filterMap_map]
  calc m.committed.filterMap (s.get? ∘ Object.id)
    _ = m.committed.filterMap some := List.filterMap_congr found
    _ = m.committed := List.filterMap_some

/-- The next object is the same. -/
theorem Mirrors.next (mirrors : s.Mirrors m) (call : ShapeCall) :
    s.next supply call = m.next supply call := by
  have given : s.given = m.size := by
    rw [given, Memory.size, mirrors.order, mirrors.pending, List.length_map]
  have size : s.size = m.size := by rw [Store.size, Memory.size, mirrors.size, mirrors.pending]
  rw [Store.next, Memory.next, given, size]

theorem Mirrors.create (mirrors : s.Mirrors m) (call : ShapeCall) :
    (s.create supply call).1 = (m.create supply call).1 ∧
      (s.create supply call).2.Mirrors (m.create supply call).2 := by
  have next : s.next supply call = m.next supply call := mirrors.next call
  refine ⟨congrArg (fun o : Object => Answer.created o.id) next, ?_, mirrors.order, mirrors.get?,
    mirrors.size⟩
  exact congrArg₂ (· ++ [·]) mirrors.pending next

/-- An object of a new id that is committed takes its place in all three collections. -/
theorem Mirrors.commit (mirrors : s.Mirrors m) (new : object.id ∉ m.committed.map Object.id) :
    (s.commit object).Mirrors { m with committed := m.committed ++ [object] } := by
  have absent : m.get? object.id = none := by
    refine List.find?_eq_none.mpr fun other mem => ?_
    simpa using fun same => new (List.mem_map.mpr ⟨other, mem, same⟩)
  refine ⟨mirrors.pending, ?_, fun id => ?_, ?_⟩
  · rw [Store.commit, mirrors.order, List.map_append]
    rfl
  · rw [Store.get?, Store.commit, Memory.get?_concat]
    by_cases same : object.id = id
    · subst same
      simp [absent]
    · rw [Shelf.get?_put_of_ne _ (Ne.symm same), ← Store.get?, mirrors.get?]
      simp [same]
  · have new : s.committed.get? object.id = none := (mirrors.get? object.id).trans absent
    rw [Store.commit, Shelf.size_put new, mirrors.size, List.length_append]
    rfl

/-- Objects of new ids are committed one after another. -/
theorem Mirrors.foldl_commit {objects : List Object} (mirrors : s.Mirrors m)
    (distinct : ((m.committed ++ objects).map Object.id).Nodup) :
    (objects.foldl Store.commit s).Mirrors { m with committed := m.committed ++ objects } := by
  induction objects generalizing s m with
  | nil => simpa using mirrors
  | cons object objects ih =>
    have new : object.id ∉ m.committed.map Object.id := by
      rw [List.map_append, List.nodup_append] at distinct
      exact fun mem => distinct.2.2 _ mem _ List.mem_cons_self rfl
    have rest := ih (mirrors.commit new) (by simpa using distinct)
    simpa using rest

/-- Settling commits the same objects in the same order. -/
theorem Mirrors.settle (mirrors : s.Mirrors m)
    (distinct : ((m.committed ++ m.pending).map Object.id).Nodup) : s.settle.Mirrors m.settle := by
  have emptied : ({ s with pending := [] } : Store).Mirrors { m with pending := [] } :=
    ⟨rfl, mirrors.order, mirrors.get?, mirrors.size⟩
  rw [Store.settle, mirrors.pending]
  exact emptied.foldl_commit distinct

/-- A store and a memory on which the same things happened, and which show the same. -/
structure Agrees (supply : Nat → SurfaceId) (r : Recorded Store) (r' : Recorded Memory) : Prop where
  events : r.events = r'.events
  mirrors : r.board.Mirrors r'.board
  keeps : r'.board.Keeps supply r'.events

/-- What is asked of both has the same answer, and leaves them showing the same. -/
theorem Agrees.use {r : Recorded Store} {r' : Recorded Memory} (agrees : Agrees supply r r')
    (distinct : Function.Injective supply) (u : Use) :
    Agrees supply ((surface supply).recorded.use r u)
      ((Memory.surface supply).recorded.use r' u) := by
  have nodup := agrees.keeps.nodup distinct
  refine ⟨?_, ?_, agrees.keeps.use u⟩
  · cases u with
    | create call =>
      have answer : (r.board.create supply call).1 = (r'.board.create supply call).1 :=
        (agrees.mirrors.create call).1
      exact congrArg₂ (fun events answer => events ++ [.create call answer]) agrees.events answer
    | settle => exact congrArg (· ++ [.settle]) agrees.events
    | contains id =>
      have answer := agrees.mirrors.contains id
      exact congrArg₂ (fun events answer => events ++ [.contains id answer]) agrees.events answer
  · cases u with
    | create call => exact (agrees.mirrors.create call).2
    | settle => exact agrees.mirrors.settle nodup
    | contains id => exact agrees.mirrors

/-- The same of whatever is asked. -/
theorem Agrees.useAll {r : Recorded Store} {r' : Recorded Memory} (agrees : Agrees supply r r')
    (distinct : Function.Injective supply) (uses : List Use) :
    Agrees supply ((surface supply).recorded.useAll uses r)
      ((Memory.surface supply).recorded.useAll uses r') := by
  induction uses generalizing r r' with
  | nil => exact agrees
  | cons u uses ih => exact ih (agrees.use distinct u)

/-- **A store cannot be told from a memory.** -/
theorem agrees_useAll (distinct : Function.Injective supply) (uses : List Use) :
    Agrees supply ((surface supply).recorded.useAll uses ⟨{}, []⟩)
      ((Memory.surface supply).recorded.useAll uses ⟨{}, []⟩) :=
  Agrees.useAll ⟨rfl, mirrors_empty, Memory.keeps_empty supply⟩ distinct uses

end Store

/-! ### What an object shows -/

/-- What is shown of a call besides the geometry: its label, and of an arrow the two ends. -/
inductive ShapeCall.ShowsEntry (call : ShapeCall) : Text → Json → Prop
  | label : ShowsEntry call "text".toList (.str call.spec.label)
  | start (arrow : call.spec.kind = .arrow) :
      ShowsEntry call "a".toList
        (.obj [("x".toList, .number call.spec.x), ("y".toList, .number call.spec.y)])
  | finish (arrow : call.spec.kind = .arrow) {x y : Binary64} (endX : call.spec.endX = some x)
      (endY : call.spec.endY = some y) :
      ShowsEntry call "b".toList (.obj [("x".toList, .number x), ("y".toList, .number y)])
  | tail (arrow : call.spec.kind = .arrow) {id : SurfaceId} (bound : call.tail = some id) :
      ShowsEntry call "source_id".toList (.str id.text)
  | head (arrow : call.spec.kind = .arrow) {id : SurfaceId} (bound : call.head = some id) :
      ShowsEntry call "target_id".toList (.str id.text)

/-- An object that shows a call, above `n` others. -/
structure Object.Shows (o : Object) (n : Nat) (c : Created) : Prop where
  id : o.id = c.id
  kind : o.kind = c.call.spec.kind
  x : o.x = c.call.spec.x
  y : o.y = c.call.spec.y
  width : o.width = c.call.spec.width
  height : o.height = c.call.spec.height
  zIndex : o.zIndex.toInt = n
  props : ∀ name v, o.props.get? name = some v ↔ c.call.ShowsEntry name v

theorem ShapeSpec.endPoint?_eq_some_iff {spec : ShapeSpec} {x y : Binary64} :
    spec.endPoint? = some (x, y) ↔ spec.endX = some x ∧ spec.endY = some y := by
  unfold endPoint?
  cases spec.endX <;> cases spec.endY <;> simp

namespace ShapeCall

variable (call : ShapeCall)

theorem point_eq (x y : Binary64) :
    point x y = .obj [("x".toList, .number x), ("y".toList, .number y)] := rfl

/-- The entries for the two ends of an arrow. -/
def ends : List (Text × Json) :=
  [("a".toList, point call.spec.x call.spec.y)] ++
    (call.spec.endPoint?.map fun (x, y) => ("b".toList, point x y)).toList ++
    (call.tail.map fun id => ("source_id".toList, Json.str id.text)).toList ++
    (call.head.map fun id => ("target_id".toList, Json.str id.text)).toList

theorem props_eq :
    call.props = .object (("text".toList, .str call.spec.label) ::
      if call.spec.isArrow then call.ends else []) := rfl

/-- No two entries have one name. -/
theorem nodup_names :
    ((("text".toList, Json.str call.spec.label) ::
      if call.spec.isArrow then call.ends else []).map Prod.fst).Nodup := by
  have names : (("text".toList, Json.str call.spec.label) ::
      if call.spec.isArrow then call.ends else []).map Prod.fst |>.Sublist
        ["text".toList, "a".toList, "b".toList, "source_id".toList, "target_id".toList] := by
    unfold ends
    cases call.spec.isArrow <;> cases call.spec.endPoint? <;> cases call.tail <;>
      cases call.head <;> simp
  exact names.nodup (by decide)

/-- What is shown of a call, and nothing else. -/
theorem get?_props (name : Text) (v : Json) :
    call.props.get? name = some v ↔ call.ShowsEntry name v := by
  rw [props_eq, Json.get?_object_eq_some_iff call.nodup_names, List.mem_cons]
  constructor
  · rintro (same | mem)
    · obtain ⟨rfl, rfl⟩ := Prod.mk.inj same
      exact .label
    · split at mem
      case isTrue arrow =>
        have arrow := ShapeSpec.isArrow_iff.mp arrow
        simp only [ends, List.mem_append, List.mem_singleton, Option.mem_toList,
          Option.map_eq_some_iff] at mem
        rcases mem with ((same | ⟨⟨x, y⟩, ended, same⟩) | ⟨id, bound, same⟩) | ⟨id, bound, same⟩
        all_goals obtain ⟨rfl, rfl⟩ := Prod.mk.inj same
        · exact point_eq _ _ ▸ .start arrow
        · obtain ⟨endX, endY⟩ := ShapeSpec.endPoint?_eq_some_iff.mp ended
          exact point_eq _ _ ▸ .finish arrow endX endY
        · exact .tail arrow bound
        · exact .head arrow bound
      case isFalse => cases mem
  · intro shown
    cases shown with
    | label => exact .inl rfl
    | start arrow =>
      rw [ShapeSpec.isArrow_iff.mpr arrow]
      exact .inr (by simp [ends, point_eq])
    | finish arrow endX endY =>
      rw [ShapeSpec.isArrow_iff.mpr arrow]
      have ended := ShapeSpec.endPoint?_eq_some_iff.mpr ⟨endX, endY⟩
      exact .inr (by simp [ends, point_eq, ended])
    | tail arrow bound =>
      rw [ShapeSpec.isArrow_iff.mpr arrow]
      exact .inr (by simp [ends, bound])
    | head arrow bound =>
      rw [ShapeSpec.isArrow_iff.mpr arrow]
      exact .inr (by simp [ends, bound])

end ShapeCall

theorem Object.shows_ofCall {n : Nat} (few : n < 2 ^ 31) (c : Created) :
    (Object.ofCall c.id (Int32.ofNat n) c.call).Shows n c :=
  ⟨rfl, rfl, rfl, rfl, rfl, rfl, Int32.toInt_ofNat_of_lt few, c.call.get?_props⟩

namespace Store

/-- A store that shows everything that was created on it: what was created before the latest
settling is committed, in the order of creation, and the rest is pending. -/
structure Shows (s : Store) (events : List Event) : Prop where
  objects : s.objects.map Object.id = (Event.made (Event.untilSettled events)).map Created.id
  pending : s.pending.map Object.id = (Event.made (Event.sinceSettled events)).map Created.id
  once : ((Event.made events).map Created.id).Nodup
  held : ∀ id, s.contains id = true ↔ id ∈ (Event.made (Event.untilSettled events)).map Created.id
  found : ∀ id, (s.get? id).isSome ↔ id ∈ (Event.made (Event.untilSettled events)).map Created.id
  get? : ∀ id o, s.get? id = some o ↔ o ∈ s.objects ∧ o.id = id
  shown : ∀ n c, (Event.made events)[n]? = some c →
    ∃ o : Object, (s.objects ++ s.pending)[n]? = some o ∧ o.Shows n c

/-- A store that shows what a memory shows, with everything that was created on it. -/
theorem Agrees.shows {r : Recorded Store} {r' : Recorded Memory} (agrees : Agrees supply r r')
    (distinct : Function.Injective supply) (few : (Event.made r.events).length < 2 ^ 31) :
    r.board.Shows r.events := by
  obtain ⟨events, mirrors, keeps⟩ := agrees
  rw [← events] at keeps
  have nodup := keeps.nodup distinct
  have committed : (r'.board.committed.map Object.id).Nodup :=
    nodup.sublist ((List.sublist_append_left ..).map Object.id)
  have objects : r.board.objects = r'.board.committed := mirrors.objects committed
  have ids : (r'.board.committed ++ r'.board.pending).map Object.id =
      (Event.made r.events).map Created.id := by rw [keeps.objects, Memory.map_id_objects]
  -- the ids are divided at the latest settling on both sides
  have parts := ids
  rw [← Event.made_untilSettled_append, List.map_append, List.map_append] at parts
  obtain ⟨until', since⟩ := List.append_inj parts (by simpa using keeps.committed)
  have get : ∀ id o, r.board.get? id = some o ↔ o ∈ r.board.objects ∧ o.id = id := fun id o => by
    rw [mirrors.get?, objects]
    exact find?_key_eq_some_iff committed
  have found : ∀ id, (r.board.get? id).isSome ↔
      id ∈ (Event.made (Event.untilSettled r.events)).map Created.id := fun id => by
    rw [← until', ← objects, Option.isSome_iff_exists, List.mem_map]
    exact exists_congr fun o => get id o
  refine ⟨by rw [objects, until'], by rw [mirrors.pending, since], ids ▸ nodup, fun id => ?_, found,
    get, fun n c made => ?_⟩
  · rw [Store.contains, found]
  · rw [objects, mirrors.pending, keeps.objects]
    have place : n < (Event.made r.events).length := (List.getElem?_eq_some_iff.mp made).1
    refine ⟨.ofCall c.id (Int32.ofNat n) c.call, ?_, Object.shows_ofCall (place.trans few) c⟩
    rw [Memory.objects, List.getElem?_mapIdx, made, Option.map_some]

/-- A use creates what it asks for. -/
theorem call_made_use (supply : Nat → SurfaceId) (r : Recorded Store) (u : Use) :
    (Event.made ((surface supply).recorded.use r u).events).map Created.call =
      (Event.made r.events).map Created.call ++ u.call?.toList := by
  cases u <;>
    exact (congrArg (List.map Created.call) (Event.made_append r.events [_])).trans List.map_append

/-- What was created is what was asked for, shape by shape. -/
theorem call_made_useAll (supply : Nat → SurfaceId) (uses : List Use) (r : Recorded Store) :
    (Event.made ((surface supply).recorded.useAll uses r).events).map Created.call =
      (Event.made r.events).map Created.call ++ uses.filterMap Use.call? := by
  induction uses generalizing r with
  | nil => exact (List.append_nil _).symm
  | cons u uses ih =>
    have rest := ih ((surface supply).recorded.use r u)
    rw [call_made_use, List.append_assoc] at rest
    rw [List.filterMap_cons]
    cases asked : u.call? <;> simpa [asked, Surface.useAll] using rest

/-- **Everything is committed once, in the order of creation.** Whatever a new store is used for,
every shape that is asked for is created. What was created before the latest settling is committed,
in order, and found by its id. The rest is pending. And the object made as the `n`-th lies above `n`
others and shows its call. -/
theorem committed_once (distinct : Function.Injective supply) (uses : List Use)
    (few : (uses.filterMap Use.call?).length < 2 ^ 31) :
    let r := (surface supply).recorded.useAll uses ⟨{}, []⟩
    (Event.made r.events).map Created.call = uses.filterMap Use.call? ∧ r.board.Shows r.events := by
  intro r
  have calls : (Event.made r.events).map Created.call = uses.filterMap Use.call? :=
    call_made_useAll supply uses ⟨{}, []⟩
  refine ⟨calls, (agrees_useAll distinct uses).shows distinct ?_⟩
  rwa [← calls, List.length_map] at few

/-- Two shapes and a settling, and a third shape behind it. The second one is an arrow that is bound
to the first. -/
theorem committed_once_third :
    let square : ShapeCall := { spec := { kind := .square, x := .ofInt 1, y := .ofInt 2 } }
    let arrow : ShapeCall :=
      { spec := { kind := .arrow, x := .ofInt 1, y := .ofInt 2 }, tail := some ⟨0⟩ }
    let r := (surface SurfaceId.mk).recorded.useAll
      [.create square, .create arrow, .settle, .create square, .contains ⟨1⟩] ⟨{}, []⟩
    r.board.objects.map Object.id = [⟨0⟩, ⟨1⟩] ∧ r.board.pending.map Object.id = [⟨2⟩] ∧
      r.board.contains ⟨1⟩ = true ∧ r.board.contains ⟨2⟩ = false ∧
      ∃ o : Object, (r.board.objects ++ r.board.pending)[1]? = some o ∧ o.zIndex.toInt = 1 ∧
        o.props.get? "source_id".toList = some (.str (SurfaceId.mk 0).text) := by
  intro square arrow r
  have distinct : Function.Injective SurfaceId.mk := fun _ _ => SurfaceId.mk.inj
  obtain ⟨-, shows⟩ := committed_once distinct
    [.create square, .create arrow, .settle, .create square, .contains ⟨1⟩] (by decide)
  have before : (Event.made (Event.untilSettled r.events)).map Created.id = [⟨0⟩, ⟨1⟩] := by decide
  have behind : (Event.made (Event.sinceSettled r.events)).map Created.id = [⟨2⟩] := by decide
  obtain ⟨o, found, object⟩ := shows.shown 1 ⟨⟨1⟩, arrow⟩ rfl
  refine ⟨shows.objects.trans before, shows.pending.trans behind, ?_, ?_, o, found, object.zIndex,
    (object.props _ _).mpr (.tail rfl rfl)⟩
  · rw [shows.held, before]
    decide
  · rw [Bool.eq_false_iff, Ne, shows.held, before]
    decide

end Store

end Whiteboard
