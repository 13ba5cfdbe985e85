import Whiteboard.Proofs.Calls
import Whiteboard.Surface.Memory

/-!
# Drawing in memory

On a memory surface nothing fails and every id that was given is held, so what becomes of an arrow
depends on the bindings alone. While the names of shapes differ, a binding that was made is never
made anew: more shapes may settle what was open, and leave what was settled.

## Main definitions

* `Created.shapes`, `Created.arrows` — the shapes that were created, and the arrows
* `Bindings.call`, `Bindings.verdict`, `Bindings.unresolved` — what becomes of an arrow
* `Memory.Carries` — a board holds whatever names mean
* `Memory.Holds` — a board holds what was created on it
* `Bindings.Names` — names mean the shapes that carry them
* `Bindings.Extends` — bindings that go on from others

## Main results

* `Memory.Carries.drawBatch` — the bindings behind the shapes of a batch decide what becomes of it
* `Memory.Holds.drawBatch` — while names differ, they are the names of what was created
-/

namespace Whiteboard

/-! ### What was created -/

namespace Created

variable (a b : List Created)

/-- The shapes other than arrows that were created. -/
def shapes (created : List Created) : List Created := created.filter fun c => !c.call.spec.isArrow

/-- The arrows that were created. -/
def arrows (created : List Created) : List Created := created.filter fun c => c.call.spec.isArrow

@[simp] theorem shapes_append : shapes (a ++ b) = shapes a ++ shapes b := List.filter_append ..

@[simp] theorem arrows_append : arrows (a ++ b) = arrows a ++ arrows b := List.filter_append ..

variable {a}

theorem parts_of_shapes (h : ∀ c ∈ a, c.call.spec.isArrow = false) :
    shapes a = a ∧ arrows a = [] :=
  ⟨List.filter_eq_self.mpr fun c mem => by simp [h c mem],
    List.filter_eq_nil_iff.mpr fun c mem => by simp [h c mem]⟩

theorem parts_of_arrows (h : ∀ c ∈ a, c.call.spec.isArrow = true) :
    shapes a = [] ∧ arrows a = a :=
  ⟨List.filter_eq_nil_iff.mpr fun c mem => by simp [h c mem],
    List.filter_eq_self.mpr fun c mem => by simp [h c mem]⟩

end Created

/-! ### The board -/

namespace Memory

variable {supply : Nat → SurfaceId} {board : Memory} {made : List Created}

/-- The objects of what was created, in the order of creation. -/
def objects (made : List Created) : List Object :=
  made.mapIdx fun n c => .ofCall c.id (Int32.ofNat n) c.call

/-- A board that has settled, and holds what was created on it. -/
structure Holds (supply : Nat → SurfaceId) (board : Memory) (made : List Created) : Prop where
  pending : board.pending = []
  committed : board.committed = objects made
  ids : made.map Created.id = (List.range made.length).map supply

theorem holds_empty (supply : Nat → SurfaceId) : Holds supply {} [] := ⟨rfl, rfl, rfl⟩

/-- A creation takes the next id of the supply. -/
theorem Holds.draw (holds : board.Holds supply made) (call : ShapeCall) :
    ((surface supply).draw call board).1 = .created (supply made.length) ∧
      ((surface supply).draw call board).2.Holds supply (made ++ [⟨supply made.length, call⟩]) := by
  have size : board.size = made.length := by
    simp [Memory.size, holds.pending, holds.committed, objects]
  refine ⟨congrArg (fun n => Answer.created (supply n)) size, rfl, ?_, ?_⟩
  · have settled : ((surface supply).draw call board).2.committed =
        board.committed ++ (board.pending ++ [board.next supply call]) := rfl
    rw [settled, holds.pending, holds.committed, next, size]
    simp [objects, List.mapIdx_append]
  · simp [holds.ids, List.range_succ]

/-- A board holds every shape that was created on it. -/
theorem Holds.contains (holds : board.Holds supply made) {id : SurfaceId}
    (h : id ∈ made.map Created.id) : board.contains id = true := by
  -- the object is the one at the place of the creation
  obtain ⟨n, hn, found⟩ := List.mem_iff_getElem.mp h
  rw [List.length_map] at hn
  rw [List.getElem_map] at found
  refine List.find?_isSome.mpr ⟨.ofCall made[n].id (Int32.ofNat n) made[n].call, ?_, ?_⟩
  · rw [holds.committed]
    exact List.mem_mapIdx.mpr ⟨n, hn, rfl⟩
  · exact decide_eq_true found

end Memory

/-! ### Bindings -/

namespace Bindings

variable {ids ids' : Bindings}

/-- What an end of an arrow is found to be, on a surface that holds every shape with a name. -/
def endpoint (ids : Bindings) (ref : Option ShapeRef) : Endpoint :=
  match ref with
  | none => .free
  | some r =>
    match ids.resolve? r with
    | none => .missing r
    | some id => .bound id

/-- The dangling ends of an arrow. -/
def dangling (ids : Bindings) (spec : ShapeSpec) : List Dangling :=
  Endpoint.dangling (ids.endpoint spec.source) (ids.endpoint spec.target)

/-- The creation call for an arrow, bound where its references mean shapes. -/
def call (ids : Bindings) (spec : ShapeSpec) : ShapeCall :=
  ⟨spec, (ids.endpoint spec.source).id?, (ids.endpoint spec.target).id?⟩

/-- What is to be done with an arrow. -/
def verdict (ids : Bindings) (policy : Policy) (finality : Finality) (spec : ShapeSpec) : Verdict :=
  Endpoint.verdict policy finality spec (ids.endpoint spec.source) (ids.endpoint spec.target)

/-- What is told about the dangling ends of an arrow. -/
def unresolved (ids : Bindings) (policy : Policy) (finality : Finality) (spec : ShapeSpec) :
    List Diagnostic :=
  match ids.verdict policy finality spec with
  | .draw => Fate.tell .unbound (ids.dangling spec)
  | .skip => Fate.tell .skipped (ids.dangling spec)
  | .defer => []

/-- Names mean the shapes that carry them, the first one if several do. -/
def Names (ids : Bindings) (shapes : List Created) : Prop :=
  ∀ r, ids.resolve? r = (shapes.find? fun c => c.call.spec.ident = some r).map Created.id

/-- Bindings that go on from others: what was bound stays bound. -/
def Extends (ids ids' : Bindings) : Prop :=
  ∀ r id, ids.resolve? r = some id → ids'.resolve? r = some id

theorem names_empty : Names {} [] := fun _ => rfl

/-- A name means one of the shapes. -/
theorem Names.mem {shapes : List Created} (names : ids.Names shapes) {r : ShapeRef}
    {id : SurfaceId} (h : ids.resolve? r = some id) : id ∈ shapes.map Created.id := by
  rw [names r] at h
  obtain ⟨c, found, rfl⟩ := Option.map_eq_some_iff.mp h
  exact List.mem_map_of_mem (List.mem_of_find?_eq_some found)

/-- More shapes leave what the names mean. -/
theorem Names.extends_append {shapes more : List Created} (names : ids.Names shapes)
    (names' : ids'.Names (shapes ++ more)) : ids.Extends ids' := by
  intro r id h
  rw [names r] at h
  obtain ⟨c, found, rfl⟩ := Option.map_eq_some_iff.mp h
  rw [names' r, List.find?_append, found]
  rfl

/-- A new shape is named if its name is its own, and if it has none. -/
theorem Names.concat {shapes : List Created} (names : ids.Names shapes) {c : Created}
    (own : ∀ r, c.call.spec.ident = some r → ∀ c' ∈ shapes, c'.call.spec.ident ≠ some r) :
    (ids.bindIdent c.call.spec c.id).Names (shapes ++ [c]) := by
  intro r
  rw [List.find?_append]
  cases ident : c.call.spec.ident with
  | none => simp [bindIdent, ident, names r]
  | some r' =>
    have bound : ids.bindIdent c.call.spec c.id = ids.bind r' c.id := by simp [bindIdent, ident]
    rw [bound]
    by_cases same : r = r'
    · -- no shape before carries the name, so the new one is the first
      subst same
      have none : shapes.find? (fun c' => c'.call.spec.ident = some r) = none := by
        simpa using own r ident
      rw [resolve?_bind_self, none]
      simp [ident]
    · rw [resolve?_bind_of_ne ids same, names r]
      simp [ident, Ne.symm same]

end Bindings

/-! ### Fates -/

/-- The fates of arrows that the bindings decide, on a surface that draws whatever it is asked
for. -/
structure Bindings.Decides (ids : Bindings) (policy : Policy) (finality : Finality)
    (arrows : List ShapeSpec) (fates : Fates) : Prop where
  created : fates.created.map Created.call =
    (arrows.filter fun spec => ids.verdict policy finality spec = .draw).map ids.call
  deferred : fates.deferred = arrows.filter fun spec => ids.verdict policy finality spec = .defer
  diagnostics : fates.diagnostics = arrows.flatMap (ids.unresolved policy finality)

/-- What was created for arrows are arrows. -/
theorem Bindings.Decides.isArrow {ids : Bindings} {policy : Policy} {finality : Finality}
    {arrows : List ShapeSpec} {fates : Fates} (decides : ids.Decides policy finality arrows fates)
    (h : ∀ spec ∈ arrows, spec.isArrow = true) :
    ∀ c ∈ fates.created, c.call.spec.isArrow = true := by
  intro c mem
  have called := List.mem_map_of_mem (f := Created.call) mem
  rw [decides.created] at called
  obtain ⟨spec, drawn, same⟩ := List.mem_map.mp called
  rw [← same]
  exact h spec (List.mem_of_mem_filter drawn)

/-! ### Drawing on a board that holds whatever names mean -/

namespace Memory

variable (supply : Nat → SurfaceId) {board board' board'' : Memory} {ids : Bindings}

/-- A later moment of a board: it has settled, and keeps what it held. -/
structure Grows (board board' : Memory) : Prop where
  pending : board'.pending = []
  committed : board.committed <+: board'.committed

theorem Grows.refl (settled : board.pending = []) : board.Grows board :=
  ⟨settled, List.prefix_rfl⟩

theorem Grows.trans (first : board.Grows board') (then' : board'.Grows board'') :
    board.Grows board'' :=
  ⟨then'.pending, first.committed.trans then'.committed⟩

/-- What a board holds it goes on to hold. -/
theorem Grows.contains (grows : board.Grows board') {id : SurfaceId}
    (h : board.contains id = true) : board'.contains id = true := by
  obtain ⟨object, mem, found⟩ := List.find?_isSome.mp h
  exact List.find?_isSome.mpr ⟨object, grows.committed.subset mem, found⟩

/-- A creation on a board that has settled takes the next id, and the object is committed. -/
theorem draw_of_settled (settled : board.pending = []) (call : ShapeCall) :
    (surface supply).draw call board =
      (.created (supply board.size),
        { committed := board.committed ++ [board.next supply call] }) := by
  simp [Surface.draw, surface, create, settle, settled, next, Object.ofCall]

theorem grows_draw (settled : board.pending = []) (call : ShapeCall) :
    board.Grows ((surface supply).draw call board).2 ∧
      ((surface supply).draw call board).2.contains (supply board.size) = true := by
  rw [draw_of_settled supply settled]
  refine ⟨⟨rfl, List.prefix_append _ _⟩, ?_⟩
  exact List.find?_isSome.mpr ⟨board.next supply call, by simp, decide_eq_true rfl⟩

/-- A board that has settled, and holds whatever a name means. -/
structure Carries (board : Memory) (ids : Bindings) : Prop where
  pending : board.pending = []
  held : ∀ r id, ids.resolve? r = some id → board.contains id = true

theorem Carries.grows (carries : board.Carries ids) (grows : board.Grows board') :
    board'.Carries ids :=
  ⟨grows.pending, fun r id found => grows.contains (carries.held r id found)⟩

/-- A name may be given to whatever the board holds, be it new or in use. -/
theorem Carries.bindIdent (carries : board.Carries ids) (spec : ShapeSpec) {id : SurfaceId}
    (h : board.contains id = true) : board.Carries (ids.bindIdent spec id) where
  pending := carries.pending
  held r id' found := by
    unfold Bindings.bindIdent at found
    cases ident : spec.ident with
    | none => exact carries.held r id' (by simpa [ident] using found)
    | some r' =>
      simp only [ident] at found
      by_cases same : r = r'
      · rw [same, Bindings.resolve?_bind_self, Option.some_inj] at found
        exact found ▸ h
      · rw [Bindings.resolve?_bind_of_ne ids same] at found
        exact carries.held r id' found

/-- Whether an end dangles is a matter of the bindings alone. -/
theorem Carries.lookUp (carries : board.Carries ids) (ref : Option ShapeRef) :
    (surface supply).lookUp ids ref board = (ids.endpoint ref, board) := by
  unfold Surface.lookUp Bindings.endpoint
  cases ref with
  | none => rfl
  | some r =>
    dsimp only
    cases found : ids.resolve? r with
    | none => rfl
    | some id =>
      have held : ((surface supply).contains id board).1 = true := carries.held r id found
      simp only [held]
      rfl

variable (policy : Policy) (finality : Finality)

/-- The verdict on an arrow decides what is done. -/
theorem Carries.drawArrow_eq (carries : board.Carries ids) (spec : ShapeSpec) :
    (surface supply).drawArrow policy finality ids spec board =
      match ids.verdict policy finality spec with
      | .draw =>
        (.drawn (ids.call spec) (ids.dangling spec) ((surface supply).draw (ids.call spec) board).1,
          ((surface supply).draw (ids.call spec) board).2)
      | .skip => (.skipped spec (ids.dangling spec), board)
      | .defer => (.deferred spec, board) := by
  simp only [Surface.drawArrow_eq, carries.lookUp supply, Surface.drawArrowBetween_eq]
  rfl

/-- The verdict on an arrow decides its fate. -/
theorem Carries.drawArrow (carries : board.Carries ids) (spec : ShapeSpec) :
    let drawn := (surface supply).drawArrow policy finality ids spec board
    board.Grows drawn.2 ∧
      drawn.1 = match ids.verdict policy finality spec with
        | .draw => .drawn (ids.call spec) (ids.dangling spec) (.created (supply board.size))
        | .skip => .skipped spec (ids.dangling spec)
        | .defer => .deferred spec := by
  intro drawn
  have same : drawn = _ := carries.drawArrow_eq supply policy finality spec
  rw [same]
  cases ids.verdict policy finality spec with
  | draw =>
    refine ⟨(grows_draw supply carries.pending _).1, ?_⟩
    rw [draw_of_settled supply carries.pending]
  | skip => exact ⟨.refl carries.pending, rfl⟩
  | defer => exact ⟨.refl carries.pending, rfl⟩

/-- What becomes of arrows can be read off the bindings. -/
theorem Carries.drawArrows (carries : board.Carries ids) (arrows : List ShapeSpec) :
    let drawn := (surface supply).drawArrows policy finality ids arrows board
    board.Grows drawn.2 ∧ ids.Decides policy finality arrows drawn.1 := by
  induction arrows generalizing board with
  | nil => exact ⟨.refl carries.pending, rfl, rfl, rfl⟩
  | cons spec arrows ih =>
    obtain ⟨grows, fate⟩ := carries.drawArrow supply policy finality spec
    obtain ⟨grows', decides⟩ := ih (carries.grows grows)
    rw [Surface.drawArrows]
    refine ⟨grows.trans grows', ?_, ?_, ?_⟩
    · simp only [Fates.created_cons, List.map_append, decides.created, fate]
      cases verdict : ids.verdict policy finality spec <;> simp [verdict, Fate.created?]
    · simp only [Fates.deferred_cons, decides.deferred, fate]
      cases verdict : ids.verdict policy finality spec <;> simp [verdict, Fate.deferred?]
    · simp only [Fates.diagnostics_cons, decides.diagnostics, fate, List.flatMap_cons,
        Bindings.unresolved]
      cases verdict : ids.verdict policy finality spec <;> rfl

/-- All shapes are created, in order and unbound, and the board holds what their names mean. -/
theorem Carries.drawShapes (carries : board.Carries ids) (shapes : List ShapeSpec) :
    let drawn := (surface supply).drawShapes shapes ids board
    board.Grows drawn.2.2 ∧ drawn.2.2.Carries drawn.2.1 ∧
      drawn.1.created.map Created.call = shapes.map (fun spec => ⟨spec, none, none⟩) ∧
      drawn.1.diagnostics = [] := by
  induction shapes generalizing board ids with
  | nil => exact ⟨.refl carries.pending, carries, rfl, rfl⟩
  | cons spec shapes ih =>
    obtain ⟨grows, held⟩ :=
      grows_draw supply carries.pending ⟨spec, none, none⟩
    have answer : ((surface supply).draw ⟨spec, none, none⟩ board).1 =
        .created (supply board.size) := by
      rw [draw_of_settled supply carries.pending]
    obtain ⟨grows', carries', calls, quiet⟩ := ih ((carries.grows grows).bindIdent spec held)
    simp only [Surface.drawShapes_cons, answer, Bindings.bindAnswer]
    refine ⟨grows.trans grows', carries', ?_, ?_⟩
    · simpa [Fates.created_cons, Fate.created?] using calls
    · simpa [Fates.diagnostics_cons, Fate.diagnostics, Fate.tell] using quiet

/-- What drawing a batch comes to, whatever names its shapes have. -/
structure Outcome (policy : Policy) (finality : Finality) (batch : Batch) (board : Memory)
    (drawn : Fates × Bindings × Memory) : Prop where
  grows : board.Grows drawn.2.2
  carries : drawn.2.2.Carries drawn.2.1
  shapes : (Created.shapes drawn.1.created).map Created.call =
    batch.shapes.map fun spec => ⟨spec, none, none⟩
  arrows : (Created.arrows drawn.1.created).map Created.call =
    (batch.arrows.filter fun spec => drawn.2.1.verdict policy finality spec = .draw).map
      drawn.2.1.call
  deferred : drawn.1.deferred =
    batch.arrows.filter fun spec => drawn.2.1.verdict policy finality spec = .defer
  diagnostics : drawn.1.diagnostics = batch.arrows.flatMap (drawn.2.1.unresolved policy finality)

/-- What becomes of a batch can be read off the bindings behind its shapes. -/
theorem Carries.drawBatch (carries : board.Carries ids) {batch : Batch}
    (sorted : batch.IsSorted) :
    Outcome policy finality batch board
      ((surface supply).drawBatch policy finality batch ids board) := by
  obtain ⟨grows, carries', calls, quiet⟩ :=
    carries.drawShapes supply batch.shapes
  obtain ⟨grows', decides⟩ := carries'.drawArrows supply policy finality batch.arrows
  have shapes : ∀ c ∈ Fates.created ((surface supply).drawShapes batch.shapes ids board).1,
      c.call.spec.isArrow = false := by
    intro c mem
    have called := List.mem_map_of_mem (f := Created.call) mem
    rw [calls] at called
    obtain ⟨spec, there, same⟩ := List.mem_map.mp called
    rw [← same]
    exact sorted.shapes spec there
  -- the first phase creates no arrow and the second one no shape
  obtain ⟨shapes₁, arrows₁⟩ := Created.parts_of_shapes shapes
  obtain ⟨shapes₂, arrows₂⟩ := Created.parts_of_arrows (decides.isArrow sorted.arrows)
  rw [Surface.drawBatch_eq]
  refine ⟨grows.trans grows', carries'.grows grows', ?_, ?_, ?_, ?_⟩
  · simpa [shapes₁, shapes₂] using calls
  · simpa [arrows₁, arrows₂] using decides.created
  · simpa [Surface.deferred_drawShapes] using decides.deferred
  · simpa [quiet] using decides.diagnostics

end Memory

/-! ### Drawing while the names of shapes differ -/

namespace Memory

variable {supply : Nat → SurfaceId} {board : Memory} {made : List Created} {ids : Bindings}
  (policy : Policy) (finality : Finality)

/-- Every shape with a name is held. -/
theorem Holds.carries (holds : board.Holds supply made) (names : ids.Names (Created.shapes made)) :
    board.Carries ids where
  pending := holds.pending
  held r id found := by
    have mem := names.mem found
    exact holds.contains (List.map_subset Created.id (List.filter_subset_self _) mem)

/-- What was created for an arrow is held. -/
theorem Holds.drawArrow (holds : board.Holds supply made)
    (names : ids.Names (Created.shapes made)) (spec : ShapeSpec) :
    let drawn := (surface supply).drawArrow policy finality ids spec board
    drawn.2.Holds supply (made ++ drawn.1.created?.toList) := by
  intro drawn
  have same : drawn = _ := (holds.carries names).drawArrow_eq supply policy finality spec
  rw [same]
  cases ids.verdict policy finality spec with
  | draw =>
    obtain ⟨answer, held⟩ := holds.draw (ids.call spec)
    rw [answer]
    exact held
  | skip => simpa [Fate.created?] using holds
  | defer => simpa [Fate.created?] using holds

/-- What was created for arrows is held. -/
theorem Holds.drawArrows (holds : board.Holds supply made)
    (names : ids.Names (Created.shapes made)) {arrows : List ShapeSpec}
    (h : ∀ spec ∈ arrows, spec.isArrow = true) :
    let drawn := (surface supply).drawArrows policy finality ids arrows board
    drawn.2.Holds supply (made ++ drawn.1.created) := by
  induction arrows generalizing board made with
  | nil => simpa [Surface.drawArrows, Fates.created] using holds
  | cons spec arrows ih =>
    obtain ⟨arrow, later⟩ := List.forall_mem_cons.mp h
    have held := holds.drawArrow policy finality names spec
    obtain ⟨-, fate⟩ := (holds.carries names).drawArrow supply policy finality spec
    -- an arrow is no shape, so the names are those of the shapes before and after
    have names' : ids.Names (Created.shapes (made ++
        ((surface supply).drawArrow policy finality ids spec board).1.created?.toList)) := by
      rw [Created.shapes_append, fate]
      cases ids.verdict policy finality spec <;>
        simpa [Fate.created?, Created.shapes, Bindings.call, arrow] using names
    have held' := ih held names' later
    rw [Surface.drawArrows]
    simpa [Fates.created_cons] using held'

/-- What was created for shapes is held, and named. -/
theorem Holds.drawShapes (holds : board.Holds supply made)
    (names : ids.Names (Created.shapes made)) {shapes : List ShapeSpec}
    (h : ∀ spec ∈ shapes, spec.isArrow = false)
    (own : (((Created.shapes made).map (·.call.spec) ++ shapes).filterMap ShapeSpec.ident).Nodup) :
    let drawn := (surface supply).drawShapes shapes ids board
    drawn.2.2.Holds supply (made ++ drawn.1.created) ∧
      drawn.2.1.Names (Created.shapes (made ++ drawn.1.created)) := by
  induction shapes generalizing board made ids with
  | nil =>
    refine ⟨?_, ?_⟩
    · simpa [Surface.drawShapes, Fates.created] using holds
    · simpa [Surface.drawShapes, Fates.created] using names
  | cons spec shapes ih =>
    obtain ⟨shape, later⟩ := List.forall_mem_cons.mp h
    obtain ⟨answer, held⟩ := holds.draw ⟨spec, none, none⟩
    -- the name of the shape is its own among those before it, as all names differ
    have fresh : ∀ r, spec.ident = some r → ∀ c ∈ Created.shapes made,
        c.call.spec.ident ≠ some r := by
      intro r ident c mem same
      rw [List.filterMap_append, List.filterMap_cons_some ident] at own
      exact (List.nodup_append.mp own).2.2 r
        (List.mem_filterMap.mpr ⟨c.call.spec, List.mem_map_of_mem mem, same⟩) r
        List.mem_cons_self rfl
    have last : Created.shapes [⟨supply made.length, ⟨spec, none, none⟩⟩] =
        [⟨supply made.length, ⟨spec, none, none⟩⟩] := by
      simp [Created.shapes, shape]
    have names' := names.concat (c := ⟨supply made.length, ⟨spec, none, none⟩⟩) fresh
    rw [← last, ← Created.shapes_append] at names'
    obtain ⟨held', named⟩ := ih held names' later (by
      simpa [Created.shapes, shape] using own)
    simp only [Surface.drawShapes_cons, answer, Bindings.bindAnswer]
    refine ⟨?_, ?_⟩
    · simpa [Fates.created_cons, Fate.created?] using held'
    · simpa [Fates.created_cons, Fate.created?] using named

/-- What drawing a batch comes to, behind what was created before. -/
structure Draws (supply : Nat → SurfaceId) (policy : Policy) (finality : Finality) (batch : Batch)
    (made : List Created) (drawn : Fates × Bindings × Memory) : Prop where
  holds : drawn.2.2.Holds supply (made ++ drawn.1.created)
  names : drawn.2.1.Names (Created.shapes (made ++ drawn.1.created))
  shapes : (Created.shapes drawn.1.created).map Created.call =
    batch.shapes.map fun spec => ⟨spec, none, none⟩
  arrows : (Created.arrows drawn.1.created).map Created.call =
    (batch.arrows.filter fun spec => drawn.2.1.verdict policy finality spec = .draw).map
      drawn.2.1.call
  deferred : drawn.1.deferred =
    batch.arrows.filter fun spec => drawn.2.1.verdict policy finality spec = .defer
  diagnostics : drawn.1.diagnostics = batch.arrows.flatMap (drawn.2.1.unresolved policy finality)

/-- While the names of shapes differ, they are the names of what was created. -/
theorem Holds.drawBatch (holds : board.Holds supply made)
    (names : ids.Names (Created.shapes made)) {batch : Batch} (sorted : batch.IsSorted)
    (own : (((Created.shapes made).map (·.call.spec) ++ batch.shapes).filterMap
      ShapeSpec.ident).Nodup) :
    Draws supply policy finality batch made
      ((surface supply).drawBatch policy finality batch ids board) := by
  have carries := holds.carries names
  have outcome := carries.drawBatch supply policy finality sorted
  obtain ⟨held, named⟩ := holds.drawShapes names sorted.shapes own
  have held' := held.drawArrows policy finality named sorted.arrows
  -- the second phase creates no shape
  obtain ⟨-, decides⟩ :=
    (held.carries named).drawArrows supply policy finality batch.arrows
  obtain ⟨shapes₂, -⟩ := Created.parts_of_arrows (decides.isArrow sorted.arrows)
  refine ⟨?_, ?_, outcome.shapes, outcome.arrows, outcome.deferred, outcome.diagnostics⟩
  · simpa [Surface.drawBatch_eq] using held'
  · simpa [Surface.drawBatch_eq, shapes₂] using named

end Memory

end Whiteboard
