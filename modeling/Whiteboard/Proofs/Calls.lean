import Mathlib.Data.List.Perm.Basic
import Whiteboard.Drawing.Basic
import Whiteboard.Surface.Recorded

/-!
# What a batch asks of the surface

Whatever the surface answers, the fates of a batch account for every specification in it and for
every creation call: a fate has one specification, and it has a call exactly if the specification
was handed to the surface.

## Main definitions

* `Verdict`, `Endpoint.verdict` — what is to be done with an arrow whose ends have been looked up
* `Bindings.bindAnswer` — the bindings behind the answer to a creation
* `Fate.spec`, `Fates.calls`, `Fates.skipped` — what a fate tells about a specification
* `Recorded.Adds` — which creation calls were recorded from one moment to a later one

## Main results

* `Surface.drawArrowBetween_eq` — the verdict decides what becomes of an arrow
* `Surface.ofShapes_calls_drawBatch` — each shape is asked for once, in order
* `Surface.perm_drawBatch_arrows` — each arrow was drawn, was dropped or waits
* `Recorded.adds_drawBatch` — what was recorded is what the fates tell
-/

namespace Whiteboard

/-! ### Calls for shapes and for arrows -/

namespace ShapeCall

/-- The calls for shapes other than arrows. -/
def ofShapes (calls : List ShapeCall) : List ShapeCall := calls.filter fun c => !c.spec.isArrow

/-- The calls for arrows. -/
def ofArrows (calls : List ShapeCall) : List ShapeCall := calls.filter fun c => c.spec.isArrow

@[simp] theorem ofShapes_append (a b : List ShapeCall) :
    ofShapes (a ++ b) = ofShapes a ++ ofShapes b := List.filter_append ..

@[simp] theorem ofArrows_append (a b : List ShapeCall) :
    ofArrows (a ++ b) = ofArrows a ++ ofArrows b := List.filter_append ..

end ShapeCall

/-- The shapes of a batch are no arrows, and its arrows are. -/
structure Batch.IsSorted (batch : Batch) : Prop where
  shapes : ∀ spec ∈ batch.shapes, spec.isArrow = false
  arrows : ∀ spec ∈ batch.arrows, spec.isArrow = true

/-- The reference of an arrow at one of its ends. -/
def ShapeSpec.refAt (spec : ShapeSpec) : ArrowEnd → Option ShapeRef
  | .tail => spec.source
  | .head => spec.target

/-! ### Names of shapes -/

namespace Bindings

/-- The bindings with the name of a shape, if it has one, bound to an id. -/
def bindIdent (ids : Bindings) (spec : ShapeSpec) (id : SurfaceId) : Bindings :=
  match spec.ident with
  | some r => ids.bind r id
  | none => ids

/-- The bindings behind the answer to a creation: what was created is bound to its name. -/
def bindAnswer (ids : Bindings) (spec : ShapeSpec) : Answer → Bindings
  | .created id => ids.bindIdent spec id
  | .failed _ => ids

end Bindings

/-! ### Fates and their specifications -/

namespace Fate

/-- The specification that this is the fate of. -/
def spec : Fate → ShapeSpec
  | .drawn call _ _ => call.spec
  | .skipped spec _ => spec
  | .deferred spec => spec

/-- The creation call, if the specification was handed to the surface. -/
def call? : Fate → Option ShapeCall
  | .drawn call _ _ => some call
  | _ => none

/-- The specification and its dangling ends, if it was dropped because of them. -/
def skipped? : Fate → Option (ShapeSpec × List Dangling)
  | .skipped spec dangling => some (spec, dangling)
  | _ => none

/-- What is handed to the surface is the specification itself. -/
theorem spec_of_call? {fate : Fate} {call : ShapeCall} (h : fate.call? = some call) :
    fate.spec = call.spec := by
  cases fate with
  | drawn c _ _ => cases h; rfl
  | skipped _ _ => cases h
  | deferred _ => cases h

end Fate

namespace Fates

/-- The creation calls of a batch, in order. -/
def calls (fates : Fates) : List ShapeCall := fates.filterMap Fate.call?

/-- The arrows that were dropped, with their dangling ends. -/
def skipped (fates : Fates) : List (ShapeSpec × List Dangling) := fates.filterMap Fate.skipped?

@[simp] theorem calls_append (a b : Fates) : calls (a ++ b) = calls a ++ calls b :=
  List.filterMap_append

@[simp] theorem skipped_append (a b : Fates) : skipped (a ++ b) = skipped a ++ skipped b :=
  List.filterMap_append

@[simp] theorem deferred_append (a b : Fates) : deferred (a ++ b) = deferred a ++ deferred b :=
  List.filterMap_append

@[simp] theorem created_append (a b : Fates) : created (a ++ b) = created a ++ created b :=
  List.filterMap_append

@[simp] theorem diagnostics_append (a b : Fates) :
    diagnostics (a ++ b) = diagnostics a ++ diagnostics b := List.flatMap_append

theorem created_cons (fate : Fate) (fates : Fates) :
    created (fate :: fates) = fate.created?.toList ++ created fates := by
  rw [created, List.filterMap_cons]
  cases fate.created? <;> rfl

theorem deferred_cons (fate : Fate) (fates : Fates) :
    deferred (fate :: fates) = fate.deferred?.toList ++ deferred fates := by
  rw [deferred, List.filterMap_cons]
  cases fate.deferred? <;> rfl

theorem skipped_cons (fate : Fate) (fates : Fates) :
    skipped (fate :: fates) = fate.skipped?.toList ++ skipped fates := by
  rw [skipped, List.filterMap_cons]
  cases fate.skipped? <;> rfl

theorem diagnostics_cons (fate : Fate) (fates : Fates) :
    diagnostics (fate :: fates) = fate.diagnostics ++ diagnostics fates := rfl

/-- Every specification was handed to the surface, dropped or deferred, and only one of these. -/
theorem perm_specs (fates : Fates) :
    (fates.map Fate.spec).Perm
      ((calls fates).map ShapeCall.spec ++ (skipped fates).map Prod.fst ++ deferred fates) := by
  induction fates with
  | nil => simp [calls, skipped, deferred]
  | cons fate fates ih =>
    -- the first specification goes to the front of the part that its fate puts it in
    cases fate with
    | drawn call dangling answer => exact ih.cons call.spec
    | skipped spec dangling =>
      refine (ih.cons spec).trans ?_
      simp only [List.append_assoc]
      exact List.perm_middle.symm
    | deferred spec =>
      refine (ih.cons spec).trans ?_
      exact List.perm_middle.symm

/-- A call is for one of the specifications. -/
theorem spec_mem_of_mem_calls {fates : Fates} {call : ShapeCall} (h : call ∈ calls fates) :
    call.spec ∈ fates.map Fate.spec := by
  obtain ⟨fate, mem, found⟩ := List.mem_filterMap.mp h
  exact List.mem_map.mpr ⟨fate, mem, Fate.spec_of_call? found⟩

/-- What waits are some of the specifications, in order. -/
theorem deferred_sublist (fates : Fates) : (deferred fates).Sublist (fates.map Fate.spec) := by
  induction fates with
  | nil => exact .slnil
  | cons fate fates ih =>
    cases fate with
    | drawn call dangling answer => exact ih.cons call.spec
    | skipped spec dangling => exact ih.cons spec
    | deferred spec => exact ih.cons_cons spec

end Fates

/-! ### Verdicts -/

/-- What is to be done with an arrow. -/
inductive Verdict
  | draw
  | skip
  | defer
  deriving DecidableEq

/-- What is to be done with an arrow whose ends have been looked up. -/
def Endpoint.verdict (policy : Policy) (finality : Finality) (spec : ShapeSpec)
    (tail head : Endpoint) : Verdict :=
  if (Endpoint.dangling tail head).isEmpty then .draw
  else
    match finality, policy with
    | .more, _ => .defer
    | .last, .skip => .skip
    | .last, .unbind => if head.missing?.isSome && spec.endPoint?.isNone then .skip else .draw

namespace Endpoint

theorem verdict_last_ne_defer (policy : Policy) (spec : ShapeSpec) (tail head : Endpoint) :
    verdict policy .last spec tail head ≠ .defer := by
  unfold verdict
  split
  · simp
  · cases policy with
    | skip => simp
    | unbind =>
      dsimp only
      split <;> simp

theorem verdict_more_ne_skip (policy : Policy) (spec : ShapeSpec) (tail head : Endpoint) :
    verdict policy .more spec tail head ≠ .skip := by
  unfold verdict
  split <;> simp

end Endpoint

namespace Surface

variable {Board : Type} (S : Surface Board) (policy : Policy) (finality : Finality)

/-- The verdict decides what becomes of an arrow. -/
theorem drawArrowBetween_eq (spec : ShapeSpec) (tail head : Endpoint) (board : Board) :
    S.drawArrowBetween policy finality spec tail head board =
      match Endpoint.verdict policy finality spec tail head with
      | .draw =>
        (.drawn ⟨spec, tail.id?, head.id?⟩ (Endpoint.dangling tail head)
            (S.draw ⟨spec, tail.id?, head.id?⟩ board).1,
          (S.draw ⟨spec, tail.id?, head.id?⟩ board).2)
      | .skip => (.skipped spec (Endpoint.dangling tail head), board)
      | .defer => (.deferred spec, board) := by
  unfold drawArrowBetween Endpoint.verdict
  -- only an arrow with a dangling end is a matter of finality and policy
  cases empty : Endpoint.dangling tail head with
  | nil => rfl
  | cons d ds =>
    cases finality with
    | more => rfl
    | last =>
      cases policy with
      | skip => rfl
      | unbind =>
        simp only [List.isEmpty_cons, Bool.false_eq_true, if_false]
        split <;> rfl

/-- Both ends are looked up before anything is done. -/
theorem drawArrow_eq (ids : Bindings) (spec : ShapeSpec) (board : Board) :
    S.drawArrow policy finality ids spec board =
      S.drawArrowBetween policy finality spec (S.lookUp ids spec.source board).1
        (S.lookUp ids spec.target (S.lookUp ids spec.source board).2).1
        (S.lookUp ids spec.target (S.lookUp ids spec.source board).2).2 := rfl

/-- An arrow keeps its specification, whatever becomes of it. -/
theorem spec_drawArrow (ids : Bindings) (spec : ShapeSpec) (board : Board) :
    (S.drawArrow policy finality ids spec board).1.spec = spec := by
  rw [drawArrow_eq, drawArrowBetween_eq]
  split <;> rfl

/-- The fates of arrows are those of the specifications, in order. -/
theorem map_spec_drawArrows (ids : Bindings) (specs : List ShapeSpec) (board : Board) :
    (S.drawArrows policy finality ids specs board).1.map Fate.spec = specs := by
  induction specs generalizing board with
  | nil => rfl
  | cons spec specs ih =>
    rw [drawArrows]
    simp only [List.map_cons, spec_drawArrow, ih]

/-- A shape is created, bound to its name if the surface created it, and the others are drawn behind
it. -/
theorem drawShapes_cons (spec : ShapeSpec) (specs : List ShapeSpec) (ids : Bindings)
    (board : Board) :
    S.drawShapes (spec :: specs) ids board =
      let drawn := S.draw ⟨spec, none, none⟩ board
      let rest := S.drawShapes specs (ids.bindAnswer spec drawn.1) drawn.2
      (.drawn ⟨spec, none, none⟩ [] drawn.1 :: rest.1, rest.2) := by
  rw [drawShapes]
  generalize S.draw ⟨spec, none, none⟩ board = drawn
  obtain ⟨answer, board⟩ := drawn
  cases answer with
  | failed error => rfl
  | created id =>
    dsimp only [Bindings.bindAnswer, Bindings.bindIdent]
    cases spec.ident <;> rfl

/-- The fates of shapes are those of the specifications, in order. -/
theorem map_spec_drawShapes (specs : List ShapeSpec) (ids : Bindings) (board : Board) :
    (S.drawShapes specs ids board).1.map Fate.spec = specs := by
  induction specs generalizing ids board with
  | nil => rfl
  | cons spec specs ih => exact congrArg (spec :: ·) (ih _ _)

/-- Every shape is handed to the surface, in order and without bindings. -/
theorem calls_drawShapes (specs : List ShapeSpec) (ids : Bindings) (board : Board) :
    (S.drawShapes specs ids board).1.calls = specs.map fun spec => ⟨spec, none, none⟩ := by
  induction specs generalizing ids board with
  | nil => rfl
  | cons spec specs ih => exact congrArg (_ :: ·) (ih _ _)

/-- Nothing else becomes of a shape. -/
theorem eq_drawn_of_mem_drawShapes {specs : List ShapeSpec} {ids : Bindings} {board : Board}
    {fate : Fate} (h : fate ∈ (S.drawShapes specs ids board).1) :
    ∃ spec ∈ specs, ∃ answer, fate = .drawn ⟨spec, none, none⟩ [] answer := by
  induction specs generalizing ids board with
  | nil => cases h
  | cons spec specs ih =>
    rcases List.mem_cons.mp h with rfl | h
    · exact ⟨spec, List.mem_cons_self, _, rfl⟩
    · obtain ⟨spec', mem, found⟩ := ih h
      exact ⟨spec', List.mem_cons_of_mem _ mem, found⟩

theorem skipped_drawShapes (specs : List ShapeSpec) (ids : Bindings) (board : Board) :
    (S.drawShapes specs ids board).1.skipped = [] := by
  apply List.filterMap_eq_nil_iff.mpr
  intro fate h
  obtain ⟨spec, -, answer, rfl⟩ := S.eq_drawn_of_mem_drawShapes h
  rfl

theorem deferred_drawShapes (specs : List ShapeSpec) (ids : Bindings) (board : Board) :
    (S.drawShapes specs ids board).1.deferred = [] := by
  apply List.filterMap_eq_nil_iff.mpr
  intro fate h
  obtain ⟨spec, -, answer, rfl⟩ := S.eq_drawn_of_mem_drawShapes h
  rfl

/-- The fate of an arrow is what its own drawing came to, on the board of that moment. -/
theorem eq_drawArrow_of_mem_drawArrows {ids : Bindings} {specs : List ShapeSpec} {board : Board}
    {fate : Fate} (h : fate ∈ (S.drawArrows policy finality ids specs board).1) :
    ∃ spec ∈ specs, ∃ board, fate = (S.drawArrow policy finality ids spec board).1 := by
  induction specs generalizing board with
  | nil => cases h
  | cons spec specs ih =>
    rcases List.mem_cons.mp h with rfl | h
    · exact ⟨spec, List.mem_cons_self, board, rfl⟩
    · obtain ⟨spec', mem, found⟩ := ih h
      exact ⟨spec', List.mem_cons_of_mem _ mem, found⟩

/-- Behind the last text no arrow waits. -/
theorem deferred_drawArrows_last (ids : Bindings) (specs : List ShapeSpec) (board : Board) :
    (S.drawArrows policy .last ids specs board).1.deferred = [] := by
  apply List.filterMap_eq_nil_iff.mpr
  intro fate h
  obtain ⟨spec, -, board, rfl⟩ := S.eq_drawArrow_of_mem_drawArrows policy .last h
  rw [drawArrow_eq, drawArrowBetween_eq]
  split
  case h_1 | h_2 => rfl
  case h_3 verdict => exact absurd verdict (Endpoint.verdict_last_ne_defer policy _ _ _)

/-- While more text may come no arrow is dropped. -/
theorem skipped_drawArrows_more (ids : Bindings) (specs : List ShapeSpec) (board : Board) :
    (S.drawArrows policy .more ids specs board).1.skipped = [] := by
  apply List.filterMap_eq_nil_iff.mpr
  intro fate h
  obtain ⟨spec, -, board, rfl⟩ := S.eq_drawArrow_of_mem_drawArrows policy .more h
  rw [drawArrow_eq, drawArrowBetween_eq]
  split
  case h_1 | h_3 => rfl
  case h_2 verdict => exact absurd verdict (Endpoint.verdict_more_ne_skip policy _ _ _)

/-- An end that was looked up dangles only at a reference that the arrow has there. -/
theorem missing?_lookUp {ids : Bindings} {ref : Option ShapeRef} {board : Board} {r : ShapeRef}
    (h : (S.lookUp ids ref board).1.missing? = some r) : ref = some r := by
  unfold lookUp at h
  split at h
  case h_1 => cases h
  case h_2 r' =>
    split at h
    case h_1 => simpa [Endpoint.missing?] using h
    case h_2 id bound =>
      cases there : (S.contains id board).1 <;> simp_all [Endpoint.missing?]

/-- An arrow that was dropped has dangling ends, and they are its own. -/
theorem dangling_of_mem_skipped_drawArrows {ids : Bindings} {specs : List ShapeSpec} {board : Board}
    {spec : ShapeSpec} {dangling : List Dangling}
    (h : (spec, dangling) ∈ (S.drawArrows policy finality ids specs board).1.skipped) :
    dangling ≠ [] ∧ ∀ d ∈ dangling, spec.refAt d.arrowEnd = some d.ref := by
  obtain ⟨fate, mem, found⟩ := List.mem_filterMap.mp h
  obtain ⟨spec', -, board, rfl⟩ := S.eq_drawArrow_of_mem_drawArrows policy finality mem
  rw [drawArrow_eq, drawArrowBetween_eq] at found
  split at found
  case h_1 => cases found
  case h_2 verdict =>
    cases found
    refine ⟨fun empty => ?_, fun d hd => ?_⟩
    · -- with no end dangling the verdict would have been to draw
      simp [Endpoint.verdict, empty] at verdict
    · rcases List.mem_append.mp hd with hd | hd
      · obtain ⟨r, missing, rfl⟩ := Option.map_eq_some_iff.mp (Option.mem_toList.mp hd)
        exact S.missing?_lookUp missing
      · obtain ⟨r, missing, rfl⟩ := Option.map_eq_some_iff.mp (Option.mem_toList.mp hd)
        exact S.missing?_lookUp missing
  case h_3 => cases found

/-! ### Batches -/

/-- The two phases of a batch, in order. -/
theorem drawBatch_eq (batch : Batch) (ids : Bindings) (board : Board) :
    S.drawBatch policy finality batch ids board =
      ((S.drawShapes batch.shapes ids board).1 ++
          (S.drawArrows policy finality (S.drawShapes batch.shapes ids board).2.1 batch.arrows
            (S.drawShapes batch.shapes ids board).2.2).1,
        (S.drawShapes batch.shapes ids board).2.1,
        (S.drawArrows policy finality (S.drawShapes batch.shapes ids board).2.1 batch.arrows
          (S.drawShapes batch.shapes ids board).2.2).2) := rfl

/-- The shapes and arrows of a batch have one fate each, in order. -/
theorem map_spec_drawBatch (batch : Batch) (ids : Bindings) (board : Board) :
    (S.drawBatch policy finality batch ids board).1.map Fate.spec =
      batch.shapes ++ batch.arrows := by
  rw [drawBatch_eq, List.map_append, map_spec_drawShapes, map_spec_drawArrows]

/-- The arrows that wait are some of the arrows of the batch, in order. -/
theorem deferred_drawBatch_sublist (batch : Batch) (ids : Bindings) (board : Board) :
    (S.drawBatch policy finality batch ids board).1.deferred.Sublist batch.arrows := by
  rw [drawBatch_eq, Fates.deferred_append, deferred_drawShapes, List.nil_append]
  have specs := S.map_spec_drawArrows policy finality (S.drawShapes batch.shapes ids board).2.1
    batch.arrows (S.drawShapes batch.shapes ids board).2.2
  have waiting := Fates.deferred_sublist (S.drawArrows policy finality
    (S.drawShapes batch.shapes ids board).2.1 batch.arrows
    (S.drawShapes batch.shapes ids board).2.2).1
  rwa [specs] at waiting

/-- Behind the last text no arrow of a batch waits. -/
theorem deferred_drawBatch_last (batch : Batch) (ids : Bindings) (board : Board) :
    (S.drawBatch policy .last batch ids board).1.deferred = [] := by
  rw [drawBatch_eq, Fates.deferred_append, deferred_drawShapes, deferred_drawArrows_last,
    List.append_nil]

/-- While more text may come no arrow of a batch is dropped. -/
theorem skipped_drawBatch_more (batch : Batch) (ids : Bindings) (board : Board) :
    (S.drawBatch policy .more batch ids board).1.skipped = [] := by
  rw [drawBatch_eq, Fates.skipped_append, skipped_drawShapes, skipped_drawArrows_more,
    List.append_nil]

/-- An arrow that a batch dropped has dangling ends, and they are its own. -/
theorem dangling_of_mem_skipped (batch : Batch) (ids : Bindings) (board : Board)
    {drop : ShapeSpec × List Dangling}
    (h : drop ∈ (S.drawBatch policy finality batch ids board).1.skipped) :
    drop.2 ≠ [] ∧ ∀ d ∈ drop.2, drop.1.refAt d.arrowEnd = some d.ref := by
  rw [drawBatch_eq, Fates.skipped_append, skipped_drawShapes, List.nil_append] at h
  exact S.dangling_of_mem_skipped_drawArrows policy finality h

variable {batch : Batch}

/-- The calls of the arrows of a batch are for arrows. -/
theorem ofShapes_calls_drawArrows (harrows : ∀ spec ∈ batch.arrows, spec.isArrow = true)
    (ids : Bindings) (board : Board) :
    ShapeCall.ofShapes (S.drawArrows policy finality ids batch.arrows board).1.calls = [] := by
  apply List.filter_eq_nil_iff.mpr
  intro call h
  have mem := Fates.spec_mem_of_mem_calls h
  rw [map_spec_drawArrows] at mem
  simp [harrows _ mem]

/-- Each shape of a batch is asked for once, in order, and nothing else that is no arrow. -/
theorem ofShapes_calls_drawBatch (hbatch : batch.IsSorted) (ids : Bindings) (board : Board) :
    ShapeCall.ofShapes (S.drawBatch policy finality batch ids board).1.calls =
      batch.shapes.map fun spec => ⟨spec, none, none⟩ := by
  rw [drawBatch_eq, Fates.calls_append, ShapeCall.ofShapes_append,
    ofShapes_calls_drawArrows S policy finality hbatch.arrows, calls_drawShapes, List.append_nil]
  apply List.filter_eq_self.mpr
  intro call h
  obtain ⟨spec, mem, rfl⟩ := List.mem_map.mp h
  simp [hbatch.shapes spec mem]

/-- Each arrow of a batch was asked for, was dropped or waits, and only one of these. -/
theorem perm_drawBatch_arrows (hbatch : batch.IsSorted) (ids : Bindings) (board : Board) :
    batch.arrows.Perm
      ((ShapeCall.ofArrows (S.drawBatch policy finality batch ids board).1.calls).map
          ShapeCall.spec ++
        (S.drawBatch policy finality batch ids board).1.skipped.map Prod.fst ++
        (S.drawBatch policy finality batch ids board).1.deferred) := by
  -- the calls of the first phase are for no arrows, and all calls of the second one are
  have shapes : ∀ call ∈ (S.drawShapes batch.shapes ids board).1.calls,
      ¬ call.spec.isArrow = true := by
    intro call h
    rw [calls_drawShapes] at h
    obtain ⟨spec, mem, rfl⟩ := List.mem_map.mp h
    simp [hbatch.shapes spec mem]
  have arrows : ∀ call ∈ (S.drawArrows policy finality (S.drawShapes batch.shapes ids board).2.1
      batch.arrows (S.drawShapes batch.shapes ids board).2.2).1.calls,
      call.spec.isArrow = true := by
    intro call h
    have mem := Fates.spec_mem_of_mem_calls h
    rw [map_spec_drawArrows] at mem
    exact hbatch.arrows _ mem
  rw [drawBatch_eq, Fates.calls_append, ShapeCall.ofArrows_append, Fates.skipped_append,
    skipped_drawShapes, Fates.deferred_append, deferred_drawShapes, List.nil_append,
    List.nil_append, ShapeCall.ofArrows, ShapeCall.ofArrows, List.filter_eq_nil_iff.mpr shapes,
    List.filter_eq_self.mpr arrows, List.nil_append]
  conv_lhs => rw [← S.map_spec_drawArrows policy finality
    (S.drawShapes batch.shapes ids board).2.1 batch.arrows
    (S.drawShapes batch.shapes ids board).2.2]
  exact Fates.perm_specs _

end Surface

/-! ### What was recorded -/

namespace Event

/-- The call of an event, if it is a creation. -/
def call? : Event → Option ShapeCall
  | .create call _ => some call
  | _ => none

/-- A creation with its answer, and the settling behind it. -/
def creation (call : ShapeCall) (answer : Answer) : List Event := [.create call answer, .settle]

end Event

namespace Recorded

variable {Board : Type} {r r₁ r₂ r₃ : Recorded Board}

/-- From one moment to a later one, these creation calls were recorded. -/
def Adds (r r' : Recorded Board) (calls : List ShapeCall) : Prop :=
  ∃ events, r'.events = r.events ++ events ∧ events.filterMap Event.call? = calls

theorem Adds.refl (r : Recorded Board) : Adds r r [] := ⟨[], by simp⟩

theorem Adds.trans {calls₁ calls₂ : List ShapeCall} (h₁ : Adds r₁ r₂ calls₁)
    (h₂ : Adds r₂ r₃ calls₂) : Adds r₁ r₃ (calls₁ ++ calls₂) := by
  obtain ⟨events₁, later₁, rfl⟩ := h₁
  obtain ⟨events₂, later₂, rfl⟩ := h₂
  exact ⟨events₁ ++ events₂, by rw [later₂, later₁, List.append_assoc], List.filterMap_append⟩

/-- The calls since a moment are those of the events behind it. -/
theorem Adds.calls_eq {calls : List ShapeCall} (h : Adds r₁ r₂ calls) :
    (r₂.events.drop r₁.events.length).filterMap Event.call? = calls := by
  obtain ⟨events, later, rfl⟩ := h
  rw [later, List.drop_left]

variable (S : Surface Board) (policy : Policy) (finality : Finality)

theorem events_draw (call : ShapeCall) (r : Recorded Board) :
    (S.recorded.draw call r).2.events =
      r.events ++ Event.creation call (S.recorded.draw call r).1 := by
  simp [Surface.draw, Surface.recorded, Event.creation]

theorem adds_draw (call : ShapeCall) (r : Recorded Board) :
    Adds r (S.recorded.draw call r).2 [call] := ⟨_, events_draw S call r, rfl⟩

theorem adds_lookUp (ids : Bindings) (ref : Option ShapeRef) (r : Recorded Board) :
    Adds r (S.recorded.lookUp ids ref r).2 [] := by
  unfold Surface.lookUp
  split
  · exact .refl r
  · split
    · exact .refl r
    · exact ⟨[.contains _ _], rfl, rfl⟩

theorem adds_drawShapes (specs : List ShapeSpec) (ids : Bindings) (r : Recorded Board) :
    Adds r (S.recorded.drawShapes specs ids r).2.2 (S.recorded.drawShapes specs ids r).1.calls := by
  induction specs generalizing ids r with
  | nil => exact .refl r
  | cons spec specs ih => exact (adds_draw S ⟨spec, none, none⟩ r).trans (ih _ _)

theorem adds_drawArrow (ids : Bindings) (spec : ShapeSpec) (r : Recorded Board) :
    Adds r (S.recorded.drawArrow policy finality ids spec r).2
      (S.recorded.drawArrow policy finality ids spec r).1.call?.toList := by
  -- looking the ends up records calls too, but no creation
  have looked := (adds_lookUp S ids spec.source r).trans
    (adds_lookUp S ids spec.target (S.recorded.lookUp ids spec.source r).2)
  rw [Surface.drawArrow_eq, Surface.drawArrowBetween_eq]
  split
  · exact looked.trans (adds_draw S _ _)
  · exact looked
  · exact looked

theorem adds_drawArrows (ids : Bindings) (specs : List ShapeSpec) (r : Recorded Board) :
    Adds r (S.recorded.drawArrows policy finality ids specs r).2
      (S.recorded.drawArrows policy finality ids specs r).1.calls := by
  induction specs generalizing r with
  | nil => exact .refl r
  | cons spec specs ih =>
    have both := (adds_drawArrow S policy finality ids spec r).trans (ih _)
    rw [Surface.drawArrows]
    cases fate : (S.recorded.drawArrow policy finality ids spec r).1 <;>
      simpa [fate, Fates.calls, List.filterMap_cons, Fate.call?] using both

/-- The creation calls that were recorded for a batch are those that its fates tell. -/
theorem adds_drawBatch (batch : Batch) (ids : Bindings) (r : Recorded Board) :
    Adds r (S.recorded.drawBatch policy finality batch ids r).2.2
      (S.recorded.drawBatch policy finality batch ids r).1.calls := by
  rw [Surface.drawBatch_eq, Fates.calls_append]
  exact (adds_drawShapes S batch.shapes ids r).trans (adds_drawArrows S policy finality _ _ _)

end Recorded

end Whiteboard
