import Whiteboard.Proofs.Drawable
import Whiteboard.Proofs.Transcript

/-!
# What becomes of every arrow

Each arrow of a batch meets one fate. Which one it is depends on the ends that are missing, on
whether more text may come, and on the policy; what is told about the arrow depends on nothing else
but the answer of the surface. So the shapes and arrows of a batch are counted by what was created,
what waits, what the surface refused and what was dropped.
-/

namespace Whiteboard

/-! ### Missing ends -/

/-- The reference at an end of an arrow, if the end is missing: the reference is unbound, or means a
shape that the surface does not hold. -/
def Bindings.missing? (ids : Bindings) (ref : Option ShapeRef) (held : Bool) : Option ShapeRef :=
  ref.filter fun r => (ids.resolve? r).isNone || !held

theorem Bindings.missing?_endpointOf (ids : Bindings) (ref : Option ShapeRef) (held : Bool) :
    (ids.endpointOf ref held).missing? = ids.missing? ref held := by
  cases ref with
  | none => rfl
  | some r =>
    cases found : ids.resolve? r with
    | none => simp [endpointOf, Bindings.missing?, found, Endpoint.missing?, Option.filter_some]
    | some id =>
      cases held <;>
        simp [endpointOf, Bindings.missing?, found, Endpoint.missing?, Option.filter_some]

namespace Turn

/-- The missing ends of an arrow, the tail first. -/
def missing (ids : Bindings) (turn : Turn) : List Dangling :=
  ((ids.missing? turn.spec.source turn.tailHeld).map (⟨.tail, ·⟩)).toList ++
    ((ids.missing? turn.spec.target turn.headHeld).map (⟨.head, ·⟩)).toList

/-- An arrow that is not to be drawn without its missing ends: the policy does not want it, or its
head is missing and has no literal place. -/
def IsUnwanted (policy : Policy) (ids : Bindings) (turn : Turn) : Prop :=
  policy = .skip ∨
    (∃ d ∈ turn.missing ids, d.arrowEnd = .head) ∧
      ¬ (turn.spec.endX.isSome ∧ turn.spec.endY.isSome)

variable {policy : Policy} {finality : Finality} {ids : Bindings} {turn : Turn}

/-- An end is missing exactly if it was found to dangle. -/
theorem dangling_eq_missing :
    Endpoint.dangling (turn.tail ids) (turn.head ids) = turn.missing ids := by
  rw [Endpoint.dangling, tail, head, Bindings.missing?_endpointOf, Bindings.missing?_endpointOf]
  rfl

theorem isSome_missing?_head :
    (turn.head ids).missing?.isSome = true ↔ ∃ d ∈ turn.missing ids, d.arrowEnd = .head := by
  rw [head, Bindings.missing?_endpointOf, missing]
  cases ids.missing? turn.spec.source turn.tailHeld <;>
    cases ids.missing? turn.spec.target turn.headHeld <;> simp

/-! ### The verdict, by what is missing -/

theorem verdict_of_complete (complete : turn.missing ids = []) :
    turn.verdict policy finality ids = .draw := by
  simp [verdict, Endpoint.verdict, dangling_eq_missing, complete]

theorem verdict_more (lacks : turn.missing ids ≠ []) : turn.verdict policy .more ids = .defer := by
  simp [verdict, Endpoint.verdict, dangling_eq_missing, lacks]

/-- Behind the last text an arrow with missing ends is dropped if it is unwanted, and drawn without
them if not. -/
theorem verdict_last (lacks : turn.missing ids ≠ []) [Decidable (turn.IsUnwanted policy ids)] :
    turn.verdict policy .last ids = if turn.IsUnwanted policy ids then .skip else .draw := by
  cases policy with
  | skip => simp [verdict, Endpoint.verdict, dangling_eq_missing, lacks, IsUnwanted]
  | unbind =>
    have unplaced : ((turn.head ids).missing?.isSome && turn.spec.endPoint?.isNone) = true ↔
        turn.IsUnwanted .unbind ids := by
      rw [Bool.and_eq_true, isSome_missing?_head, ← Option.not_isSome, Bool.not_eq_true',
        ← Bool.not_eq_true, ShapeSpec.isSome_endPoint?_iff]
      simp [IsUnwanted]
    simp [verdict, Endpoint.verdict, dangling_eq_missing, lacks, unplaced]

end Turn

/-! ### What is told -/

/-- What the refusal of a creation adds to the diagnostics: one, if there was a refusal. -/
def Answer.refusal : Answer → List Diagnostic
  | .created _ => []
  | .failed error => [.surface error]

/-- What one shape or arrow adds to the report on a batch. -/
structure Share where
  created : Option Created
  deferred : Option ShapeSpec
  skipped : Option (ShapeSpec × List Dangling)
  diagnostics : List Diagnostic

/-- What is read off a fate. -/
def Fate.share (fate : Fate) : Share where
  created := fate.created?
  deferred := fate.deferred?
  skipped := fate.skipped?
  diagnostics := fate.diagnostics

/-- The share of a call: what the surface created, or its refusal behind what was told before. -/
def Share.ofCall (told : List Diagnostic) (call : ShapeCall) (answer : Answer) : Share where
  created := answer.id?.map (⟨·, call⟩)
  deferred := none
  skipped := none
  diagnostics := told ++ answer.refusal

theorem Fate.share_drawn (call : ShapeCall) (dangling : List Dangling) (answer : Answer) :
    (Fate.drawn call dangling answer).share = .ofCall (tell .unbound dangling) call answer := by
  cases answer with
  | created id =>
    unfold share Share.ofCall Answer.refusal
    rw [List.append_nil]
    rfl
  | failed error => rfl

/-- The shape that a creation is bound to at an end. -/
def Made.boundAt (made : Made) : ArrowEnd → Option SurfaceId
  | .tail => made.tail
  | .head => made.head

/-- The fate of an arrow. Without a missing end it is handed to the surface. With one it waits while
more text may come, and nothing is told. Behind the last text it is dropped if it is unwanted, and
otherwise handed to the surface with its missing ends unbound; either is told about each of them.
Whenever it is handed over, it is bound as the surface answered. -/
structure Turn.Meets (policy : Policy) (finality : Finality) (ids : Bindings) (turn : Turn)
    (fate : Fate) : Prop where
  binds : ∀ made ∈ turn.made, turn.Binds ids made
  handed : turn.missing ids = [] →
    ∃ made, turn.made = some made ∧
      fate.share = .ofCall [] ⟨turn.spec, made.tail, made.head⟩ made.answer
  waits : turn.missing ids ≠ [] → finality = .more →
    turn.made = none ∧ fate.share = ⟨none, some turn.spec, none, []⟩
  dropped : turn.missing ids ≠ [] → finality = .last → turn.IsUnwanted policy ids →
    turn.made = none ∧
      fate.share = ⟨none, none, some (turn.spec, turn.missing ids),
        (turn.missing ids).map fun d => .unresolved d.ref d.arrowEnd .skipped⟩
  unbound : turn.missing ids ≠ [] → finality = .last → ¬ turn.IsUnwanted policy ids →
    ∃ made, turn.made = some made ∧ (∀ d ∈ turn.missing ids, made.boundAt d.arrowEnd = none) ∧
      fate.share = .ofCall
        ((turn.missing ids).map fun d => .unresolved d.ref d.arrowEnd .unbound)
        ⟨turn.spec, made.tail, made.head⟩ made.answer

namespace Turn

variable {policy : Policy} {finality : Finality} {ids : Bindings} {turn : Turn} {fate : Fate}

/-- A creation is unbound at every missing end. -/
theorem Binds.boundAt_eq_none {made : Made} (bound : turn.Binds ids made) {d : Dangling}
    (h : d ∈ turn.missing ids) : made.boundAt d.arrowEnd = none := by
  -- a reference is missing because it means nothing or the surface does not hold what it means
  have apart : ∀ {ref : Option ShapeRef} {held : Bool} {r r' : ShapeRef} {id : SurfaceId},
      ids.missing? ref held = some r →
        ¬ (ref = some r' ∧ ids.resolve? r' = some id ∧ held = true) := by
    rintro ref held r r' id missing ⟨rfl, found, rfl⟩
    simp [Bindings.missing?, found, Option.filter_some] at missing
  rw [Option.eq_none_iff_forall_ne_some]
  intro id same
  rcases List.mem_append.mp h with h | h
  · obtain ⟨r, missing, rfl⟩ := Option.map_eq_some_iff.mp (Option.mem_toList.mp h)
    obtain ⟨r', there⟩ := (bound.tail id).mp same
    exact apart missing there
  · obtain ⟨r, missing, rfl⟩ := Option.map_eq_some_iff.mp (Option.mem_toList.mp h)
    obtain ⟨r', there⟩ := (bound.head id).mp same
    exact apart missing there

/-- Every turn of an arrow meets its fate. -/
theorem ComesTo.meets (h : turn.ComesTo policy finality ids fate)
    (bound : ∀ made ∈ turn.made, turn.Binds ids made) : turn.Meets policy finality ids fate := by
  classical
  rw [ComesTo, dangling_eq_missing] at h
  constructor
  case binds => exact bound
  case handed =>
    intro complete
    rw [verdict_of_complete complete] at h
    obtain ⟨made, same, rfl⟩ := h
    rw [complete]
    exact ⟨made, same, Fate.share_drawn _ _ _⟩
  case waits =>
    rintro lacks rfl
    rw [verdict_more lacks] at h
    obtain ⟨same, rfl⟩ := h
    exact ⟨same, rfl⟩
  case dropped =>
    rintro lacks rfl unwanted
    rw [verdict_last lacks, if_pos unwanted] at h
    obtain ⟨same, rfl⟩ := h
    exact ⟨same, rfl⟩
  case unbound =>
    rintro lacks rfl wanted
    rw [verdict_last lacks, if_neg wanted] at h
    obtain ⟨made, same, rfl⟩ := h
    exact ⟨made, same, fun d hd => (bound made same).boundAt_eq_none hd, Fate.share_drawn _ _ _⟩

end Turn

/-! ### Counts -/

/-- Whether the surface refused a creation. -/
def Diagnostic.isSurface : Diagnostic → Bool
  | .surface _ => true
  | _ => false

/-- What is told about dangling ends is no refusal. -/
theorem Fate.countP_isSurface_tell (resolution : Resolution) (dangling : List Dangling) :
    (tell resolution dangling).countP Diagnostic.isSurface = 0 := by
  rw [List.countP_eq_zero]
  intro d hd
  obtain ⟨_, -, rfl⟩ := List.mem_map.mp hd
  exact Bool.false_ne_true

/-- A fate counts once: as created, as waiting, as refused or as dropped. -/
theorem Fate.counts_once (fate : Fate) :
    fate.created?.toList.length + fate.deferred?.toList.length +
      fate.diagnostics.countP Diagnostic.isSurface + fate.skipped?.toList.length = 1 := by
  cases fate with
  | drawn call dangling answer =>
    cases answer with
    | created id =>
      have quiet := countP_isSurface_tell .unbound dangling
      simp [created?, deferred?, skipped?, diagnostics, quiet]
    | failed error =>
      have quiet := countP_isSurface_tell .unbound dangling
      simp [created?, deferred?, skipped?, diagnostics, quiet, Diagnostic.isSurface]
  | skipped spec dangling =>
    have quiet := countP_isSurface_tell .skipped dangling
    simp [created?, deferred?, skipped?, diagnostics, quiet]
  | deferred spec => simp [created?, deferred?, skipped?, diagnostics]

namespace Fates

/-- Every fate is counted once in what is told about a batch. -/
theorem length_eq (fates : Fates) :
    fates.length = fates.created.length + fates.deferred.length +
      fates.diagnostics.countP Diagnostic.isSurface + fates.skipped.length := by
  induction fates with
  | nil => rfl
  | cons fate fates ih =>
    have once := fate.counts_once
    rw [List.length_cons, ih, created_cons, deferred_cons, diagnostics_cons, skipped_cons]
    simp only [List.length_append, List.countP_append]
    omega

/-- What was created are some of the specifications, in order. -/
theorem created_sublist (fates : Fates) :
    (fates.created.map fun c => c.call.spec).Sublist (fates.map Fate.spec) := by
  induction fates with
  | nil => exact .slnil
  | cons fate fates ih =>
    cases fate with
    | drawn call dangling answer =>
      cases answer with
      | created id => exact ih.cons_cons call.spec
      | failed error => exact ih.cons call.spec
    | skipped spec dangling => exact ih.cons spec
    | deferred spec => exact ih.cons spec

end Fates

namespace Recorded

variable {Board : Type} (S : Surface Board) (policy : Policy) (finality : Finality)

/-- **Every arrow of a batch meets one fate.** Whatever the surface answers, each shape of a batch
is handed to it, and each arrow meets the fate that its missing ends, the policy and the finality
ask for, with what is told about it. So the shapes and arrows are counted by what was created, what
waits, the refusals of the surface and the arrows dropped. What was created and what waits keep the
order of the batch, and behind the last text nothing waits. -/
theorem exactly_one_fate (batch : Batch) (ids : Bindings) (r : Recorded Board) :
    ∃ (t : Transcript) (shapes arrows : Fates),
      let fates := (S.recorded.drawBatch policy finality batch ids r).1
      t.IsOf batch ∧
      (S.recorded.drawBatch policy finality batch ids r).2.2.events = r.events ++ t.events ids ∧
      fates = shapes ++ arrows ∧
      List.Forall₂
        (fun shape (fate : Fate) => fate.share = .ofCall [] ⟨shape.1, none, none⟩ shape.2)
        t.shapes shapes ∧
      List.Forall₂ (Turn.Meets policy finality (t.bindings ids)) t.turns arrows ∧
      batch.shapes.length + batch.arrows.length =
        fates.created.length + fates.deferred.length +
          fates.diagnostics.countP Diagnostic.isSurface + fates.skipped.length ∧
      (fates.created.map fun c => c.call.spec).Sublist (batch.shapes ++ batch.arrows) ∧
      fates.deferred.Sublist batch.arrows ∧
      (finality = .last → fates.deferred = []) := by
  obtain ⟨t, isOf, bound, ⟨arrows, same, fates⟩, -, recorded⟩ :=
    exists_transcript_fates S policy finality batch ids r
  have specs := S.recorded.map_spec_drawBatch policy finality batch ids r
  have counted := Fates.length_eq (S.recorded.drawBatch policy finality batch ids r).1
  rw [← List.length_map Fate.spec, specs, List.length_append] at counted
  have created := Fates.created_sublist (S.recorded.drawBatch policy finality batch ids r).1
  rw [specs] at created
  refine ⟨t, t.shapeFates, arrows, isOf, recorded, same, ?_, ?_, counted, created, ?_, ?_⟩
  · rw [Transcript.shapeFates, List.forall₂_map_right_iff, List.forall₂_same]
    exact fun shape _ => Fate.share_drawn _ _ _
  · have both := (List.forall₂_and_left t.turns arrows).mpr ⟨bound, fates⟩
    exact both.imp fun _ _ h => h.2.meets h.1
  · exact S.recorded.deferred_drawBatch_sublist policy finality batch ids r
  · rintro rfl
    exact S.recorded.deferred_drawBatch_last policy batch ids r

end Recorded

end Whiteboard
