import Whiteboard.Proofs.Divergence
import Whiteboard.Surface.Memory

/-!
# Only drawable calls

Validation lets an arrow pass that has references at both ends and no literal place to point at.
Such an arrow can be drawn only if its head is bound. It may wait for that, over many snapshots, and
is dropped at the end rather than handed to the surface unbound. So whatever is asked of a session,
the surface is never asked for a shape that it could not place.

A command that breaks a rule is logged and told, and that is all: what the surface is asked depends
on nothing but the specifications of the commands that break none.

## Main definitions

* `ShapeCall.IsDrawable` — a call that lacks nothing
* `ShapeSpec.IsComplete` — what validation makes sure of
* `Order`, `Request.orders` — what requests ask to be drawn
* `Session.DrawsLike` — two sessions that will draw alike

## Main results

* `Command.isComplete_of_validate` — an accepted specification is complete
* `Surface.isDrawable_of_mem_calls` — the surface is asked for what it can draw
* `Session.calls_handleAll` — every call of a run is drawable, and for an accepted command
* `Session.DrawsLike.handleAll` — the same orders are drawn alike
* `Session.only_drawable_calls` — all of this about whatever a session is asked
-/

namespace Whiteboard

/-- A call that lacks nothing: a rectangle or an ellipse has a size, an arrow has something to point
at, and nothing but an arrow is bound to other shapes. -/
structure ShapeCall.IsDrawable (call : ShapeCall) : Prop where
  size : call.spec.kind = .rectangle ∨ call.spec.kind = .ellipse →
    call.spec.width.isSome ∧ call.spec.height.isSome
  head : call.spec.kind = .arrow →
    call.head.isSome ∨ call.spec.endX.isSome ∧ call.spec.endY.isSome
  unbound : call.spec.kind ≠ .arrow → call.tail = none ∧ call.head = none

/-- What validation makes sure of. An arrow with two references may have no place to point at. -/
structure ShapeSpec.IsComplete (spec : ShapeSpec) : Prop where
  size : spec.kind = .rectangle ∨ spec.kind = .ellipse → spec.width.isSome ∧ spec.height.isSome
  arrowEnd : spec.kind = .arrow →
    spec.endX.isSome ∧ spec.endY.isSome ∨ spec.source.isSome ∧ spec.target.isSome

namespace ShapeSpec

theorem isArrow_iff {spec : ShapeSpec} : spec.isArrow = true ↔ spec.kind = .arrow := by
  simp [isArrow]

theorem isSome_endPoint?_iff {spec : ShapeSpec} :
    spec.endPoint?.isSome ↔ spec.endX.isSome ∧ spec.endY.isSome := by
  unfold endPoint?
  cases spec.endX <;> cases spec.endY <;> simp

end ShapeSpec

/-! ### Accepted commands -/

theorem ShapeKind.needsSize_iff {kind : ShapeKind} :
    kind.needsSize = true ↔ kind = .rectangle ∨ kind = .ellipse := by
  cases kind <;> simp [needsSize]

namespace Command

theorem isSome_coordinate? (c : Command) (key : Key) :
    (c.coordinate? key).isSome = (c.number? key).isSome := Option.isSome_map

/-- An accepted specification is complete. -/
theorem isComplete_of_validate {c : Command} {spec : ShapeSpec} (h : c.validate = .ok spec) :
    spec.IsComplete := by
  unfold validate at h
  split at h
  case h_1 => cases h
  case h_2 kind x y named atX atY =>
    dsimp only at h
    split at h
    case isTrue => cases h
    case isFalse sized =>
      split at h
      case isTrue => cases h
      case isFalse ended =>
        cases h
        -- neither of the two rules about sizes and ends is broken
        refine ⟨fun isSized => ?_, fun (isArrow : kind = .arrow) => ?_⟩
        · simpa [ShapeKind.needsSize_iff.mpr isSized, Option.isSome_iff_ne_none] using sized
        · have ends : c.hasArrowEnd = true := by simpa [isArrow] using ended
          simpa [hasArrowEnd, isSome_coordinate?] using ends
  case h_3 => cases h

theorem mem_specs_iff {commands : List Command} {spec : ShapeSpec} :
    spec ∈ specs commands ↔ ∃ c ∈ commands, c.validate = .ok spec := by
  rw [specs, List.mem_filterMap]
  refine exists_congr fun c => and_congr_right fun _ => ?_
  unfold spec?
  cases c.validate <;> simp

theorem isComplete_of_mem_specs {commands : List Command} {spec : ShapeSpec}
    (h : spec ∈ specs commands) : spec.IsComplete := by
  obtain ⟨c, -, accepted⟩ := mem_specs_iff.mp h
  exact isComplete_of_validate accepted

theorem shapes_subset {a b : List Command} (h : a ⊆ b) : shapes a ⊆ shapes b :=
  List.filter_subset _ (List.filterMap_subset _ h)

theorem arrows_subset {a b : List Command} (h : a ⊆ b) : arrows a ⊆ arrows b :=
  List.filter_subset _ (List.filterMap_subset _ h)

end Command

/-! ### Calls for a batch -/

/-- An arrow that is drawn though its head dangles has a literal place to point at. -/
theorem Endpoint.isSome_endPoint?_of_verdict {policy : Policy} {finality : Finality}
    {spec : ShapeSpec} {tail head : Endpoint} {r : ShapeRef}
    (draw : verdict policy finality spec tail head = .draw) (dangles : head = .missing r) :
    spec.endPoint?.isSome := by
  subst dangles
  have dangling : (Endpoint.dangling tail (.missing r)).isEmpty = false := by
    simp [Endpoint.dangling, missing?]
  unfold verdict at draw
  rw [dangling] at draw
  cases finality with
  | more => cases draw
  | last =>
    cases policy with
    | skip => cases draw
    | unbind =>
      cases place : spec.endPoint? with
      | none => simp [missing?, place] at draw
      | some _ => rfl

namespace Surface

variable {Board : Type} (S : Surface Board) (policy : Policy) (finality : Finality)

/-- Only an end without a reference is free. -/
theorem lookUp_ne_free (ids : Bindings) {ref : Option ShapeRef} (h : ref.isSome) (board : Board) :
    (S.lookUp ids ref board).1 ≠ .free := by
  obtain ⟨r, rfl⟩ := Option.isSome_iff_exists.mp h
  unfold lookUp
  dsimp only
  split
  · simp
  · dsimp only
    split <;> simp

/-- An arrow is handed to the surface only with something to point at. -/
theorem isDrawable_of_call?_drawArrow {ids : Bindings} {spec : ShapeSpec} {board : Board}
    {call : ShapeCall} (complete : spec.IsComplete) (arrow : spec.kind = .arrow)
    (h : (S.drawArrow policy finality ids spec board).1.call? = some call) :
    call.IsDrawable := by
  rw [drawArrow_eq, drawArrowBetween_eq] at h
  split at h
  case h_1 draw =>
    cases h
    refine ⟨fun sized => complete.size sized, fun _ => ?_, fun other => absurd arrow other⟩
    rcases complete.arrowEnd arrow with literal | ⟨-, referred⟩
    · exact .inr literal
    · -- a head with a reference is bound, unless it dangles
      have notFree := S.lookUp_ne_free ids referred (S.lookUp ids spec.source board).2
      cases head : (S.lookUp ids spec.target (S.lookUp ids spec.source board).2).1 with
      | bound id => exact .inl rfl
      | free => exact absurd head notFree
      | missing r =>
        have place := Endpoint.isSome_endPoint?_of_verdict draw head
        exact .inr (ShapeSpec.isSome_endPoint?_iff.mp place)
  case h_2 => cases h
  case h_3 => cases h

/-- A call for a batch is for a shape, unbound, or is what the drawing of an arrow came to. -/
theorem eq_or_drawArrow_of_mem_calls {batch : Batch} {ids : Bindings} {board : Board}
    {call : ShapeCall} (h : call ∈ (S.drawBatch policy finality batch ids board).1.calls) :
    (∃ spec ∈ batch.shapes, call = ⟨spec, none, none⟩) ∨
      ∃ spec ∈ batch.arrows, ∃ ids board,
        (S.drawArrow policy finality ids spec board).1.call? = some call := by
  rw [drawBatch_eq, Fates.calls_append, calls_drawShapes] at h
  rcases List.mem_append.mp h with h | h
  · obtain ⟨spec, mem, rfl⟩ := List.mem_map.mp h
    exact .inl ⟨spec, mem, rfl⟩
  · obtain ⟨fate, among, called⟩ := List.mem_filterMap.mp h
    obtain ⟨spec, mem, board, rfl⟩ := S.eq_drawArrow_of_mem_drawArrows policy finality among
    exact .inr ⟨spec, mem, _, board, called⟩

/-- What the surface is asked for stands in the batch. -/
theorem spec_mem_of_mem_calls {batch : Batch} {ids : Bindings} {board : Board} {call : ShapeCall}
    (h : call ∈ (S.drawBatch policy finality batch ids board).1.calls) :
    call.spec ∈ batch.shapes ++ batch.arrows := by
  rcases S.eq_or_drawArrow_of_mem_calls policy finality h with
    ⟨spec, mem, rfl⟩ | ⟨spec, mem, ids, board, called⟩
  · exact List.mem_append_left _ mem
  · rw [← Fate.spec_of_call? called, spec_drawArrow]
    exact List.mem_append_right _ mem

/-- The surface is asked for what it can draw, if all of the batch is complete. -/
theorem isDrawable_of_mem_calls {batch : Batch} {ids : Bindings} {board : Board} {call : ShapeCall}
    (sorted : batch.IsSorted) (complete : ∀ spec ∈ batch.shapes ++ batch.arrows, spec.IsComplete)
    (h : call ∈ (S.drawBatch policy finality batch ids board).1.calls) : call.IsDrawable := by
  rcases S.eq_or_drawArrow_of_mem_calls policy finality h with
    ⟨spec, mem, rfl⟩ | ⟨spec, mem, ids, board, called⟩
  · have noArrow : spec.kind ≠ .arrow := by simpa [ShapeSpec.isArrow] using sorted.shapes spec mem
    exact ⟨(complete spec (List.mem_append_left _ mem)).size, fun arrow => absurd arrow noArrow,
      fun _ => ⟨rfl, rfl⟩⟩
  · exact S.isDrawable_of_call?_drawArrow policy finality
      (complete spec (List.mem_append_right _ mem))
      (ShapeSpec.isArrow_iff.mp (sorted.arrows spec mem)) called

end Surface

/-! ### Calls of a run -/

/-- The commands of the text that a request brings. -/
def Request.commands (m : Markers) : Request → List Command
  | .submit text | .finish text => (m.parse text).commands
  | .reset => []

namespace Session

variable {Board : Type} (S : Surface Board)

section Run

variable {s : Session} {commands : List Command}

/-- What is drawn for a snapshot are shapes and arrows that accepted commands ask for, be they new
or arrows that have waited. -/
theorem batch_subset (waits : s.pending ⊆ Command.arrows commands) {text : Text}
    (given : (s.config.markers.parse text).commands ⊆ commands) :
    (s.batch text).shapes ⊆ Command.shapes commands ∧
      (s.batch text).arrows ⊆ Command.arrows commands := by
  have fresh : s.fresh text ⊆ commands := List.Subset.trans (List.drop_subset _ _) given
  exact ⟨Command.shapes_subset fresh,
    List.append_subset.mpr ⟨waits, Command.arrows_subset fresh⟩⟩

/-- One snapshot asks for nothing that cannot be drawn, and for nothing but what accepted commands
ask for. -/
theorem calls_process (waits : s.pending ⊆ Command.arrows commands) (finality : Finality)
    {text : Text} (given : (s.config.markers.parse text).commands ⊆ commands) (board : Board) :
    (∀ call ∈ (s.process S finality text board).1.fates.calls,
        call.IsDrawable ∧ call.spec ∈ Command.specs commands) ∧
      (s.process S finality text board).2.1.pending ⊆ Command.arrows commands := by
  obtain ⟨shapes, arrows⟩ := batch_subset waits given
  have sorted : (s.batch text).IsSorted :=
    isSorted_batch (fun spec mem => Command.isArrow_of_mem_arrows (waits mem)) text
  have accepted : ∀ spec ∈ (s.batch text).shapes ++ (s.batch text).arrows,
      spec ∈ Command.specs commands := by
    intro spec mem
    rcases List.mem_append.mp mem with mem | mem
    · exact (List.mem_filter.mp (shapes mem)).1
    · exact (List.mem_filter.mp (arrows mem)).1
  refine ⟨fun call mem => ⟨?_, ?_⟩, fun spec mem => ?_⟩
  · exact S.isDrawable_of_mem_calls s.config.policy finality sorted
      (fun spec mem => Command.isComplete_of_mem_specs (accepted spec mem)) mem
  · exact accepted _ (S.spec_mem_of_mem_calls s.config.policy finality mem)
  · -- what waits behind a batch are some of its arrows
    have waiting := S.deferred_drawBatch_sublist s.config.policy finality (s.batch text) s.ids board
    exact arrows (waiting.subset mem)

/-- Every call of a run is drawable and for an accepted command, whatever has waited before. -/
theorem calls_handleAll (waits : s.pending ⊆ Command.arrows commands) {requests : List Request}
    (given : ∀ request ∈ requests, request.commands s.config.markers ⊆ commands) (board : Board) :
    ∀ call ∈ calls (s.handleAll S requests board).1,
      call.IsDrawable ∧ call.spec ∈ Command.specs commands := by
  induction requests generalizing s board with
  | nil => simp [handleAll, calls]
  | cons request requests ih =>
    have later : ∀ request' ∈ requests,
        request'.commands (s.handle S request board).2.1.config.markers ⊆ commands := by
      rw [config_handle]
      exact fun request' mem => given request' (List.mem_cons_of_mem _ mem)
    have now := given request List.mem_cons_self
    rw [handleAll_cons]
    simp only [calls_append, List.forall_mem_append]
    cases request with
    | submit text =>
      have first := calls_process S waits .more now board
      exact ⟨by simpa [calls] using first.1, ih first.2 later _⟩
    | finish text =>
      have first := calls_process S waits .last now board
      exact ⟨by simpa [calls] using first.1, ih first.2 later _⟩
    | reset => exact ⟨by simp [calls], ih (List.nil_subset _) later _⟩

end Run

end Session

/-! ### What a run depends on -/

/-- What a request asks to be drawn. -/
inductive Order
  /-- The specifications of the new commands that break no rule. -/
  | draw (finality : Finality) (specs : List ShapeSpec)
  /-- To forget everything. -/
  | forget
  deriving DecidableEq

namespace Request

/-- What a request asks to be drawn, if this is known of the stream. Commands that break a rule have
no part in it. -/
def order (m : Markers) (known : List Command) : Request → Order
  | .submit text =>
    let commands := (m.parse text).commands
    .draw .more (Command.specs (commands.drop (commonPrefix known commands)))
  | .finish text =>
    let commands := (m.parse text).commands
    .draw .last (Command.specs (commands.drop (commonPrefix known commands)))
  | .reset => .forget

/-- What a list of requests asks to be drawn, one by one. -/
def orders (m : Markers) (known : List Command) : List Request → List Order
  | [] => []
  | request :: requests =>
    request.order m known :: orders m (request.knownAfter m known) requests

end Request

namespace Session

variable {Board : Type} (S : Surface Board)

/-- Two sessions that will draw alike, though they may have logged different commands. -/
structure DrawsLike (s s' : Session) : Prop where
  policy : s.config.policy = s'.config.policy
  pending : s.pending = s'.pending
  ids : s.ids = s'.ids

namespace DrawsLike

variable {s s' : Session}

/-- Snapshots with the same new specifications are drawn alike. -/
theorem process (like : s.DrawsLike s') {text text' : Text}
    (same : Command.specs (s.fresh text) = Command.specs (s'.fresh text')) (finality : Finality)
    (board : Board) :
    (s.process S finality text board).2.2 = (s'.process S finality text' board).2.2 ∧
      (s.process S finality text board).2.1.DrawsLike (s'.process S finality text' board).2.1 := by
  have batch : s.batch text = s'.batch text' := by
    simp only [Session.batch, Command.shapes, Command.arrows, same, like.pending]
  rw [process_eq, process_eq]
  rw [batch, like.policy, like.ids]
  exact ⟨rfl, like.policy, rfl, rfl⟩

/-- The same order is drawn alike. -/
theorem handle (like : s.DrawsLike s') {request request' : Request}
    (same : request.order s.config.markers s.stream.commands =
      request'.order s'.config.markers s'.stream.commands) (board : Board) :
    (s.handle S request board).2.2 = (s'.handle S request' board).2.2 ∧
      (s.handle S request board).2.1.DrawsLike (s'.handle S request' board).2.1 := by
  cases request with
  | submit text =>
    cases request' with
    | submit text' => exact like.process S (Order.draw.inj same).2 .more board
    | finish text' => cases (Order.draw.inj same).1
    | reset => cases same
  | finish text =>
    cases request' with
    | submit text' => cases (Order.draw.inj same).1
    | finish text' => exact like.process S (Order.draw.inj same).2 .last board
    | reset => cases same
  | reset =>
    cases request' with
    | submit text' => cases same
    | finish text' => cases same
    | reset => exact ⟨rfl, like.policy, rfl, rfl⟩

/-- The same orders are drawn alike. -/
theorem handleAll (like : s.DrawsLike s') {requests requests' : List Request}
    (same : Request.orders s.config.markers s.stream.commands requests =
      Request.orders s'.config.markers s'.stream.commands requests') (board : Board) :
    (s.handleAll S requests board).2.2 = (s'.handleAll S requests' board).2.2 := by
  induction requests generalizing s s' requests' board with
  | nil =>
    cases requests' with
    | nil => rfl
    | cons request' requests' => cases same
  | cons request requests ih =>
    cases requests' with
    | nil => cases same
    | cons request' requests' =>
      obtain ⟨first, rest⟩ := List.cons.inj same
      obtain ⟨drawn, alike⟩ := like.handle S first board
      rw [handleAll_cons, handleAll_cons]
      dsimp only
      rw [drawn]
      apply ih alike
      rw [known_handle, known_handle, config_handle, config_handle]
      exact rest

end DrawsLike

/-- **Only drawable calls.** Whatever a session is asked, and whatever the surface answers, every
shape that the surface is asked to create can be drawn, and is asked for by a command of one of the
texts that breaks no rule. A command that breaks one has no effect on the surface, neither at once
nor later: requests whose new commands differ in such commands only ask the same of it. -/
theorem only_drawable_calls (config : Config) (requests : List Request) (board : Board) :
    let asked := (handleAll S.recorded { config } requests ⟨board, []⟩).2.2.events
    (∀ call ∈ asked.filterMap Event.call?,
      call.IsDrawable ∧
      ∃ request ∈ requests, ∃ command ∈ request.commands config.markers,
        command.validate = .ok call.spec) ∧
    ∀ (config' : Config) (requests' : List Request), config'.policy = config.policy →
      Request.orders config'.markers [] requests' = Request.orders config.markers [] requests →
      (handleAll S.recorded { config := config' } requests' ⟨board, []⟩).2.2.events = asked := by
  intro asked
  refine ⟨fun call mem => ?_, fun config' requests' policy same => ?_⟩
  · -- what was recorded are the calls that the reports tell
    have told : asked.filterMap Event.call? =
        calls (handleAll S.recorded { config } requests ⟨board, []⟩).1 :=
      (adds_handleAll S requests ⟨board, []⟩).calls_eq
    rw [told] at mem
    have waits : ({ config } : Session).pending ⊆
        Command.arrows (requests.flatMap (Request.commands config.markers)) := List.nil_subset _
    have given : ∀ request ∈ requests, request.commands config.markers ⊆
        requests.flatMap (Request.commands config.markers) := fun request among command brought =>
      List.mem_flatMap.mpr ⟨request, among, brought⟩
    obtain ⟨drawable, accepted⟩ := calls_handleAll S.recorded waits given _ call mem
    obtain ⟨command, brought, valid⟩ := Command.mem_specs_iff.mp accepted
    obtain ⟨request, among, brought⟩ := List.mem_flatMap.mp brought
    exact ⟨drawable, request, among, command, brought, valid⟩
  · have like : DrawsLike { config := config' } { config } := ⟨policy, rfl, rfl⟩
    rw [like.handleAll S.recorded same]

/-- Two circles. -/
def circles : Text :=
  "action:create shape:circle x:0 y:0; action:create shape:circle x:1 y:1; ".toList

/-- Two circles, and between them a square that has no place. -/
def circlesAndSquare : Text :=
  "action:create shape:circle x:0 y:0; action:create shape:square; ".toList ++ circles.drop 36

/-- The square is rejected, and the surface is asked what it is asked without it. -/
theorem only_drawable_calls_square :
    let S := (Memory.surface SurfaceId.mk).recorded
    let withSquare : List Request :=
      [.submit (circlesAndSquare.take 64), .finish circlesAndSquare]
    let without : List Request := [.submit (circles.take 36), .finish circles]
    Request.orders {} [] withSquare = Request.orders {} [] without ∧
      (handleAll S {} withSquare ⟨{}, []⟩).2.2.events =
        (handleAll S {} without ⟨{}, []⟩).2.2.events := by
  intro S withSquare without
  have same : Request.orders {} [] withSquare = Request.orders {} [] without := by decide +kernel
  exact ⟨same, (only_drawable_calls (Memory.surface SurfaceId.mk) {} without {}).2 {} _ rfl same⟩

end Session

end Whiteboard
