import Whiteboard.Proofs.Divergence
import Whiteboard.Proofs.Ledger
import Whiteboard.Proofs.Transcript
import Whiteboard.Surface.Scripted

/-!
# What a name means

A session can be asked which shape a name means. Whatever was asked of it before, in any number of
streams, and whatever the surface answered, that is the newest of the shapes that carry the name and
were created since the session began anew. A shape that the surface refused gives its name to
nothing, and an arrow never takes the name that it carries.
-/

namespace Whiteboard

/-! ### What was given to a name -/

namespace Event

variable {r : ShapeRef}

/-- The id that an event gives to a name: that of a shape which carries the name, is no arrow, and
was created. -/
def named? (r : ShapeRef) : Event → Option SurfaceId
  | .create call (.created id) =>
    if call.spec.isArrow = false ∧ call.spec.ident = some r then some id else none
  | .create _ (.failed _) | .settle | .contains _ _ => none

/-- The id that events gave to a name last. -/
def newest? (r : ShapeRef) (events : List Event) : Option SurfaceId :=
  (events.filterMap (named? r)).getLast?

theorem newest?_append (a b : List Event) :
    newest? r (a ++ b) = (newest? r b).or (newest? r a) := by
  rw [newest?, List.filterMap_append, List.getLast?_append]
  rfl

/-- The creation of a shape gives it its name. -/
theorem filterMap_named?_creation {spec : ShapeSpec} (h : spec.isArrow = false) (answer : Answer) :
    (creation ⟨spec, none, none⟩ answer).filterMap (named? r) =
      (Bindings.named? r (spec, answer)).toList := by
  cases answer with
  | failed error => simp [creation, named?, Bindings.named?, Answer.id?]
  | created id =>
    by_cases carries : spec.ident = some r <;>
      simp [creation, named?, Bindings.named?, Answer.id?, h, carries]

/-- Nothing that happens while an arrow has its turn gives it a name. -/
theorem filterMap_named?_turn {turn : Turn} (h : turn.spec.isArrow = true) (ids : Bindings) :
    (turn.events ids).filterMap (named? r) = [] := by
  apply List.filterMap_eq_nil_iff.mpr
  intro event mem
  rcases List.mem_append.mp mem with asked | made
  · -- a question is no creation
    rcases List.mem_append.mp asked with asked | asked
    · obtain ⟨_, -, rfl⟩ := Option.map_eq_some_iff.mp (Option.mem_toList.mp asked)
      rfl
    · obtain ⟨_, -, rfl⟩ := Option.map_eq_some_iff.mp (Option.mem_toList.mp asked)
      rfl
  · obtain ⟨made, -, created⟩ := List.mem_flatMap.mp made
    obtain ⟨tail, head, answer⟩ := made
    rcases List.mem_pair.mp created with rfl | rfl
    · cases answer <;> simp [named?, h]
    · rfl

end Event

namespace Transcript

/-- What a batch gave to names is what its shapes gave to them, one by one. -/
theorem filterMap_named?_events {t : Transcript} {batch : Batch} (isOf : t.IsOf batch)
    (sorted : batch.IsSorted) (ids : Bindings) (r : ShapeRef) :
    (t.events ids).filterMap (Event.named? r) = t.shapes.filterMap (Bindings.named? r) := by
  have shapes : ∀ shape ∈ t.shapes,
      (Event.creation ⟨shape.1, none, none⟩ shape.2).filterMap (Event.named? r) =
        (Bindings.named? r shape).toList := fun shape mem =>
    Event.filterMap_named?_creation
      (sorted.shapes _ (isOf.shapes ▸ List.mem_map_of_mem mem)) shape.2
  have turns : ∀ turn ∈ t.turns,
      (turn.events (t.bindings ids)).filterMap (Event.named? r) = [] := fun turn mem =>
    Event.filterMap_named?_turn (sorted.arrows _ (isOf.arrows ▸ List.mem_map_of_mem mem)) _
  rw [events, List.filterMap_append, List.filterMap_flatMap, List.filterMap_flatMap,
    List.flatMap_eq_nil_iff.mpr turns, List.append_nil, List.filterMap_eq_flatMap_toList]
  exact List.flatMap_congr shapes

end Transcript

/-! ### From one moment to a later one -/

namespace Recorded

variable {Board : Type} {r r₁ r₂ r₃ : Recorded Board} {ids ids₁ ids₂ ids₃ : Bindings}

/-- From one moment to a later one, names have come to mean what they were given last, and where
they were given nothing they mean what they meant before. -/
def Renews (r r' : Recorded Board) (ids ids' : Bindings) : Prop :=
  ∃ events, r'.events = r.events ++ events ∧
    ∀ ref, ids'.resolve? ref = (Event.newest? ref events).or (ids.resolve? ref)

theorem Renews.refl (r : Recorded Board) (ids : Bindings) : r.Renews r ids ids :=
  ⟨[], (List.append_nil _).symm, fun _ => rfl⟩

theorem Renews.trans (first : r₁.Renews r₂ ids₁ ids₂) (second : r₂.Renews r₃ ids₂ ids₃) :
    r₁.Renews r₃ ids₁ ids₃ := by
  obtain ⟨events₁, later₁, means₁⟩ := first
  obtain ⟨events₂, later₂, means₂⟩ := second
  refine ⟨events₁ ++ events₂, by rw [later₂, later₁, List.append_assoc], fun ref => ?_⟩
  rw [means₂, means₁, Event.newest?_append, Option.or_assoc]

/-- What names mean that meant nothing is what was given to them since. -/
theorem Renews.resolve?_eq (renews : r₁.Renews r₂ {} ids₂) (ref : ShapeRef) :
    ids₂.resolve? ref = Event.newest? ref (r₂.events.drop r₁.events.length) := by
  obtain ⟨events, later, means⟩ := renews
  rw [later, List.drop_left, means]
  exact Option.or_none

variable (S : Surface Board) (policy : Policy) (finality : Finality)

/-- A batch gives names to its shapes, and to nothing else. -/
theorem renews_drawBatch {batch : Batch} (sorted : batch.IsSorted) (ids : Bindings)
    (r : Recorded Board) :
    r.Renews (S.recorded.drawBatch policy finality batch ids r).2.2 ids
      (S.recorded.drawBatch policy finality batch ids r).2.1 := by
  obtain ⟨t, isOf, -, known, recorded⟩ := exists_transcript S policy finality batch ids r
  refine ⟨t.events ids, recorded, fun ref => ?_⟩
  rw [known, Transcript.bindings, Bindings.resolve?_bindAnswers, Event.newest?,
    Transcript.filterMap_named?_events isOf sorted, List.getLast?_filterMap]

end Recorded

/-! ### Sessions -/

namespace Session

variable {Board : Type} (S : Surface Board) {s : Session}

theorem renews_process (waits : ∀ spec ∈ s.pending, spec.isArrow = true) (finality : Finality)
    (text : Text) (r : Recorded Board) :
    r.Renews (s.process S.recorded finality text r).2.2 s.ids
      (s.process S.recorded finality text r).2.1.ids :=
  Recorded.renews_drawBatch S s.config.policy finality (isSorted_batch waits text) s.ids r

/-- What a list of requests gives to names, if nothing is reset. -/
theorem renews_handleAll (waits : ∀ spec ∈ s.pending, spec.isArrow = true)
    {requests : List Request} (h : ∀ request ∈ requests, request ≠ .reset) (r : Recorded Board) :
    r.Renews (s.handleAll S.recorded requests r).2.2 s.ids
      (s.handleAll S.recorded requests r).2.1.ids := by
  induction requests generalizing s r with
  | nil => exact .refl r s.ids
  | cons request requests ih =>
    obtain ⟨now, later⟩ := List.forall_mem_cons.mp h
    rw [handleAll_cons]
    cases request with
    | submit text =>
      have waits' := isArrow_pending_process S.recorded .more text r waits
      exact (renews_process S waits .more text r).trans (ih waits' later _)
    | finish text =>
      have waits' := isArrow_pending_process S.recorded .last text r waits
      exact (renews_process S waits .last text r).trans (ih waits' later _)
    | reset => exact absurd rfl now

/-- A snapshot without new commands leaves what names mean. -/
theorem ids_process_of_known {text : Text} (known : s.fresh text = []) (finality : Finality)
    (board : Board) : (s.process S finality text board).2.1.ids = s.ids := by
  have noShapes : (s.batch text).shapes = [] := by
    simp [batch, known, Command.shapes, Command.specs]
  rw [process_eq, Surface.drawBatch_eq, noShapes]
  rfl

/-- **A name means the newest shape.** A session is asked for anything, in any order, and the
surface answers whatever it likes. Then a name means the shape that the surface created last, since
the last reset, among those that are no arrows and carry the name; and nothing if there is none. A
snapshot that brings nothing but commands which are known leaves every name what it means. -/
theorem name_means_newest (config : Config) (requests : List Request) (board : Board) :
    let start := handleAll S.recorded { config } (Request.untilReset requests) ⟨board, []⟩
    let run := handleAll S.recorded { config } requests ⟨board, []⟩
    let events := run.2.2.events.drop start.2.2.events.length
    (∀ r, run.2.1.ids.resolve? r = Event.newest? r events) ∧
      ∀ (finality : Finality) (text : Text),
        (config.markers.parse text).commands <+: Request.known config.markers requests →
        (run.2.1.handle S.recorded (.snapshot finality text) run.2.2).2.1.ids = run.2.1.ids := by
  intro start run events
  refine ⟨fun r => ?_, fun finality text late => ?_⟩
  · -- what came before the last reset is forgotten
    have renews := renews_handleAll S (s := { config }) (List.forall_mem_nil _)
      (Request.ne_reset_of_mem_sinceReset requests) start.2.2
    have same : run.2 = (handleAll S.recorded { config } (Request.sinceReset requests)
        start.2.2).2 :=
      congrArg (fun out => out.2) (handleAll_sinceReset S.recorded config requests ⟨board, []⟩)
    rw [← same] at renews
    exact renews.resolve?_eq r
  · have markers : run.2.1.config = config := config_handleAll S.recorded requests
    have known : run.2.1.stream.commands = Request.known config.markers requests :=
      known_handleAll S.recorded { config } requests ⟨board, []⟩
    have none : run.2.1.fresh text = [] := by
      rw [fresh, markers]
      exact Stream.fresh_of_isPrefix (known ▸ late)
    rw [handle_snapshot]
    exact ids_process_of_known S.recorded none finality run.2.2

/-- A circle, a square and an arrow of one name, drawn on both sides of a reset. -/
def oneName : Text :=
  "action:create shape:circle x:0 y:0 id:1; ".toList ++
    "action:create shape:square x:0 y:0 label:b id:1; ".toList ++
    "action:create shape:arrow x:0 y:0 endX:9 endY:9 id:1;".toList

/-- The surface that refuses the square. -/
def refusesSquare : Surface (Scripted Instant) :=
  (Instant.surface SurfaceId.mk).scripted
    (fun label => if label = "b".toList then some .reject else none) SurfaceId.mk

/-- A reset between two streams of the three shapes. -/
def oneNameTwice : List Request := [.submit oneName, .reset, .submit oneName]

/-- The arrow does not take the name, and the surface refuses the square, so the name means the
circle behind the reset. A snapshot that comes late leaves it so. -/
theorem name_means_newest_refused :
    let start := handleAll refusesSquare.recorded { config := {} }
      (Request.untilReset oneNameTwice) ⟨{ board := {} }, []⟩
    let run := handleAll refusesSquare.recorded { config := {} } oneNameTwice
      ⟨{ board := {} }, []⟩
    Event.newest? ⟨1⟩ (run.2.2.events.drop start.2.2.events.length) = some ⟨2⟩ ∧
      (run.2.1.handle refusesSquare.recorded (.submit (oneName.take 50)) run.2.2).2.1.ids =
        run.2.1.ids := by
  have newest := name_means_newest refusesSquare {} oneNameTwice { board := {} }
  refine And.intro ((newest.1 ⟨1⟩).symm.trans ?_) (newest.2 .more (oneName.take 50) ?_)
  · decide +kernel
  · decide +kernel

end Session

end Whiteboard
