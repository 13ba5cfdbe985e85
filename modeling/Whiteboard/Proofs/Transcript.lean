import Mathlib.Data.List.Induction
import Whiteboard.Proofs.Calls
import Whiteboard.Surface.Instant

/-!
# The transcript of a batch

Whatever the surface answers, its calls for a batch come in a fixed order. Each shape is created and
settled. Only then each arrow has its turn: the surface is asked about the shapes at its two ends,
and then the arrow is created and settled, or it is not. So what a reference means is decided by the
answers for the shapes, wherever in the text they stand, and an arrow is bound to nothing but a
shape that its reference means and that the surface said it holds.

## Main definitions

* `Turn`, `Transcript` — what happened to an arrow, and to a batch
* `Turn.events`, `Transcript.events` — the calls that this took, with their answers
* `Turn.Binds` — a creation is bound as the surface answered
* `Turn.ComesTo`, `Transcript.shapeFates` — what became of an arrow, and of the shapes
* `Event.Settled` — every creation is settled before the next call

## Main results

* `Bindings.resolve?_bindAnswers` — a name means the newest shape that carries it
* `Recorded.exists_transcript` — what was recorded for a batch is a transcript of it
* `Recorded.two_phases_drawBatch` — all shapes come before all arrows
* `Recorded.bound_iff_held` — no arrow is bound to a stand-in
-/

namespace Whiteboard

/-- The id of what was created, if it was created. -/
def Answer.id? : Answer → Option SurfaceId
  | .created id => some id
  | .failed _ => none

/-! ### What references mean -/

namespace Bindings

variable {ids : Bindings}

/-- The bindings behind the answers for some shapes, in order. -/
def bindAnswers (ids : Bindings) (shapes : List (ShapeSpec × Answer)) : Bindings :=
  shapes.foldl (fun ids shape => ids.bindAnswer shape.1 shape.2) ids

/-- The id that a shape gives to a name: its own, if it carries the name and was created. -/
def named? (r : ShapeRef) (shape : ShapeSpec × Answer) : Option SurfaceId :=
  if shape.1.ident = some r then shape.2.id? else none

/-- A shape that was created takes its name, and any other leaves all names. -/
theorem resolve?_bindAnswer (shape : ShapeSpec × Answer) (r : ShapeRef) :
    (ids.bindAnswer shape.1 shape.2).resolve? r = (named? r shape).or (ids.resolve? r) := by
  obtain ⟨spec, answer⟩ := shape
  cases answer with
  | failed error => simp [bindAnswer, named?, Answer.id?]
  | created id =>
    cases ident : spec.ident with
    | none => simp [bindAnswer, bindIdent, named?, ident]
    | some r' =>
      by_cases same : r = r'
      · subst same
        simp [bindAnswer, bindIdent, named?, ident, Answer.id?]
      · simp [bindAnswer, bindIdent, named?, ident, resolve?_bind_of_ne ids same, Ne.symm same]

/-- A name means the newest of the created shapes that carry it, and if there is none, what it meant
before. -/
theorem resolve?_bindAnswers (shapes : List (ShapeSpec × Answer)) (r : ShapeRef) :
    (ids.bindAnswers shapes).resolve? r =
      (shapes.reverse.findSome? (named? r)).or (ids.resolve? r) := by
  induction shapes using List.reverseRecOn with
  | nil => rfl
  | append_singleton shapes shape ih =>
    have last : ids.bindAnswers (shapes ++ [shape]) =
        (ids.bindAnswers shapes).bindAnswer shape.1 shape.2 := by
      simp [bindAnswers]
    rw [last, resolve?_bindAnswer, ih, List.reverse_concat, List.findSome?_cons]
    cases named? r shape <;> rfl

/-- The shape that an end of an arrow refers to, if it has a reference and that means a shape. -/
def meaning (ids : Bindings) (ref : Option ShapeRef) : Option SurfaceId := ref.bind ids.resolve?

/-- What an end of an arrow is found to be, by whether the surface holds the shape there. -/
def endpointOf (ids : Bindings) (ref : Option ShapeRef) (held : Bool) : Endpoint :=
  match ref with
  | none => .free
  | some r =>
    match ids.resolve? r with
    | none => .missing r
    | some id => if held then .bound id else .missing r

/-- An end is bound to a shape if and only if its reference means it and the surface holds it. -/
theorem id?_endpointOf_eq_some_iff {ref : Option ShapeRef} {held : Bool} {id : SurfaceId} :
    (ids.endpointOf ref held).id? = some id ↔
      ∃ r, ref = some r ∧ ids.resolve? r = some id ∧ held = true := by
  cases ref with
  | none => simp [endpointOf, Endpoint.id?]
  | some r =>
    cases found : ids.resolve? r with
    | none => simp [endpointOf, found, Endpoint.id?]
    | some id' => cases held <;> simp [endpointOf, found, Endpoint.id?]

end Bindings

/-! ### Events -/

namespace Event

/-- The question whether the surface holds a shape, with the answer. Where there is no shape nothing
is asked. -/
def question (id : Option SurfaceId) (held : Bool) : List Event :=
  (id.map fun id => .contains id held).toList

/-- Every creation is settled before the next call. -/
def Settled (events : List Event) : Prop :=
  ∀ before call answer after, events = before ++ .create call answer :: after →
    ∃ rest, after = .settle :: rest

theorem Settled.append {a b : List Event} (ha : Settled a) (hb : Settled b) : Settled (a ++ b) := by
  intro before call answer after same
  rcases List.append_eq_append_iff.mp same with ⟨front, -, there⟩ | ⟨rest, there, behind⟩
  · exact hb front call answer after there
  · cases rest with
    | nil => exact hb [] call answer after behind.symm
    | cons event rest =>
      -- the creation is one of the first events, and so is the settling behind it
      obtain ⟨rfl, rfl⟩ := List.cons.inj behind
      obtain ⟨rest', rfl⟩ := ha before call answer rest there
      exact ⟨rest' ++ b, rfl⟩

theorem settled_creation (call : ShapeCall) (answer : Answer) : Settled (creation call answer) := by
  intro before call' answer' after same
  match before, same with
  | [], same =>
    obtain ⟨-, rfl⟩ := List.cons.inj same
    exact ⟨[], rfl⟩
  | [_], same => cases same
  | _ :: _ :: before, same => simp [creation] at same

theorem settled_question (id : Option SurfaceId) (held : Bool) : Settled (question id held) := by
  intro before call answer after same
  have mem : Event.create call answer ∈ question id held := same ▸ by simp
  obtain ⟨_, -, asked⟩ := Option.map_eq_some_iff.mp (Option.mem_toList.mp mem)
  cases asked

theorem settled_nil : Settled [] := by
  intro before call answer after same
  simp at same

theorem settled_flatMap {α : Type} {f : α → List Event} (h : ∀ a, Settled (f a)) (l : List α) :
    Settled (l.flatMap f) := by
  induction l with
  | nil => exact settled_nil
  | cons a l ih => exact (h a).append ih

end Event

/-! ### Turns -/

/-- How an arrow was created: the shapes that it was bound to, and the answer. -/
structure Made where
  tail : Option SurfaceId
  head : Option SurfaceId
  answer : Answer

/-- What happened while an arrow had its turn. -/
structure Turn where
  spec : ShapeSpec
  /-- Whether the surface holds the shape at the tail, if it was asked. -/
  tailHeld : Bool
  /-- Whether the surface holds the shape at the head, if it was asked. -/
  headHeld : Bool
  /-- The creation, if the arrow was handed to the surface. -/
  made : Option Made

namespace Turn

/-- The calls of a turn: a question about the tail, if its reference means a shape, one about the
head likewise, and either nothing or the creation of the arrow. -/
def events (ids : Bindings) (turn : Turn) : List Event :=
  Event.question (ids.meaning turn.spec.source) turn.tailHeld ++
    Event.question (ids.meaning turn.spec.target) turn.headHeld ++
    turn.made.toList.flatMap fun made =>
      Event.creation ⟨turn.spec, made.tail, made.head⟩ made.answer

/-- A creation is bound at each end to the shape that the reference there means, if there is one and
the surface said that it holds it, and else to none. -/
structure Binds (ids : Bindings) (turn : Turn) (made : Made) : Prop where
  tail : ∀ id, made.tail = some id ↔
    ∃ r, turn.spec.source = some r ∧ ids.resolve? r = some id ∧ turn.tailHeld = true
  head : ∀ id, made.head = some id ↔
    ∃ r, turn.spec.target = some r ∧ ids.resolve? r = some id ∧ turn.headHeld = true

/-- What the tail of the arrow was found to be. -/
def tail (ids : Bindings) (turn : Turn) : Endpoint := ids.endpointOf turn.spec.source turn.tailHeld

/-- What the head of the arrow was found to be. -/
def head (ids : Bindings) (turn : Turn) : Endpoint := ids.endpointOf turn.spec.target turn.headHeld

/-- The verdict on the arrow. -/
def verdict (policy : Policy) (finality : Finality) (ids : Bindings) (turn : Turn) : Verdict :=
  Endpoint.verdict policy finality turn.spec (turn.tail ids) (turn.head ids)

/-- The fate that a turn comes to, by the verdict on the arrow. -/
def ComesTo (policy : Policy) (finality : Finality) (ids : Bindings) (turn : Turn)
    (fate : Fate) : Prop :=
  let dangling := Endpoint.dangling (turn.tail ids) (turn.head ids)
  match turn.verdict policy finality ids with
  | .draw => ∃ made, turn.made = some made ∧
      fate = .drawn ⟨turn.spec, made.tail, made.head⟩ dangling made.answer
  | .skip => turn.made = none ∧ fate = .skipped turn.spec dangling
  | .defer => turn.made = none ∧ fate = .deferred turn.spec

theorem settled_events (ids : Bindings) (turn : Turn) : Event.Settled (turn.events ids) :=
  ((Event.settled_question _ _).append (Event.settled_question _ _)).append
    (Event.settled_flatMap (fun _ => Event.settled_creation _ _) _)

end Turn

/-! ### Transcripts -/

/-- What happened while a batch was drawn. -/
structure Transcript where
  /-- The shapes, each with the answer to its creation. -/
  shapes : List (ShapeSpec × Answer)
  /-- The turns of the arrows. -/
  turns : List Turn

namespace Transcript

/-- The bindings behind the shapes. -/
def bindings (ids : Bindings) (t : Transcript) : Bindings := ids.bindAnswers t.shapes

/-- The calls for a batch: all its shapes are created, unbound, and then its arrows have their
turns. -/
def events (ids : Bindings) (t : Transcript) : List Event :=
  t.shapes.flatMap (fun shape => Event.creation ⟨shape.1, none, none⟩ shape.2) ++
    t.turns.flatMap (Turn.events (t.bindings ids))

/-- The fates of the shapes: each is handed to the surface. -/
def shapeFates (t : Transcript) : Fates :=
  t.shapes.map fun shape => .drawn ⟨shape.1, none, none⟩ [] shape.2

/-- A transcript tells of the shapes and the arrows of a batch, of each once and in order. -/
structure IsOf (t : Transcript) (batch : Batch) : Prop where
  shapes : t.shapes.map Prod.fst = batch.shapes
  arrows : t.turns.map Turn.spec = batch.arrows

theorem settled_events (ids : Bindings) (t : Transcript) : Event.Settled (t.events ids) :=
  (Event.settled_flatMap (fun _ => Event.settled_creation _ _) _).append
    (Event.settled_flatMap (Turn.settled_events _) _)

end Transcript

/-! ### What was recorded -/

namespace Recorded

variable {Board : Type} (S : Surface Board) (policy : Policy) (finality : Finality)

/-- The answer about an end decides what the end is found to be. -/
theorem events_lookUp (ids : Bindings) (ref : Option ShapeRef) (r : Recorded Board) :
    ∃ held, (S.recorded.lookUp ids ref r).1 = ids.endpointOf ref held ∧
      (S.recorded.lookUp ids ref r).2.events =
        r.events ++ Event.question (ids.meaning ref) held := by
  cases ref with
  | none => exact ⟨false, rfl, (List.append_nil _).symm⟩
  | some ref =>
    cases found : ids.resolve? ref with
    | none =>
      refine ⟨false, ?_, ?_⟩
      · simp [Surface.lookUp, Bindings.endpointOf, found]
      · simp [Surface.lookUp, Bindings.meaning, Event.question, found]
    | some id =>
      refine ⟨(S.contains id r.board).1, ?_, ?_⟩
      · simp only [Surface.lookUp, Bindings.endpointOf, found]
        rfl
      · simp [Surface.lookUp, Surface.recorded, Bindings.meaning, Event.question, found]

theorem events_drawShapes (specs : List ShapeSpec) (ids : Bindings) (r : Recorded Board) :
    ∃ shapes : List (ShapeSpec × Answer), shapes.map Prod.fst = specs ∧
      (S.recorded.drawShapes specs ids r).1 = Transcript.shapeFates ⟨shapes, []⟩ ∧
      (S.recorded.drawShapes specs ids r).2.1 = ids.bindAnswers shapes ∧
      (S.recorded.drawShapes specs ids r).2.2.events = r.events ++
        shapes.flatMap fun shape => Event.creation ⟨shape.1, none, none⟩ shape.2 := by
  induction specs generalizing ids r with
  | nil => exact ⟨[], rfl, rfl, rfl, (List.append_nil _).symm⟩
  | cons spec specs ih =>
    have first := events_draw S ⟨spec, none, none⟩ r
    rw [Surface.drawShapes_cons]
    generalize S.recorded.draw ⟨spec, none, none⟩ r = drawn at first
    obtain ⟨shapes, same, fates, bound, later⟩ := ih (ids.bindAnswer spec drawn.1) drawn.2
    refine ⟨(spec, drawn.1) :: shapes, ?_, congrArg (_ :: ·) fates, bound, ?_⟩
    · rw [List.map_cons, same]
    · rw [List.flatMap_cons, ← List.append_assoc, ← first]
      exact later

/-- The turn of an arrow, as it was recorded. -/
theorem events_drawArrow (ids : Bindings) (spec : ShapeSpec) (r : Recorded Board) :
    ∃ turn : Turn, turn.spec = spec ∧ (∀ made ∈ turn.made, turn.Binds ids made) ∧
      turn.ComesTo policy finality ids (S.recorded.drawArrow policy finality ids spec r).1 ∧
      (S.recorded.drawArrow policy finality ids spec r).2.events =
        r.events ++ turn.events ids := by
  obtain ⟨tailHeld, isTail, asked⟩ := events_lookUp S ids spec.source r
  obtain ⟨headHeld, isHead, asked'⟩ :=
    events_lookUp S ids spec.target (S.recorded.lookUp ids spec.source r).2
  rw [Surface.drawArrow_eq, Surface.drawArrowBetween_eq]
  generalize S.recorded.lookUp ids spec.target (S.recorded.lookUp ids spec.source r).2 = looked
    at isHead asked' ⊢
  rw [isTail, isHead]
  -- if the arrow is not created, the questions about its ends are all there is
  have idle : looked.2.events = r.events ++ Turn.events ids ⟨spec, tailHeld, headHeld, none⟩ := by
    rw [asked', asked]
    simp [Turn.events]
  split
  case h_1 verdict =>
    let tail := (ids.endpointOf spec.source tailHeld).id?
    let head := (ids.endpointOf spec.target headHeld).id?
    have created := events_draw S ⟨spec, tail, head⟩ looked.2
    refine ⟨⟨spec, tailHeld, headHeld,
      some ⟨tail, head, (S.recorded.draw ⟨spec, tail, head⟩ looked.2).1⟩⟩, rfl, ?_, ?_, ?_⟩
    · rintro made ⟨⟩
      exact ⟨fun _ => Bindings.id?_endpointOf_eq_some_iff,
        fun _ => Bindings.id?_endpointOf_eq_some_iff⟩
    · simp only [Turn.ComesTo, Turn.verdict, Turn.tail, Turn.head, verdict]
      exact ⟨_, rfl, rfl⟩
    · rw [created, asked', asked]
      simp [Turn.events, tail, head]
  case h_2 verdict =>
    refine ⟨⟨spec, tailHeld, headHeld, none⟩, rfl, by simp, ?_, idle⟩
    simp only [Turn.ComesTo, Turn.verdict, Turn.tail, Turn.head, verdict, and_self]
  case h_3 verdict =>
    refine ⟨⟨spec, tailHeld, headHeld, none⟩, rfl, by simp, ?_, idle⟩
    simp only [Turn.ComesTo, Turn.verdict, Turn.tail, Turn.head, verdict, and_self]

theorem events_drawArrows (ids : Bindings) (specs : List ShapeSpec) (r : Recorded Board) :
    ∃ turns : List Turn, turns.map Turn.spec = specs ∧
      (∀ turn ∈ turns, ∀ made ∈ turn.made, turn.Binds ids made) ∧
      List.Forall₂ (Turn.ComesTo policy finality ids) turns
        (S.recorded.drawArrows policy finality ids specs r).1 ∧
      (S.recorded.drawArrows policy finality ids specs r).2.events =
        r.events ++ turns.flatMap (Turn.events ids) := by
  induction specs generalizing r with
  | nil => exact ⟨[], rfl, by simp, .nil, (List.append_nil _).symm⟩
  | cons spec specs ih =>
    obtain ⟨turn, same, bound, fate, first⟩ := events_drawArrow S policy finality ids spec r
    obtain ⟨turns, sames, bounds, fates, later⟩ :=
      ih (S.recorded.drawArrow policy finality ids spec r).2
    refine ⟨turn :: turns, ?_, List.forall_mem_cons.mpr ⟨bound, bounds⟩, .cons fate fates, ?_⟩
    · rw [List.map_cons, same, sames]
    · rw [List.flatMap_cons, ← List.append_assoc, ← first]
      exact later

/-- What was recorded for a batch is a transcript of it, in which arrows are bound as the surface
answered. The fates of the batch can be read off it. -/
theorem exists_transcript_fates (batch : Batch) (ids : Bindings) (r : Recorded Board) :
    ∃ t : Transcript, t.IsOf batch ∧
      (∀ turn ∈ t.turns, ∀ made ∈ turn.made, turn.Binds (t.bindings ids) made) ∧
      (∃ arrows, (S.recorded.drawBatch policy finality batch ids r).1 = t.shapeFates ++ arrows ∧
        List.Forall₂ (Turn.ComesTo policy finality (t.bindings ids)) t.turns arrows) ∧
      (S.recorded.drawBatch policy finality batch ids r).2.1 = t.bindings ids ∧
      (S.recorded.drawBatch policy finality batch ids r).2.2.events =
        r.events ++ t.events ids := by
  obtain ⟨shapes, same, shapeFates, known, first⟩ := events_drawShapes S batch.shapes ids r
  rw [Surface.drawBatch_eq]
  generalize S.recorded.drawShapes batch.shapes ids r = drawn at shapeFates known first
  obtain ⟨turns, sames, bound, arrowFates, later⟩ :=
    events_drawArrows S policy finality drawn.2.1 batch.arrows drawn.2.2
  rw [known] at bound
  refine ⟨⟨shapes, turns⟩, ⟨same, sames⟩, bound, ⟨_, congrArg (· ++ _) shapeFates, ?_⟩, known, ?_⟩
  · rw [known] at arrowFates ⊢
    exact arrowFates
  · dsimp only
    rw [later, first, known, List.append_assoc]
    rfl

theorem exists_transcript (batch : Batch) (ids : Bindings) (r : Recorded Board) :
    ∃ t : Transcript, t.IsOf batch ∧
      (∀ turn ∈ t.turns, ∀ made ∈ turn.made, turn.Binds (t.bindings ids) made) ∧
      (S.recorded.drawBatch policy finality batch ids r).2.1 = t.bindings ids ∧
      (S.recorded.drawBatch policy finality batch ids r).2.2.events =
        r.events ++ t.events ids := by
  obtain ⟨t, isOf, bound, -, later⟩ := exists_transcript_fates S policy finality batch ids r
  exact ⟨t, isOf, bound, later⟩

/-- **Two phases.** Whatever the surface answers, its calls for a batch are these. Each shape is
created and settled, in order and also if an earlier one failed. Then each arrow has its turn: the
surface is asked about its tail, if the reference there is bound, then about its head likewise, and
then the arrow is created and settled or is not. Every creation is settled before the next call. -/
theorem two_phases_drawBatch (batch : Batch) (ids : Bindings) (r : Recorded Board) :
    ∃ t : Transcript, t.IsOf batch ∧
      (S.recorded.drawBatch policy finality batch ids r).2.2.events = r.events ++ t.events ids ∧
      Event.Settled (t.events ids) := by
  obtain ⟨t, isOf, -, -, recorded⟩ := exists_transcript S policy finality batch ids r
  exact ⟨t, isOf, recorded, t.settled_events ids⟩

-- the circle is settled before the arrow is looked at, and shape 2 is not asked about
example :
    let circle : ShapeSpec :=
      { (default : ShapeSpec) with kind := .circle, ident := some ⟨1⟩ }
    let arrow : ShapeSpec :=
      { (default : ShapeSpec) with
        kind := .arrow, endX := some default, endY := some default
        source := some ⟨1⟩, target := some ⟨2⟩ }
    ((Instant.surface SurfaceId.mk).recorded.drawBatch .unbind .last ⟨[circle], [arrow]⟩ {}
        ⟨{}, []⟩).2.2.events =
      [.create ⟨circle, none, none⟩ (.created ⟨0⟩), .settle, .contains ⟨0⟩ true,
        .create ⟨arrow, some ⟨0⟩, none⟩ (.created ⟨1⟩), .settle] := by
  decide

/-- **No stand-ins.** Whatever the surface answers, an arrow of a batch that is handed to it is
bound at an end exactly if its reference there means a shape and the surface said, when it was asked
for this end, that it holds that shape. What a reference means is decided before, by all the shapes
of the batch: it is the newest that was created under this name, and if there is none, what the
reference meant before the batch. Shapes are bound to nothing, and the specifications are those of
the batch. -/
theorem bound_iff_held (batch : Batch) (ids : Bindings) (r : Recorded Board) :
    ∃ t : Transcript, t.IsOf batch ∧
      (S.recorded.drawBatch policy finality batch ids r).2.2.events = r.events ++ t.events ids ∧
      (∀ turn ∈ t.turns, ∀ made ∈ turn.made, turn.Binds (t.bindings ids) made) ∧
      (S.recorded.drawBatch policy finality batch ids r).2.1 = t.bindings ids ∧
      ∀ ref, (t.bindings ids).resolve? ref =
        (t.shapes.reverse.findSome? (Bindings.named? ref)).or (ids.resolve? ref) := by
  obtain ⟨t, isOf, bound, known, recorded⟩ := exists_transcript S policy finality batch ids r
  exact ⟨t, isOf, recorded, bound, known, fun _ => Bindings.resolve?_bindAnswers _ _⟩

end Recorded

end Whiteboard
