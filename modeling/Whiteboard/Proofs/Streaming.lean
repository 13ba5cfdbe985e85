import Mathlib.Data.List.Nodup
import Whiteboard.Proofs.Replay
import Whiteboard.Proofs.Snapshots

/-!
# Streaming and drawing in one go

A text may be told in snapshots, in any order and cut anywhere, or only once and whole. On a memory
surface that comes to the same drawing, up to the ids of the shapes and the order of the arrows. The
names of shapes must differ for this: a name that is given again means the newer shape, and which
shape an arrow finds then depends on when it is drawn.

## Main definitions

* `Created.placed` — an arrow with places of shapes in place of their ids
* `Created.SameDrawing` — the same shapes in the same order, and the same arrows between them
* `Memory.Exhibits` — a board holds what was created, and arrows are bound to shapes on it

## Main results

* `Session.shows_handleAll_submit` — what is drawn after snapshots in any order
* `Session.shows_handleAll_finish` — what is drawn when the text has ended
* `Session.streamed_eq_once` — a text told in snapshots comes to what it comes to in one go
-/

namespace Whiteboard

/-! ### Places of shapes -/

/-- Whether a diagnostic tells of a reference that means no shape. -/
def Diagnostic.isUnresolved : Diagnostic → Bool
  | .unresolved _ _ _ => true
  | _ => false

/-- A creation call with the places of the shapes that it is bound to, and not their ids. -/
def ShapeCall.placed (place : SurfaceId → Nat) (call : ShapeCall) :
    ShapeSpec × Option Nat × Option Nat :=
  (call.spec, call.tail.map place, call.head.map place)

namespace Created

/-- The place of an id in the order in which shapes were created. -/
def place (shapes : List Created) : SurfaceId → Nat := (shapes.map id).idxOf

/-- The same shapes in the same order, and the same arrows between them in any order. -/
structure SameDrawing (made made' : List Created) : Prop where
  shapes : (Created.shapes made).map (·.call.spec) = (Created.shapes made').map (·.call.spec)
  arrows : ((Created.arrows made).map fun c => c.call.placed (place (Created.shapes made))).Perm
    ((Created.arrows made').map fun c => c.call.placed (place (Created.shapes made')))

end Created

/-- A board holds what was created, its shapes have different ids, and arrows on it are bound to
shapes on it. -/
structure Memory.Exhibits (board : Memory) (made : List Created) : Prop where
  pending : board.pending = []
  committed : board.committed = Memory.objects made
  distinct : ((Created.shapes made).map Created.id).Nodup
  bound : ∀ arrow ∈ Created.arrows made, ∀ id,
    arrow.call.tail = some id ∨ arrow.call.head = some id →
      id ∈ (Created.shapes made).map Created.id

namespace Bindings

variable {ids ids' : Bindings} {place place' : SurfaceId → Nat}

/-- What a name means has the place of the first shape that carries it. -/
theorem Names.map_place {shapes : List Created} (names : ids.Names shapes)
    (distinct : (shapes.map Created.id).Nodup) (r : ShapeRef) :
    (ids.resolve? r).map (Created.place shapes) =
      (shapes.map (·.call.spec)).findIdx? fun spec => spec.ident = some r := by
  rw [names r]
  clear names
  unfold Created.place
  induction shapes with
  | nil => rfl
  | cons c shapes ih =>
    obtain ⟨new, later⟩ := List.nodup_cons.mp distinct
    by_cases found : c.call.spec.ident = some r
    · simp [found, List.findIdx?_cons]
    · -- the shape that is found stands behind, and has another id than the first one
      have rest := ih later
      simp only [List.find?_cons, List.map_cons, List.findIdx?_cons, decide_eq_false found,
        Bool.false_eq_true, if_false, ← rest]
      cases there : shapes.find? fun c => c.call.spec.ident = some r with
      | none => rfl
      | some c' =>
        have mem : c'.id ∈ shapes.map Created.id :=
          List.mem_map_of_mem (List.mem_of_find?_eq_some there)
        have ne : c.id ≠ c'.id := fun same => new (same ▸ mem)
        simp [List.idxOf_cons_ne _ ne]

/-- Bindings that mean shapes at the same places, each among the shapes of its own board. -/
def SamePlaces (ids ids' : Bindings) (place place' : SurfaceId → Nat) : Prop :=
  ∀ r, (ids.resolve? r).map place = (ids'.resolve? r).map place'

theorem SamePlaces.missing? (same : ids.SamePlaces ids' place place') (ref : Option ShapeRef) :
    (ids.endpoint ref).missing? = (ids'.endpoint ref).missing? := by
  cases ref with
  | none => rfl
  | some r =>
    have at_r := same r
    cases found : ids.resolve? r <;> cases found' : ids'.resolve? r <;>
      simp_all [endpoint, Endpoint.missing?]

theorem SamePlaces.id? (same : ids.SamePlaces ids' place place') (ref : Option ShapeRef) :
    (ids.endpoint ref).id?.map place = (ids'.endpoint ref).id?.map place' := by
  cases ref with
  | none => rfl
  | some r =>
    have at_r := same r
    cases found : ids.resolve? r <;> cases found' : ids'.resolve? r <;>
      simp_all [endpoint, Endpoint.id?]

/-- An end is bound to what a name means. -/
theorem resolve?_of_id? {ref : Option ShapeRef} {id : SurfaceId}
    (h : (ids.endpoint ref).id? = some id) : ∃ r, ids.resolve? r = some id := by
  cases ref with
  | none => cases h
  | some r =>
    refine ⟨r, ?_⟩
    cases found : ids.resolve? r with
    | none => simp [endpoint, found, Endpoint.id?] at h
    | some id' => simpa [endpoint, found, Endpoint.id?] using h

/-- The places decide how an arrow is drawn. -/
theorem SamePlaces.placed_call (same : ids.SamePlaces ids' place place') (spec : ShapeSpec) :
    (ids.call spec).placed place = (ids'.call spec).placed place' := by
  simp only [ShapeCall.placed, Bindings.call, same.id?]

theorem SamePlaces.dangling (same : ids.SamePlaces ids' place place') (spec : ShapeSpec) :
    ids.dangling spec = ids'.dangling spec := by
  rw [Bindings.dangling, Bindings.dangling, Endpoint.dangling, Endpoint.dangling, same.missing?,
    same.missing?]

/-- The places decide what is to be done with an arrow. -/
theorem SamePlaces.verdict (same : ids.SamePlaces ids' place place') (policy : Policy)
    (finality : Finality) (spec : ShapeSpec) :
    ids.verdict policy finality spec = ids'.verdict policy finality spec := by
  have dangles := same.dangling spec
  rw [Bindings.dangling, Bindings.dangling] at dangles
  unfold Bindings.verdict Endpoint.verdict
  rw [dangles, same.missing?]

/-- The places decide what is told about an arrow. -/
theorem SamePlaces.unresolved (same : ids.SamePlaces ids' place place') (policy : Policy)
    (finality : Finality) (spec : ShapeSpec) :
    ids.unresolved policy finality spec = ids'.unresolved policy finality spec := by
  rw [Bindings.unresolved, Bindings.unresolved, same.verdict, same.dangling]

theorem isUnresolved_of_mem_unresolved {policy : Policy} {finality : Finality} {spec : ShapeSpec}
    {d : Diagnostic} (h : d ∈ ids.unresolved policy finality spec) : d.isUnresolved = true := by
  unfold Bindings.unresolved at h
  split at h
  · obtain ⟨_, -, rfl⟩ := List.mem_map.mp h
    rfl
  · obtain ⟨_, -, rfl⟩ := List.mem_map.mp h
    rfl
  · cases h

end Bindings

/-! ### What boards show -/

namespace Memory

variable {supply supply' : Nat → SurfaceId} {board board' : Memory} {made made' : List Created}
  {ids ids' : Bindings} {commands : List Command} {drawn : ShapeSpec → Bool}

/-- If the supply never repeats itself, shapes have different ids. -/
theorem Shows.nodup_ids (shows : board.Shows supply made ids commands drawn)
    (distinct : Function.Injective supply) : ((Created.shapes made).map Created.id).Nodup := by
  have all : (made.map Created.id).Nodup := by
    rw [shows.holds.ids]
    exact List.nodup_range.map distinct
  exact all.sublist (List.filter_sublist.map _)

/-- A board that shows commands exhibits what was created for them. -/
theorem Shows.exhibits (shows : board.Shows supply made ids commands drawn)
    (distinct : Function.Injective supply) : board.Exhibits made where
  pending := shows.holds.pending
  committed := shows.holds.committed
  distinct := shows.nodup_ids distinct
  bound arrow mem id bound := by
    -- the call of an arrow is the one that the bindings make for its specification
    have called := shows.arrows.subset (List.mem_map_of_mem (f := Created.call) mem)
    obtain ⟨spec, -, same⟩ := List.mem_map.mp called
    rw [← same] at bound
    rcases bound with tail | head
    · obtain ⟨r, found⟩ := Bindings.resolve?_of_id? tail
      exact shows.names.mem found
    · obtain ⟨r, found⟩ := Bindings.resolve?_of_id? head
      exact shows.names.mem found

/-- The bindings of two boards that show the same shapes mean the same places. -/
theorem Shows.samePlaces (shows : board.Shows supply made ids commands drawn)
    (distinct : Function.Injective supply) {drawn' : ShapeSpec → Bool}
    (shows' : board'.Shows supply' made' ids' commands drawn')
    (distinct' : Function.Injective supply') :
    ids.SamePlaces ids' (Created.place (Created.shapes made))
      (Created.place (Created.shapes made')) := by
  intro r
  rw [shows.names.map_place (shows.nodup_ids distinct),
    shows'.names.map_place (shows'.nodup_ids distinct'), shows.map_spec_shapes,
    shows'.map_spec_shapes]

/-- Two boards that show the same commands behind the last text show the same drawing. -/
theorem Shows.sameDrawing {policy : Policy} {finality : Finality}
    (shows : board.Shows supply made ids commands
      fun spec => ids.verdict policy finality spec = .draw)
    (distinct : Function.Injective supply)
    (shows' : board'.Shows supply' made' ids' commands
      fun spec => ids'.verdict policy finality spec = .draw)
    (distinct' : Function.Injective supply') : Created.SameDrawing made made' where
  shapes := shows.map_spec_shapes.trans shows'.map_spec_shapes.symm
  arrows := by
    have same := shows.samePlaces distinct shows' distinct'
    have placed := shows.arrows.map (ShapeCall.placed (Created.place (Created.shapes made)))
    have placed' := shows'.arrows.map (ShapeCall.placed (Created.place (Created.shapes made')))
    have calls : ∀ spec, (ids.call spec).placed (Created.place (Created.shapes made)) =
        (ids'.call spec).placed (Created.place (Created.shapes made')) := same.placed_call
    simp only [List.map_map, Function.comp_def, same.verdict, calls] at placed placed'
    exact placed.trans placed'.symm

end Memory

/-! ### What a run draws -/

namespace Session

/-- Everything that the surface created in a run. -/
def created (reports : List BatchReport) : List Created := reports.flatMap BatchReport.created

/-- What a run told about references that mean no shape. -/
def unresolved (reports : List BatchReport) : List Diagnostic :=
  (reports.flatMap BatchReport.diagnostics).filter Diagnostic.isUnresolved

/-- How many commands a run rejected. -/
def rejected (reports : List BatchReport) : Nat :=
  reports.foldr (fun report n => report.rejected + n) 0

theorem rejected_eq (reports : List BatchReport) :
    rejected reports = (reports.flatMap BatchReport.rejections).length := by
  induction reports with
  | nil => rfl
  | cons report reports ih =>
    rw [List.flatMap_cons, List.length_append, ← ih]
    rfl

theorem created_concat (reports : List BatchReport) (report : BatchReport) :
    created (reports ++ [report]) = created reports ++ report.created := by
  simp [created]

@[simp] theorem unresolved_append (a b : List BatchReport) :
    unresolved (a ++ b) = unresolved a ++ unresolved b := by
  simp [unresolved]

theorem unresolved_singleton (report : BatchReport) :
    unresolved [report] = report.fates.diagnostics.filter Diagnostic.isUnresolved := by
  rw [unresolved, List.flatMap_singleton]
  exact report.filter_diagnostics (fun _ => rfl) (fun _ => rfl)

/-- If the bindings decide what is told about arrows, all of it is about references. -/
theorem unresolved_singleton_of_eq {report : BatchReport} {arrows : List ShapeSpec}
    {ids : Bindings} {policy : Policy} {finality : Finality}
    (h : report.fates.diagnostics = arrows.flatMap (ids.unresolved policy finality)) :
    unresolved [report] = arrows.flatMap (ids.unresolved policy finality) := by
  rw [unresolved_singleton, h, List.filter_eq_self]
  intro d mem
  obtain ⟨spec, -, told⟩ := List.mem_flatMap.mp mem
  exact Bindings.isUnresolved_of_mem_unresolved told

/-- The names of shapes differ in the beginning of a list of commands if they do in all of it. -/
theorem nodup_idents_of_isPrefix {commands more : List Command} (h : commands <+: more)
    (own : ((Command.shapes more).filterMap ShapeSpec.ident).Nodup) :
    ((Command.shapes commands).filterMap ShapeSpec.ident).Nodup := by
  obtain ⟨rest, rfl⟩ := h
  rw [Command.shapes_append, List.filterMap_append] at own
  exact own.of_append_left

/-- No snapshot resets a session. -/
theorem ne_reset_of_mem_stream (texts : List Text) (T : Text) :
    ∀ request ∈ texts.map Request.submit ++ [.finish T], request ≠ .reset := by
  intro request mem
  rcases List.mem_append.mp mem with mem | mem
  · obtain ⟨t, -, rfl⟩ := List.mem_map.mp mem
    simp
  · obtain rfl := List.mem_singleton.mp mem
    simp

section Text

variable {config : Config} (supply : Nat → SurfaceId) {T : Text} {texts : List Text}

/-- Snapshots of one text, in any order, draw all shapes that are known, and of the arrows those
whose ends are. Nothing is told about the others. -/
theorem shows_handleAll_submit (hm : config.markers.IsPlain)
    (own : ((Command.shapes (config.markers.parse T).commands).filterMap ShapeSpec.ident).Nodup)
    (h : ∀ t ∈ texts, t <+: T) :
    let run := handleAll (Memory.surface supply) { config } (texts.map .submit) {}
    let commands := (config.markers.parse (Text.longest texts)).commands
    Memory.Shows supply run.2.2 (created run.1) run.2.1.ids commands run.2.1.ids.settles ∧
      run.2.1.pending =
        ((Command.arrows commands).filter fun spec => !run.2.1.ids.settles spec) ∧
      unresolved run.1 = [] := by
  induction texts using List.reverseRecOn with
  | nil =>
    rw [Text.longest_nil, Markers.commands_parse_nil]
    exact ⟨⟨Memory.holds_empty supply, Bindings.names_empty, rfl, .nil⟩, rfl, rfl⟩
  | append_singleton texts t ih =>
    have before : ∀ t' ∈ texts, t' <+: T := fun t' mem => h t' (List.mem_append_left _ mem)
    have follows := follows_handleAll (Memory.surface supply) (.new config) hm before {}
    have known := follows.append_fresh hm (Text.longest_comparable h)
    have own' := nodup_idents_of_isPrefix (Markers.commands_isPrefix hm (Text.longest_isPrefix h))
      own
    have so_far := ih before
    rw [List.map_append, List.map_singleton, handleAll_concat]
    generalize handleAll (Memory.surface supply) { config } (texts.map .submit) {} = run
      at known so_far ⊢
    -- the snapshot takes the session to the commands of the longer text
    obtain ⟨shows, waits, quiet⟩ := so_far
    rw [Text.longest_concat, ← known] at own' ⊢
    obtain ⟨shows', waits', quiet'⟩ := shows.process waits .more t own'
    simp only [Bindings.verdict_more_eq_draw, Bindings.verdict_more_eq_defer] at shows' waits'
    simp only [handle_submit, Option.toList_some]
    refine ⟨?_, waits', ?_⟩
    · rw [created_concat]
      exact shows'
    · rw [unresolved_append, quiet, List.nil_append, unresolved_singleton_of_eq quiet']
      apply List.flatMap_eq_nil_iff.mpr
      intro spec _
      exact Bindings.unresolved_more

/-- Once the text has ended, whatever snapshots of it there were before, all its shapes have been
drawn, and of its arrows those that the bindings of all shapes and the policy draw. -/
theorem shows_handleAll_finish (hm : config.markers.IsPlain)
    (own : ((Command.shapes (config.markers.parse T).commands).filterMap ShapeSpec.ident).Nodup)
    (h : ∀ t ∈ texts, t <+: T) :
    let run := handleAll (Memory.surface supply) { config } (texts.map .submit ++ [.finish T]) {}
    let commands := (config.markers.parse T).commands
    Memory.Shows supply run.2.2 (created run.1) run.2.1.ids commands
        (fun spec => run.2.1.ids.verdict config.policy .last spec = .draw) ∧
      unresolved run.1 =
        (Command.arrows commands).flatMap (run.2.1.ids.unresolved config.policy .last) ∧
      run.2.1.commands = commands ∧
      run.1.flatMap BatchReport.rejections = commands.filterMap Command.rejection? := by
  have so_far := shows_handleAll_submit supply hm own h
  have follows := follows_handleAll (Memory.surface supply) (.new config) hm h {}
  have whole := follows.append_fresh hm (.inl (Text.longest_isPrefix h))
  have told := rejections_handleAll (Memory.surface supply) { config }
    (ne_reset_of_mem_stream texts T) {}
  rw [Text.longer_of_isPrefix (Text.longest_isPrefix h)] at whole
  rw [handleAll_concat] at told ⊢
  -- of the run up to the finish only what these four say is used
  generalize handleAll (Memory.surface supply) { config } (texts.map .submit) {} = run
    at so_far follows whole told ⊢
  obtain ⟨shows, waits, quiet⟩ := so_far
  rw [← whole] at own ⊢
  obtain ⟨shows', -, unresolved'⟩ := shows.process waits .last T own
  rw [follows.config] at shows' unresolved'
  have log : (run.2.1.process (Memory.surface supply) .last T run.2.2).2.1.commands =
      (config.markers.parse (Text.longest texts)).commands ++ run.2.1.fresh T := by
    rw [process_eq]
    exact congrArg (· ++ run.2.1.fresh T) follows.log
  simp only [handle_finish, Option.toList_some] at told ⊢
  rw [log] at told
  refine ⟨?_, ?_, log, told⟩
  · rw [created_concat]
    exact shows'
  · rw [unresolved_append, quiet, List.nil_append]
    exact unresolved_singleton_of_eq unresolved'

end Text

/-- **Streaming equals drawing in one go.** A text is told in snapshots, in any order and with
repetitions, and then ends; or it is told once and whole. If no two of its shapes have the same
name, and ids are never given twice, then both boards show the same drawing, the same is told about
references that mean no shape, the same commands are logged and as many are rejected. -/
theorem streamed_eq_once {config : Config} (hm : config.markers.IsPlain) {T : Text}
    (own : ((Command.shapes (config.markers.parse T).commands).filterMap ShapeSpec.ident).Nodup)
    {texts : List Text} (h : ∀ t ∈ texts, t <+: T) {supply supply' : Nat → SurfaceId}
    (distinct : Function.Injective supply) (distinct' : Function.Injective supply') :
    let streamed := handleAll (Memory.surface supply) { config }
      (texts.map .submit ++ [.finish T]) {}
    let once := handleAll (Memory.surface supply') { config } [.finish T] {}
    streamed.2.2.Exhibits (created streamed.1) ∧ once.2.2.Exhibits (created once.1) ∧
      Created.SameDrawing (created streamed.1) (created once.1) ∧
      unresolved streamed.1 = unresolved once.1 ∧
      streamed.2.1.commands = once.2.1.commands ∧
      rejected streamed.1 = rejected once.1 := by
  -- both runs draw what the whole text decides, and differ only in the ids of their shapes
  have streamed := shows_handleAll_finish supply hm own h
  have once := shows_handleAll_finish supply' hm own (List.forall_mem_nil _)
  rw [List.map_nil, List.nil_append] at once
  generalize handleAll (Memory.surface supply) { config } (texts.map .submit ++ [.finish T]) {} =
    run at streamed ⊢
  generalize handleAll (Memory.surface supply') { config } [.finish T] {} = run' at once ⊢
  obtain ⟨shows, told, log, rejections⟩ := streamed
  obtain ⟨shows', told', log', rejections'⟩ := once
  have same := shows.samePlaces distinct shows' distinct'
  refine ⟨shows.exhibits distinct, shows'.exhibits distinct',
    shows.sameDrawing distinct shows' distinct', ?_, log.trans log'.symm, ?_⟩
  · have decided : run.2.1.ids.unresolved config.policy .last =
        run'.2.1.ids.unresolved config.policy .last := funext fun spec => same.unresolved _ _ spec
    rw [told, told', decided]
  · rw [rejected_eq, rejected_eq, rejections, rejections']

/-- A text whose arrow stands before its shape. -/
def arrowFirst : Text :=
  "action:create shape:arrow x:0 y:0 from:1 to:1; action:create shape:circle x:0 y:0 id:1; ".toList

/-- The text cut behind its arrow, the whole text, and the text cut inside its first word. -/
def arrowFirstSnapshots : List Text := [arrowFirst.take 50, arrowFirst, arrowFirst.take 3]

/-- The circle of that text, and its arrow bound to the circle at both ends. -/
def arrowFirstDrawing (circle arrow : SurfaceId) : List Created :=
  [⟨circle, { spec := { kind := .circle, x := .ofInt 0, y := .ofInt 0, ident := some ⟨1⟩ } }⟩,
   ⟨arrow, {
      spec := {
        kind := .arrow, x := .ofInt 0, y := .ofInt 0, source := some ⟨1⟩, target := some ⟨1⟩ }
      tail := some circle
      head := some circle }⟩]

/-- An arrow that had to wait for its shape is drawn in the end, bound to that shape, as it is drawn
in one go. -/
theorem streamed_eq_once_arrowFirst :
    let config : Config := { policy := .skip }
    let streamed := handleAll (Memory.surface SurfaceId.mk) { config }
      (arrowFirstSnapshots.map .submit ++ [.finish arrowFirst]) {}
    let once := handleAll (Memory.surface fun n => ⟨n + 10⟩) { config } [.finish arrowFirst] {}
    created streamed.1 = arrowFirstDrawing ⟨0⟩ ⟨1⟩ ∧
      created once.1 = arrowFirstDrawing ⟨10⟩ ⟨11⟩ ∧
      Created.SameDrawing (created streamed.1) (created once.1) ∧
      streamed.2.1.commands = once.2.1.commands := by
  have own : ((Command.shapes (({} : Markers).parse arrowFirst).commands).filterMap
      ShapeSpec.ident).Nodup := by
    decide +kernel
  have cut : ∀ t ∈ arrowFirstSnapshots, t <+: arrowFirst := by
    simp [arrowFirstSnapshots, List.take_prefix]
  have distinct : Function.Injective SurfaceId.mk := fun a b same => by simpa using same
  have distinct' : Function.Injective fun n => SurfaceId.mk (n + 10) := fun a b same => by
    simpa using same
  have plain : ({ policy := .skip } : Config).markers.IsPlain := by decide
  have same := streamed_eq_once plain own cut distinct distinct'
  exact ⟨by decide +kernel, by decide +kernel, same.2.2.1, same.2.2.2.2.1⟩

end Session

end Whiteboard
