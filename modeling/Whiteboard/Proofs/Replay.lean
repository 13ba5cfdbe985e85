import Whiteboard.Proofs.Memory
import Whiteboard.Proofs.Run

/-!
# A session on a memory surface

What a session has drawn in memory is decided by the commands it has heard of and by the bindings:
its shapes are all there, and its arrows are drawn or wait as their references are bound or not.
An arrow that was drawn early is the arrow that would be drawn late.
-/

namespace Whiteboard

/-! ### Lists that are gone through twice -/

section Lists

variable {α β : Type} {p q : α → Bool}

/-- What was chosen early, and what is chosen of the rest, is what is chosen of all, if nothing that
was chosen is ever given up. -/
theorem filter_append_filter_perm (h : ∀ a, p a = true → q a = true) (l : List α) :
    (l.filter p ++ (l.filter fun a => !p a).filter q).Perm (l.filter q) := by
  have kept : (l.filter q).filter p = l.filter p := by
    rw [List.filter_filter]
    apply List.filter_congr
    intro a _
    cases early : p a with
    | true => simp [h a early]
    | false => simp
  have late : (l.filter q).filter (fun a => !p a) = (l.filter fun a => !p a).filter q :=
    List.filter_comm ..
  rw [← kept, ← late]
  exact List.filter_append_perm p (l.filter q)

/-- Where some of a list have nothing to tell, it is enough to hear the others. -/
theorem flatMap_filter_not {f : α → List β} (h : ∀ a, p a = true → f a = []) (l : List α) :
    (l.filter fun a => !p a).flatMap f = l.flatMap f := by
  induction l with
  | nil => rfl
  | cons a l ih =>
    cases early : p a with
    | true => simp [early, ih, h a early]
    | false => simp [early, ih]

end Lists

/-! ### Arrows that are settled -/

namespace Bindings

variable {ids ids' : Bindings} {spec : ShapeSpec} {policy : Policy} {finality : Finality}

/-- Whether no end of an arrow dangles. -/
def settles (ids : Bindings) (spec : ShapeSpec) : Bool := (ids.dangling spec).isEmpty

/-- An arrow that is settled is drawn, whatever the policy and whether or not more text may come. -/
theorem verdict_of_settles (h : ids.settles spec = true) :
    ids.verdict policy finality spec = .draw := if_pos h

theorem verdict_more (h : ids.settles spec = false) : ids.verdict policy .more spec = .defer := by
  have dangles : (ids.dangling spec).isEmpty = false := h
  rw [dangling] at dangles
  simp [verdict, Endpoint.verdict, dangles]

/-- While more text may come exactly the settled arrows are drawn. -/
theorem verdict_more_eq_draw :
    decide (ids.verdict policy .more spec = .draw) = ids.settles spec := by
  cases h : ids.settles spec with
  | true => simp [verdict_of_settles h]
  | false => simp [verdict_more h]

/-- While more text may come all other arrows wait. -/
theorem verdict_more_eq_defer :
    decide (ids.verdict policy .more spec = .defer) = !ids.settles spec := by
  cases h : ids.settles spec with
  | true => simp [verdict_of_settles h]
  | false => simp [verdict_more h]

/-- Nothing is told about an arrow that is settled. -/
theorem unresolved_of_settles (h : ids.settles spec = true) :
    ids.unresolved policy finality spec = [] := by
  have none : ids.dangling spec = [] := List.isEmpty_iff.mp h
  rw [unresolved, verdict_of_settles h, none]
  rfl

/-- Nothing is told about ends while more text may come. -/
theorem unresolved_more : ids.unresolved policy .more spec = [] := by
  cases h : ids.settles spec with
  | true => exact unresolved_of_settles h
  | false => rw [unresolved, verdict_more h]

/-- An end that is bound, or needs not be, is the same with more bindings. -/
theorem Extends.endpoint (grown : ids.Extends ids') {ref : Option ShapeRef}
    (h : (ids.endpoint ref).missing? = none) : ids'.endpoint ref = ids.endpoint ref := by
  cases ref with
  | none => rfl
  | some r =>
    cases found : ids.resolve? r with
    | none => simp [Bindings.endpoint, found, Endpoint.missing?] at h
    | some id => simp [Bindings.endpoint, found, grown r id found]

theorem missing?_of_settles (h : ids.settles spec = true) :
    (ids.endpoint spec.source).missing? = none ∧ (ids.endpoint spec.target).missing? = none := by
  simpa [settles, dangling, Endpoint.dangling] using h

/-- More bindings leave an arrow that is settled. -/
theorem Extends.call (grown : ids.Extends ids') (h : ids.settles spec = true) :
    ids'.call spec = ids.call spec := by
  obtain ⟨tail, head⟩ := missing?_of_settles h
  rw [Bindings.call, Bindings.call, grown.endpoint tail, grown.endpoint head]

theorem Extends.settles (grown : ids.Extends ids') (h : ids.settles spec = true) :
    ids'.settles spec = true := by
  obtain ⟨tail, head⟩ := missing?_of_settles h
  rw [Bindings.settles, dangling, grown.endpoint tail, grown.endpoint head]
  exact h

/-! ### Arrows that waited

The arrows of a list that were settled have been drawn, and the others wait. Then the bindings have
grown, and more arrows stand behind those that wait. -/

variable (arrows more : List ShapeSpec)

/-- What was drawn early and what is drawn now is what is drawn of all. -/
theorem Extends.drawn_perm (grown : ids.Extends ids') :
    ((arrows.filter ids.settles).map ids.call ++
      ((arrows.filter (fun spec => !ids.settles spec) ++ more).filter
        fun spec => ids'.verdict policy finality spec = .draw).map ids'.call).Perm
    (((arrows ++ more).filter fun spec => ids'.verdict policy finality spec = .draw).map
      ids'.call) := by
  -- what was drawn early is what would be drawn now
  have early : (arrows.filter ids.settles).map ids.call =
      (arrows.filter ids.settles).map ids'.call := by
    apply List.map_congr_left
    intro spec mem
    exact (grown.call (List.mem_filter.mp mem).2).symm
  have drawn : ∀ spec, ids.settles spec = true →
      decide (ids'.verdict policy finality spec = .draw) = true := by
    intro spec settled
    exact decide_eq_true (verdict_of_settles (grown.settles settled))
  rw [early, List.filter_append, List.filter_append, ← List.map_append, ← List.append_assoc]
  exact ((filter_append_filter_perm drawn arrows).append_right _).map _

/-- What waits on is what waits of all: an arrow that was settled is not deferred now. -/
theorem Extends.filter_defer (grown : ids.Extends ids') :
    (arrows.filter (fun spec => !ids.settles spec) ++ more).filter
        (fun spec => ids'.verdict policy finality spec = .defer) =
      (arrows ++ more).filter fun spec => ids'.verdict policy finality spec = .defer := by
  rw [List.filter_append, List.filter_append, List.filter_filter]
  congr 1
  apply List.filter_congr
  intro spec _
  cases settled : ids.settles spec with
  | true => simp [verdict_of_settles (grown.settles settled)]
  | false => simp

/-- What is told now is what is told of all: there is nothing to tell of what was settled. -/
theorem Extends.flatMap_unresolved (grown : ids.Extends ids') :
    (arrows.filter (fun spec => !ids.settles spec) ++ more).flatMap
        (ids'.unresolved policy finality) =
      (arrows ++ more).flatMap (ids'.unresolved policy finality) := by
  rw [List.flatMap_append, List.flatMap_append, flatMap_filter_not]
  intro spec settled
  exact unresolved_of_settles (grown.settles settled)

end Bindings

/-! ### What a board shows -/

namespace Memory

variable {supply : Nat → SurfaceId} {board : Memory} {made : List Created}
  {commands : List Command}

/-- A board shows the shapes of some commands, each once and in order, and those of their arrows
that were drawn. -/
structure Shows (supply : Nat → SurfaceId) (board : Memory) (made : List Created) (ids : Bindings)
    (commands : List Command) (drawn : ShapeSpec → Bool) : Prop where
  holds : board.Holds supply made
  names : ids.Names (Created.shapes made)
  shapes : (Created.shapes made).map Created.call =
    (Command.shapes commands).map fun spec => ⟨spec, none, none⟩
  arrows : ((Created.arrows made).map Created.call).Perm
    (((Command.arrows commands).filter drawn).map ids.call)

/-- The shapes that a board shows, as they were asked for. -/
theorem Shows.map_spec_shapes {ids : Bindings} {drawn : ShapeSpec → Bool}
    (shows : board.Shows supply made ids commands drawn) :
    (Created.shapes made).map (·.call.spec) = Command.shapes commands := by
  have called := congrArg (List.map ShapeCall.spec) shows.shapes
  simpa [Function.comp_def] using called

/-- What one snapshot comes to. What has been drawn, in this snapshot or before, is what the
bindings behind it would draw of all arrows so far, and what waits is what they would defer. -/
theorem Shows.process {s : Session}
    (shows : Shows supply board made s.ids commands s.ids.settles)
    (waits : s.pending = (Command.arrows commands).filter fun spec => !s.ids.settles spec)
    (finality : Finality) (text : Text)
    (own : ((Command.shapes (commands ++ s.fresh text)).filterMap ShapeSpec.ident).Nodup) :
    let out := s.process (surface supply) finality text board
    Shows supply out.2.2 (made ++ out.1.created) out.2.1.ids (commands ++ s.fresh text)
        (fun spec => out.2.1.ids.verdict s.config.policy finality spec = .draw) ∧
      out.2.1.pending = (Command.arrows (commands ++ s.fresh text)).filter
        (fun spec => out.2.1.ids.verdict s.config.policy finality spec = .defer) ∧
      out.1.fates.diagnostics = (Command.arrows (commands ++ s.fresh text)).flatMap
        (out.2.1.ids.unresolved s.config.policy finality) := by
  have waiting : ∀ spec ∈ s.pending, spec.isArrow = true := by
    intro spec mem
    rw [waits] at mem
    exact Command.isArrow_of_mem_arrows (List.mem_of_mem_filter mem)
  have draws := shows.holds.drawBatch s.config.policy finality shows.names
    (Session.isSorted_batch waiting text) (by
      rw [shows.map_spec_shapes, Session.batch, ← Command.shapes_append]
      exact own)
  rw [Session.process_eq]
  generalize (surface supply).drawBatch s.config.policy finality (s.batch text) s.ids board =
    drawn at draws
  dsimp only [BatchReport.created]
  -- an arrow that waited is decided anew, so what was decided must outlast the batch
  have grown : s.ids.Extends drawn.2.1 := by
    have names := draws.names
    rw [Created.shapes_append] at names
    exact shows.names.extends_append names
  have arrows : (s.batch text).arrows =
      ((Command.arrows commands).filter fun spec => !s.ids.settles spec) ++
        Command.arrows (s.fresh text) := by
    rw [Session.batch, waits]
  refine ⟨⟨draws.holds, draws.names, ?_, ?_⟩, ?_, ?_⟩
  · rw [Created.shapes_append, List.map_append, shows.shapes, draws.shapes,
      Command.shapes_append, List.map_append]
    rfl
  · rw [Created.arrows_append, List.map_append, draws.arrows, arrows, Command.arrows_append]
    exact (shows.arrows.append_right _).trans (grown.drawn_perm _ _)
  · rw [draws.deferred, arrows, Command.arrows_append]
    exact grown.filter_defer _ _
  · rw [draws.diagnostics, arrows, Command.arrows_append]
    exact grown.flatMap_unresolved _ _

end Memory

end Whiteboard
