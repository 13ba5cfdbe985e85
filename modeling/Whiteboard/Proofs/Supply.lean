import Whiteboard.Proofs.Pending
import Whiteboard.Proofs.Streaming

/-!
# The ids that are given

A memory surface takes its ids from a supply, one after the other. So what is created from one
moment to a later one has the next ids of the supply, whoever asks for it and whatever it is; and if
the supply does not repeat itself, no id is given twice.
-/

namespace Whiteboard

/-! ### Drawing -/

namespace Memory

variable {supply : Nat → SurfaceId} {board board₁ board₂ board₃ : Memory} {ids : Bindings}
  {given given₁ given₂ : List SurfaceId}

/-- From one moment to a later one a board has given ids: the next ones of its supply. -/
structure Gives (supply : Nat → SurfaceId) (board board' : Memory) (given : List SurfaceId) :
    Prop where
  size : board'.size = board.size + given.length
  ids : given = (List.range' board.size given.length).map supply

theorem Gives.refl (supply : Nat → SurfaceId) (board : Memory) : Gives supply board board [] :=
  ⟨rfl, rfl⟩

theorem Gives.trans (first : Gives supply board₁ board₂ given₁)
    (second : Gives supply board₂ board₃ given₂) :
    Gives supply board₁ board₃ (given₁ ++ given₂) where
  size := by rw [second.size, first.size, List.length_append, Nat.add_assoc]
  ids := by
    rw [List.length_append, ← List.range'_append_1, List.map_append, ← first.ids, ← first.size,
      ← second.ids]

/-- No id is given twice. -/
theorem Gives.nodup (distinct : Function.Injective supply)
    (gives : Gives supply board₁ board₂ given) : given.Nodup := by
  rw [gives.ids]
  exact (List.nodup_range' 1).map distinct

variable (supply)

theorem gives_draw (settled : board.pending = []) (call : ShapeCall) :
    Gives supply board ((surface supply).draw call board).2 [supply board.size] := by
  rw [draw_of_settled supply settled]
  refine ⟨?_, rfl⟩
  simp [size, settled]

theorem Carries.gives_drawShapes (carries : board.Carries ids) (shapes : List ShapeSpec) :
    let drawn := (surface supply).drawShapes shapes ids board
    Gives supply board drawn.2.2 (drawn.1.created.map Created.id) := by
  induction shapes generalizing board ids with
  | nil => exact .refl supply board
  | cons spec shapes ih =>
    obtain ⟨grows, held⟩ := grows_draw supply carries.pending ⟨spec, none, none⟩
    have first := gives_draw supply carries.pending ⟨spec, none, none⟩
    have answer : ((surface supply).draw ⟨spec, none, none⟩ board).1 =
        .created (supply board.size) := by
      rw [draw_of_settled supply carries.pending]
    have rest := ih ((carries.grows grows).bindIdent spec held)
    simp only [Surface.drawShapes_cons, answer, Bindings.bindAnswer, Fates.created_cons,
      List.map_append]
    exact first.trans rest

variable (policy : Policy) (finality : Finality)

theorem Carries.gives_drawArrow (carries : board.Carries ids) (spec : ShapeSpec) :
    let drawn := (surface supply).drawArrow policy finality ids spec board
    Gives supply board drawn.2 (drawn.1.created?.toList.map Created.id) := by
  intro drawn
  have same : drawn = _ := carries.drawArrow_eq supply policy finality spec
  rw [same]
  cases ids.verdict policy finality spec with
  | draw =>
    have gives := gives_draw supply carries.pending (ids.call spec)
    rw [draw_of_settled supply carries.pending] at gives ⊢
    exact gives
  | skip => exact .refl supply board
  | defer => exact .refl supply board

theorem Carries.gives_drawArrows (carries : board.Carries ids) (arrows : List ShapeSpec) :
    let drawn := (surface supply).drawArrows policy finality ids arrows board
    Gives supply board drawn.2 (drawn.1.created.map Created.id) := by
  induction arrows generalizing board with
  | nil => exact .refl supply board
  | cons spec arrows ih =>
    obtain ⟨grows, -⟩ := carries.drawArrow supply policy finality spec
    have first := carries.gives_drawArrow supply policy finality spec
    rw [Surface.drawArrows]
    simp only [Fates.created_cons, List.map_append]
    exact first.trans (ih (carries.grows grows))

/-- The ids of what a batch creates are the next ones of the supply. -/
theorem Carries.gives_drawBatch (carries : board.Carries ids) (batch : Batch) :
    let drawn := (surface supply).drawBatch policy finality batch ids board
    Gives supply board drawn.2.2 (drawn.1.created.map Created.id) := by
  obtain ⟨-, carries', -⟩ := carries.drawShapes supply batch.shapes
  rw [Surface.drawBatch_eq]
  simp only [Fates.created_append, List.map_append]
  exact (carries.gives_drawShapes supply batch.shapes).trans
    (carries'.gives_drawArrows supply policy finality batch.arrows)

end Memory

/-! ### Sessions -/

namespace Session

variable (supply : Nat → SurfaceId) {board : Memory} {s : Session}

/-- The ids of what a snapshot creates are the next ones of the supply. -/
theorem Steady.gives_handle (steady : s.Steady board) (request : Request) :
    let out := s.handle (Memory.surface supply) request board
    Memory.Gives supply board out.2.2 ((created out.1.toList).map Created.id) := by
  cases request with
  | submit text =>
    have gives := steady.carries.gives_drawBatch supply s.config.policy .more (s.batch text)
    simpa [created, BatchReport.created, process_eq] using gives
  | finish text =>
    have gives := steady.carries.gives_drawBatch supply s.config.policy .last (s.batch text)
    simpa [created, BatchReport.created, process_eq] using gives
  | reset => exact .refl supply board

/-- The ids of what a run creates are the next ones of the supply. -/
theorem Steady.gives_handleAll (steady : s.Steady board) (requests : List Request) :
    let run := s.handleAll (Memory.surface supply) requests board
    Memory.Gives supply board run.2.2 ((created run.1).map Created.id) := by
  induction requests generalizing s board with
  | nil => exact .refl supply board
  | cons request requests ih =>
    have first := steady.gives_handle supply request
    have rest := ih (steady.handle supply request).1
    simp only [handleAll_cons, created, List.flatMap_append, List.map_append]
    exact first.trans rest

/-- A list of requests leaves a session steady. -/
theorem Steady.handleAll (steady : s.Steady board) (requests : List Request) :
    let run := s.handleAll (Memory.surface supply) requests board
    run.2.1.Steady run.2.2 := by
  induction requests generalizing s board with
  | nil => exact steady
  | cons request requests ih => exact ih (steady.handle supply request).1

end Session

end Whiteboard
