import Mathlib.Data.List.Induction
import Whiteboard.Proofs.Calls
import Whiteboard.Proofs.Known
import Whiteboard.Session.Basic

/-!
# Runs of a session

What one snapshot adds to a session, part by part, and how a list of requests is handled in two
parts. Every theorem about sessions is built from these.
-/

namespace Whiteboard

namespace Command

/-- The specifications that commands ask for; a command that breaks a rule asks for none. -/
def specs (commands : List Command) : List ShapeSpec := commands.filterMap spec?

/-- The shapes other than arrows that commands ask for. -/
def shapes (commands : List Command) : List ShapeSpec :=
  (specs commands).filter fun spec => !spec.isArrow

/-- The arrows that commands ask for. -/
def arrows (commands : List Command) : List ShapeSpec := (specs commands).filter ShapeSpec.isArrow

@[simp] theorem specs_append (a b : List Command) : specs (a ++ b) = specs a ++ specs b :=
  List.filterMap_append

@[simp] theorem shapes_append (a b : List Command) : shapes (a ++ b) = shapes a ++ shapes b := by
  simp [shapes]

@[simp] theorem arrows_append (a b : List Command) : arrows (a ++ b) = arrows a ++ arrows b := by
  simp [arrows]

theorem isArrow_of_mem_arrows {commands : List Command} {spec : ShapeSpec}
    (h : spec ∈ arrows commands) : spec.isArrow = true :=
  (List.mem_filter.mp h).2

end Command

/-- Only the drawing tells of anything but the script and its commands. -/
theorem BatchReport.filter_diagnostics (report : BatchReport) {p : Diagnostic → Bool}
    (script : ∀ problem, p (.script problem) = false)
    (rejected : ∀ rejection, p (.rejected rejection) = false) :
    report.diagnostics.filter p = report.fates.diagnostics.filter p := by
  simp [diagnostics, List.filter_map, Function.comp_def, script, rejected]

namespace Session

variable {Board : Type}

/-- The commands of a snapshot that are new. -/
def fresh (s : Session) (text : Text) : List Command :=
  s.stream.fresh (s.config.markers.parse text).commands

/-- What is drawn for a snapshot: its new shapes, and behind the arrows that wait its new ones. -/
def batch (s : Session) (text : Text) : Batch :=
  ⟨Command.shapes (s.fresh text), s.pending ++ Command.arrows (s.fresh text)⟩

variable (S : Surface Board) (s : Session) (finality : Finality) (text : Text) (board : Board)

/-- What one snapshot does, part by part. -/
theorem process_eq :
    s.process S finality text board =
      let problems := countedProblems finality (s.config.markers.parse text).problems
      let drawn := S.drawBatch s.config.policy finality (s.batch text) s.ids board
      ({ batch := s.batches + 1
         newCommands := (s.fresh text).length
         problems := s.stream.news problems
         rejections := (s.fresh text).filterMap Command.rejection?
         fates := drawn.1 },
       { config := s.config
         commands := s.commands ++ s.fresh text
         arrows := s.arrows ++ Command.arrows (s.fresh text)
         stream := s.stream.next finality (s.config.markers.parse text).commands problems
         pending := drawn.1.deferred
         ids := drawn.2.1
         batches := s.batches + 1 },
       drawn.2.2) := rfl

theorem fates_process :
    (s.process S finality text board).1.fates =
      (S.drawBatch s.config.policy finality (s.batch text) s.ids board).1 := by
  rw [process_eq]

theorem ids_process :
    (s.process S finality text board).2.1.ids =
      (S.drawBatch s.config.policy finality (s.batch text) s.ids board).2.1 := by
  rw [process_eq]

/-- The arrows that wait are arrows, and remain so. -/
theorem isSorted_batch {s : Session} (h : ∀ spec ∈ s.pending, spec.isArrow = true) (text : Text) :
    (s.batch text).IsSorted where
  shapes spec hspec := by simpa using (List.mem_filter.mp hspec).2
  arrows spec hspec := by
    rcases List.mem_append.mp hspec with hspec | hspec
    · exact h spec hspec
    · exact Command.isArrow_of_mem_arrows hspec

theorem isArrow_pending_process {s : Session} (h : ∀ spec ∈ s.pending, spec.isArrow = true) :
    ∀ spec ∈ (s.process S finality text board).2.1.pending, spec.isArrow = true := by
  intro spec hspec
  -- what waits behind a batch are some of its arrows
  have waiting := S.deferred_drawBatch_sublist s.config.policy finality (s.batch text) s.ids board
  exact (isSorted_batch h text).arrows spec (waiting.subset hspec)

/-- A snapshot asks for each of its new shapes once, in order, and for no other shape. -/
theorem ofShapes_calls_process {s : Session} (h : ∀ spec ∈ s.pending, spec.isArrow = true) :
    ShapeCall.ofShapes (s.process S finality text board).1.fates.calls =
      (Command.shapes (s.fresh text)).map fun spec => ⟨spec, none, none⟩ :=
  S.ofShapes_calls_drawBatch s.config.policy finality (isSorted_batch h text) s.ids board

/-! ### Lists of requests -/

variable {s board}

@[simp] theorem handle_submit :
    s.handle S (.submit text) board =
      (some (s.process S .more text board).1, (s.process S .more text board).2) := rfl

@[simp] theorem handle_finish :
    s.handle S (.finish text) board =
      (some (s.process S .last text board).1, (s.process S .last text board).2) := rfl

@[simp] theorem handle_reset : s.handle S .reset board = (none, s.reset, board) := rfl

/-- A list of requests is handled one by one. -/
theorem handleAll_cons (request : Request) (requests : List Request) :
    s.handleAll S (request :: requests) board =
      let first := s.handle S request board
      let rest := first.2.1.handleAll S requests first.2.2
      (first.1.toList ++ rest.1, rest.2) := rfl

/-- A list of requests may be handled in two parts. -/
theorem handleAll_append (s : Session) (requests more : List Request) (board : Board) :
    s.handleAll S (requests ++ more) board =
      let first := s.handleAll S requests board
      let rest := first.2.1.handleAll S more first.2.2
      (first.1 ++ rest.1, rest.2) := by
  induction requests generalizing s board with
  | nil => rfl
  | cons request requests ih => simp [handleAll_cons, ih]

/-- The last of a list of requests is handled behind the others. -/
theorem handleAll_concat (requests : List Request) (request : Request) :
    s.handleAll S (requests ++ [request]) board =
      let before := s.handleAll S requests board
      let last := before.2.1.handle S request before.2.2
      (before.1 ++ last.1.toList, last.2) := by
  simp [handleAll_append, handleAll]

/-- The configuration stays. -/
theorem config_handle (request : Request) : (s.handle S request board).2.1.config = s.config := by
  cases request <;> rfl

theorem config_handleAll (requests : List Request) :
    (s.handleAll S requests board).2.1.config = s.config := by
  induction requests generalizing s board with
  | nil => rfl
  | cons request requests ih =>
    rw [handleAll_cons]
    exact ih.trans (config_handle S request)

/-- The calls that the reports of a run tell. -/
def calls (reports : List BatchReport) : List ShapeCall := reports.flatMap fun r => r.fates.calls

@[simp] theorem calls_append (a b : List BatchReport) : calls (a ++ b) = calls a ++ calls b :=
  List.flatMap_append

theorem adds_process (r : Recorded Board) :
    r.Adds (s.process S.recorded finality text r).2.2
      (s.process S.recorded finality text r).1.fates.calls :=
  Recorded.adds_drawBatch S s.config.policy finality (s.batch text) s.ids r

theorem adds_handle (request : Request) (r : Recorded Board) :
    r.Adds (s.handle S.recorded request r).2.2
      (calls (s.handle S.recorded request r).1.toList) := by
  cases request with
  | submit text => simpa [calls] using adds_process S .more text r
  | finish text => simpa [calls] using adds_process S .last text r
  | reset => exact .refl r

/-- The creation calls that were recorded in a run are those that its reports tell. -/
theorem adds_handleAll (requests : List Request) (r : Recorded Board) :
    r.Adds (s.handleAll S.recorded requests r).2.2
      (calls (s.handleAll S.recorded requests r).1) := by
  induction requests generalizing s r with
  | nil => exact .refl r
  | cons request requests ih =>
    rw [handleAll_cons]
    simp only [calls_append]
    exact (adds_handle S request r).trans (ih _)

/-- If nothing is reset, the rejections that were told are those of the logged commands. -/
theorem rejections_handleAll (s : Session) {requests : List Request}
    (h : ∀ request ∈ requests, request ≠ .reset) (board : Board) :
    s.commands.filterMap Command.rejection? ++
        (s.handleAll S requests board).1.flatMap BatchReport.rejections =
      (s.handleAll S requests board).2.1.commands.filterMap Command.rejection? := by
  induction requests generalizing s board with
  | nil => simp [handleAll]
  | cons request requests ih =>
    have later : ∀ request ∈ requests, request ≠ .reset := fun r mem =>
      h r (List.mem_cons_of_mem _ mem)
    -- a snapshot logs its new commands, and tells of those that break a rule
    have step : ∀ finality text,
        (s.process S finality text board).2.1.commands.filterMap Command.rejection? =
          s.commands.filterMap Command.rejection? ++
            (s.process S finality text board).1.rejections := by
      intro finality text
      rw [process_eq]
      exact List.filterMap_append
    rw [handleAll_cons]
    cases request with
    | submit text =>
      have rest := ih (s.process S .more text board).2.1 later (s.process S .more text board).2.2
      rw [step] at rest
      simpa using rest
    | finish text =>
      have rest := ih (s.process S .last text board).2.1 later (s.process S .last text board).2.2
      rw [step] at rest
      simpa using rest
    | reset => exact absurd rfl (h .reset List.mem_cons_self)

end Session

end Whiteboard
