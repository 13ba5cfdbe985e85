import Whiteboard.Proofs.Pending

/-!
# The end of a stream

The last snapshot closes its stream. Behind it nothing waits, and nothing of the stream is left that
a later snapshot could show: from then on a session tells and draws what a new session would that
knows the same names. Its logs remain, and its reports go on counting, but neither is looked at
again.
-/

namespace Whiteboard

/-- What is told about a snapshot, but for its number. -/
def BatchReport.unnumbered (report : BatchReport) : BatchReport := { report with batch := 0 }

namespace Session

variable {Board : Type} (S : Surface Board) {s s' : Session}

/-- A new session with the configuration of this one, that knows the same names. -/
def renewed (s : Session) : Session := { config := s.config, ids := s.ids }

/-- Two sessions that answer alike, though they may have logged and counted different snapshots. -/
structure AnswersLike (s s' : Session) : Prop where
  config : s.config = s'.config
  stream : s.stream = s'.stream
  pending : s.pending = s'.pending
  ids : s.ids = s'.ids

namespace AnswersLike

theorem fresh (like : s.AnswersLike s') (text : Text) : s.fresh text = s'.fresh text := by
  rw [Session.fresh, Session.fresh, like.stream, like.config]

theorem batch (like : s.AnswersLike s') (text : Text) : s.batch text = s'.batch text := by
  rw [Session.batch, Session.batch, like.fresh, like.pending]

/-- A snapshot is told and drawn alike. -/
theorem process (like : s.AnswersLike s') (finality : Finality) (text : Text) (board : Board) :
    let out := s.process S finality text board
    let out' := s'.process S finality text board
    out.1.unnumbered = out'.1.unnumbered ∧ out.2.2 = out'.2.2 ∧ out.2.1.AnswersLike out'.2.1 := by
  rw [process_eq, process_eq, like.fresh, like.batch, like.config, like.stream, like.ids]
  exact ⟨rfl, rfl, rfl, rfl, rfl, rfl⟩

/-- A request is answered alike. -/
theorem handle (like : s.AnswersLike s') (request : Request) (board : Board) :
    let out := s.handle S request board
    let out' := s'.handle S request board
    out.1.map BatchReport.unnumbered = out'.1.map BatchReport.unnumbered ∧
      out.2.2 = out'.2.2 ∧ out.2.1.AnswersLike out'.2.1 := by
  cases request with
  | submit text =>
    obtain ⟨told, drawn, like'⟩ := like.process S .more text board
    exact ⟨congrArg some told, drawn, like'⟩
  | finish text =>
    obtain ⟨told, drawn, like'⟩ := like.process S .last text board
    exact ⟨congrArg some told, drawn, like'⟩
  | reset => exact ⟨rfl, rfl, like.config, rfl, rfl, rfl⟩

/-- A list of requests is answered alike. -/
theorem handleAll (like : s.AnswersLike s') (requests : List Request) (board : Board) :
    let run := s.handleAll S requests board
    let run' := s'.handleAll S requests board
    run.1.map BatchReport.unnumbered = run'.1.map BatchReport.unnumbered ∧ run.2.2 = run'.2.2 := by
  induction requests generalizing s s' board with
  | nil => exact ⟨rfl, rfl⟩
  | cons request requests ih =>
    obtain ⟨told, drawn, like'⟩ := like.handle S request board
    obtain ⟨told', drawn'⟩ := ih like' (s.handle S request board).2.2
    simp only [handleAll_cons, List.map_append, ← Option.toList_map, told, told', ← drawn]
    exact ⟨trivial, drawn'⟩

end AnswersLike

/-- A session without a stream and without arrows that wait answers like a new one. -/
theorem answersLike_renewed (started : s.stream = {}) (settled : s.pending = []) :
    s.AnswersLike s.renewed :=
  ⟨rfl, started, settled, rfl⟩

/-- **A last snapshot closes its stream.** Whatever a session has been through, whatever the last
text is and whatever the surface answers, no arrow waits behind it. And whatever the session is
asked from then on, it tells the same, but for the numbers of its reports, and it calls the surface
in the same way, with the same answers, as a new session with the same configuration that knows the
same names. -/
theorem finish_closes (s : Session) (text : Text) (r : Recorded Board) :
    let closed := (s.handle S.recorded (.finish text) r).2
    closed.1.pending = [] ∧
      ∀ requests : List Request,
        let run := closed.1.handleAll S.recorded requests closed.2
        let anew := closed.1.renewed.handleAll S.recorded requests closed.2
        run.1.map BatchReport.unnumbered = anew.1.map BatchReport.unnumbered ∧
          run.2.2 = anew.2.2 := by
  intro closed
  have settled : closed.1.pending = [] := pending_handle_finish S.recorded s text r
  -- the stream is given up by the last snapshot, stale or not
  have started : closed.1.stream = {} := rfl
  exact ⟨settled, fun requests =>
    (answersLike_renewed started settled).handleAll S.recorded requests closed.2⟩

/-- What was known of the closed stream is told and drawn once more. -/
example :
    let circle := "action:create shape:circle x:0 y:0 id:1;".toList
    let run := handleAll (Memory.surface SurfaceId.mk) {} [.finish circle, .submit circle] {}
    run.1.map (·.created.length) = [1, 1] ∧ run.2.1.ids.resolve? ⟨1⟩ = some ⟨1⟩ := by
  decide +kernel

end Session

end Whiteboard
