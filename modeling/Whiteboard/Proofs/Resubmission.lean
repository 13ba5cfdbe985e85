import Whiteboard.Proofs.Difference
import Whiteboard.Proofs.Pending
import Whiteboard.Proofs.Known

/-!
# The same snapshot again

A snapshot that is sent twice draws nothing the second time, logs nothing, and leaves what is known
as it is. Only its problems may be told again: a snapshot that came late does not become the known
one, and so is told of the same problems as before.
-/

namespace Whiteboard

namespace Stream

variable (stream : Stream) (commands : List Command) (problems : List Problem)

/-- A snapshot that is known did not come late. -/
theorem isStale_self : Stream.isStale ⟨commands, problems⟩ commands = false :=
  Bool.eq_false_iff.mpr fun stale => (isStale_iff.mp stale).2 rfl

/-- The same snapshot again changes nothing in what is known. -/
theorem next_next :
    (stream.next .more commands problems).next .more commands problems =
      stream.next .more commands problems := by
  unfold next
  cases stale : stream.isStale commands with
  | true => simp [stale]
  | false => simp [isStale_self]

/-- The same snapshot again has no new commands. -/
theorem fresh_next : (stream.next .more commands problems).fresh commands = [] := by
  apply fresh_of_isPrefix
  rw [commands_next_more]
  split_ifs with late
  · exact late.1
  · exact List.prefix_rfl

/-- The same snapshot again has no new problems, unless it came late. Then it has those that it had
before. -/
theorem news_next :
    (stream.next .more commands problems).news problems =
      if stream.isStale commands then stream.news problems else [] := by
  unfold next
  cases stream.isStale commands with
  | true => rfl
  | false => exact unseen_self problems

end Stream

namespace Memory

variable (supply : Nat → SurfaceId) (policy : Policy) {board : Memory} {ids : Bindings}

/-- Arrows with references that are not bound wait, and the board stays as it is. -/
theorem Carries.drawArrows_of_waiting (carries : board.Carries ids) {arrows : List ShapeSpec}
    (h : ∀ spec ∈ arrows, ids.binds spec = false) :
    (surface supply).drawArrows policy .more ids arrows board =
      (arrows.map Fate.deferred, board) := by
  induction arrows with
  | nil => rfl
  | cons spec arrows ih =>
    obtain ⟨unbound, later⟩ := List.forall_mem_cons.mp h
    have waits : ids.verdict policy .more spec = .defer :=
      Bindings.verdict_more (Bindings.settles_eq_binds ▸ unbound)
    rw [Surface.drawArrows, carries.drawArrow_eq supply, waits]
    simp [ih later]

end Memory

namespace Fates

variable (arrows : List ShapeSpec)

/-- Of arrows that wait, none was created. -/
theorem created_of_deferred : created (arrows.map .deferred) = [] := by
  simp [created, List.filterMap_map, Function.comp_def, Fate.created?]

theorem deferred_of_deferred : deferred (arrows.map .deferred) = arrows := by
  simp [deferred, List.filterMap_map, Function.comp_def, Fate.deferred?]

end Fates

/-- Of arrows that wait, nothing is told. -/
theorem BatchReport.diagnostics_of_deferred (batch newCommands : Nat) (problems : List Problem)
    (arrows : List ShapeSpec) :
    diagnostics ⟨batch, newCommands, problems, [], arrows.map .deferred⟩ =
      problems.map .script := by
  simp [diagnostics, Fates.diagnostics, List.flatMap_map, Fate.diagnostics]

namespace Session

variable (supply : Nat → SurfaceId) {s : Session} {board : Memory}

/-- A snapshot with nothing new in it leaves a steady session and its board as they are. -/
theorem Steady.process_of_known (steady : s.Steady board) {text : Text}
    (known : s.fresh text = []) :
    let problems := countedProblems .more (s.config.markers.parse text).problems
    s.process (Memory.surface supply) .more text board =
      ({ batch := s.batches + 1
         newCommands := 0
         problems := s.stream.news problems
         rejections := []
         fates := s.pending.map .deferred },
       { s with
         stream := s.stream.next .more (s.config.markers.parse text).commands problems
         batches := s.batches + 1 },
       board) := by
  have batch : s.batch text = ⟨[], s.pending⟩ := by
    simp [Session.batch, known, Command.shapes, Command.arrows, Command.specs]
  have drawn := steady.carries.drawArrows_of_waiting supply s.config.policy
    fun spec mem => (steady.waits spec mem).2
  have waiting := Fates.deferred_of_deferred s.pending
  rw [process_eq, batch, Surface.drawBatch_eq]
  simp [Surface.drawShapes, drawn, known, waiting, Command.arrows, Command.specs]

end Session

namespace Shared

variable (supply : Nat → SurfaceId)

/-- **The same snapshot again.** Sessions share a memory surface, and were asked for anything in any
order; then one of them is sent a snapshot twice. The second time nothing is logged, rejected or
drawn, as many arrows wait as before, and the session and the surface are left as they were but for
the number of the snapshot. Nothing is told either, unless the snapshot came late: then all the
problems are told that were told the first time. -/
theorem submit_twice (configs : List Config) (requests : List (Nat × Request)) {index : Nat}
    {s : Session} (text : Text)
    (h : ((start configs {}).handleAll (Memory.surface supply) requests).2.sessions[index]? =
      some s) :
    let S := Memory.surface supply
    let board := ((start configs {}).handleAll S requests).2.board
    let first := s.handle S (.submit text) board
    let second := first.2.1.handle S (.submit text) first.2.2
    let commands := (s.config.markers.parse text).commands
    ∃ report again,
      first.1 = some report ∧ second.1 = some again ∧
      again.newCommands = 0 ∧ again.rejected = 0 ∧ again.created = [] ∧
      again.deferred = report.deferred ∧
      again.diagnostics =
        (if commands <+: s.stream.commands ∧ commands ≠ s.stream.commands then
          report.problems.map .script
        else []) ∧
      second.2 = ({ first.2.1 with batches := first.2.1.batches + 1 }, first.2.2) := by
  intro S board first second commands
  have steady : s.Steady board :=
    ((steady_start configs).handleAll supply requests).sessions s (List.mem_of_getElem? h)
  obtain ⟨steady', -⟩ := steady.handle supply (.submit text)
  -- behind the first time, what is known has all commands of the snapshot
  have known : first.2.1.fresh text = [] := Stream.fresh_next s.stream _ _
  have again : second = _ := congrArg (fun out => (some out.1, out.2))
    (steady'.process_of_known supply known)
  have created := Fates.created_of_deferred first.2.1.pending
  have deferred := congrArg List.length (Fates.deferred_of_deferred first.2.1.pending)
  let problems := Session.countedProblems .more (s.config.markers.parse text).problems
  have news := Stream.news_next s.stream commands problems
  simp only [Stream.isStale_iff] at news
  rw [again]
  refine ⟨_, _, rfl, rfl, rfl, rfl, created, deferred, ?_, ?_⟩
  · refine (BatchReport.diagnostics_of_deferred _ _ _ _).trans
      ((congrArg (List.map Diagnostic.script) news).trans ?_)
    split <;> rfl
  · exact congrArg (fun stream => (({ first.2.1 with
      stream, batches := first.2.1.batches + 1 } : Session), first.2.2))
      (Stream.next_next s.stream _ _)

/-- A circle, and a snapshot that was cut in a number of it. -/
def cutSnapshots : Text × Text :=
  ("START_SEQUENCE action:create shape:circle x:-5 y:1;".toList,
   "START_SEQUENCE action:create shape:circle x:-".toList)

/-- A snapshot that comes late and was cut in a number tells twice that it is none. -/
theorem submit_twice_cut :
    let S := Memory.surface SurfaceId.mk
    let w := ((start [{}] {}).handleAll S [(0, .submit cutSnapshots.1)]).2
    let s := w.sessions.headD { config := {} }
    let first := s.handle S (.submit cutSnapshots.2) w.board
    let second := first.2.1.handle S (.submit cutSnapshots.2) first.2.2
    let told : List Diagnostic := [.script (.unreadableNumber .x ['-'])]
    w.sessions[0]? = some s ∧
      first.1.map BatchReport.diagnostics = some told ∧
      second.1.map BatchReport.diagnostics = some told ∧
      second.2 = ({ first.2.1 with batches := first.2.1.batches + 1 }, first.2.2) := by
  intro S w s first second told
  have here : w.sessions[0]? = some s := rfl
  have late : (s.config.markers.parse cutSnapshots.2).commands <+: s.stream.commands ∧
      (s.config.markers.parse cutSnapshots.2).commands ≠ s.stream.commands := by
    decide +kernel
  have told_first : first.1.map BatchReport.diagnostics = some told := by decide +kernel
  have found : first.1.map BatchReport.problems = some [.unreadableNumber .x ['-']] := by
    decide +kernel
  obtain ⟨report, again, one, two, -, -, -, -, diagnostics, same⟩ :=
    submit_twice SurfaceId.mk [{}] [(0, .submit cutSnapshots.1)] cutSnapshots.2 here
  rw [if_pos late] at diagnostics
  have problems : report.problems = [.unreadableNumber .x ['-']] :=
    Option.some_inj.mp ((congrArg _ one).symm.trans found)
  refine ⟨here, told_first, ?_, same⟩
  rw [problems] at diagnostics
  exact (congrArg _ two).trans (congrArg some diagnostics)

end Shared

end Whiteboard
