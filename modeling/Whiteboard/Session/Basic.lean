import Whiteboard.Config
import Whiteboard.Script.Snapshot
import Whiteboard.Session.Stream

/-!
# Sessions

A session follows a text that grows while it is written, and draws it. Each snapshot is the whole
text so far. It is read from the start every time, and only the commands beyond what is known of the
stream are checked and drawn. The log of commands and the log of arrows only grow.

A problem is told once: a snapshot tells only what the known one did not. An open sequence is no
problem while the text grows, so it is told only at the end of the stream.

Arrows that cannot be drawn yet wait, ahead of the arrows of later snapshots. The last snapshot ends
the stream: the policy settles what still waits, and the next snapshot begins a new stream. The
logs and the bindings stay.

## Main definitions

* `Session` — what is kept between snapshots
* `BatchReport` — what is told about a snapshot
* `Session.process` — what one snapshot does
* `Request`, `Session.handle` — everything that can be asked of a session
-/

namespace Whiteboard

/-- What is kept between two snapshots. -/
structure Session where
  config : Config := {}
  /-- Every command so far. -/
  commands : List Command := []
  /-- Every arrow so far that broke no rule. -/
  arrows : List ShapeSpec := []
  stream : Stream := {}
  /-- The arrows that wait. -/
  pending : List ShapeSpec := []
  /-- What the names of shapes mean. -/
  ids : Bindings := {}
  /-- How many snapshots there were. -/
  batches : Nat := 0
  deriving DecidableEq

/-- What is told about one snapshot. -/
structure BatchReport where
  /-- The number of the snapshot, from 1. -/
  batch : Nat
  /-- How many commands were new. -/
  newCommands : Nat
  /-- The problems that were not told before. -/
  problems : List Problem
  /-- The rules that new commands break, in the order of the commands. -/
  rejections : List Rejection
  /-- What became of the shapes and arrows. -/
  fates : Fates
  deriving DecidableEq

namespace BatchReport

/-- How many of the new commands break a rule. -/
def rejected (report : BatchReport) : Nat := report.rejections.length

/-- What the surface created, in the order of the calls. -/
def created (report : BatchReport) : List Created := report.fates.created

/-- How many arrows wait. -/
def deferred (report : BatchReport) : Nat := report.fates.deferred.length

/-- Everything that went wrong: in the text, in the commands, in the drawing. -/
def diagnostics (report : BatchReport) : List Diagnostic :=
  report.problems.map .script ++ report.rejections.map .rejected ++ report.fates.diagnostics

end BatchReport

namespace Session

variable {Board : Type}

/-- The problems of a snapshot that count: an open sequence is one only in the last snapshot. -/
def countedProblems (finality : Finality) (problems : List Problem) : List Problem :=
  match finality with
  | .more => problems.filter fun problem => !problem.isUnterminated
  | .last => problems

/-- What one snapshot does. -/
def process (S : Surface Board) (s : Session) (finality : Finality) (text : Text) (board : Board) :
    BatchReport × Session × Board :=
  let parsed := s.config.markers.parse text
  let problems := countedProblems finality parsed.problems
  let fresh := s.stream.fresh parsed.commands
  let batch := Batch.ofSpecs (fresh.filterMap Command.spec?)
  -- what waits stands before what is new
  let (fates, ids, board) :=
    S.drawBatch s.config.policy finality ⟨batch.shapes, s.pending ++ batch.arrows⟩ s.ids board
  ({ batch := s.batches + 1
     newCommands := fresh.length
     problems := s.stream.news problems
     rejections := fresh.filterMap Command.rejection?
     fates },
   { config := s.config
     commands := s.commands ++ fresh
     arrows := s.arrows ++ batch.arrows
     stream := s.stream.next finality parsed.commands problems
     pending := fates.deferred
     ids
     batches := s.batches + 1 },
   board)

/-- A session that begins anew, with its configuration. What was drawn stays on the surface. -/
def reset (s : Session) : Session := { config := s.config }

end Session

/-- What can be asked of a session. -/
inductive Request
  /-- A snapshot of a text that may still grow. -/
  | submit (text : Text)
  /-- The last snapshot of a text. -/
  | finish (text : Text)
  /-- To forget everything. -/
  | reset
  deriving DecidableEq

namespace Session

variable {Board : Type}

/-- What a request does; a snapshot has a report. -/
def handle (S : Surface Board) (s : Session) (request : Request) (board : Board) :
    Option BatchReport × Session × Board :=
  match request with
  | .submit text =>
    let (report, s, board) := s.process S .more text board
    (some report, s, board)
  | .finish text =>
    let (report, s, board) := s.process S .last text board
    (some report, s, board)
  | .reset => (none, s.reset, board)

/-- What a list of requests does, with the reports in order. -/
def handleAll (S : Surface Board) (s : Session) : List Request → Board →
    List BatchReport × Session × Board
  | [], board => ([], s, board)
  | request :: requests, board =>
    let (report, s, board) := s.handle S request board
    let (reports, s, board) := handleAll S s requests board
    (report.toList ++ reports, s, board)

end Session

end Whiteboard
