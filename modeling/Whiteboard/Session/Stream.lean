import Whiteboard.Drawing.Basic
import Whiteboard.Script.Statement
import Whiteboard.Session.Unseen

/-!
# Streams

A stream is a text that grows from snapshot to snapshot. What is known of it are the commands and
the problems of one snapshot; a later snapshot is compared with that one. A snapshot whose commands
are a strict prefix of the known ones came late, and changes nothing.
-/

namespace Whiteboard

/-- What is known of a stream. At its start that is nothing. -/
structure Stream where
  /-- The commands of the known snapshot. -/
  commands : List Command := []
  /-- The problems of the known snapshot. -/
  problems : List Problem := []
  deriving DecidableEq

namespace Stream

/-- How many of a snapshot's commands are known. -/
def shared (stream : Stream) (commands : List Command) : Nat :=
  commonPrefix stream.commands commands

/-- The commands of a snapshot that are new: those behind the known ones. -/
def fresh (stream : Stream) (commands : List Command) : List Command :=
  commands.drop (stream.shared commands)

/-- The problems of a snapshot that are new: each known one accounts for one equal problem. -/
def news (stream : Stream) (problems : List Problem) : List Problem :=
  unseen stream.problems problems

/-- Whether a snapshot with these commands came late: all are known, and more. -/
def isStale (stream : Stream) (commands : List Command) : Bool :=
  stream.shared commands = commands.length && stream.shared commands < stream.commands.length

/-- What is known after a snapshot. The last one ends the stream. -/
def next (stream : Stream) (finality : Finality) (commands : List Command)
    (problems : List Problem) : Stream :=
  match finality with
  | .last => {}
  | .more => if stream.isStale commands then stream else ⟨commands, problems⟩

end Stream

end Whiteboard
