import Whiteboard.Script.Statement

/-!
# Snapshots

A snapshot is the whole text of a script so far. It is read from its first character every time.
-/

namespace Whiteboard

/-- The commands and problems of a list of sequences, in order. -/
def Sequence.parseAll (qs : List Sequence) : Parsed :=
  ⟨qs.flatMap fun q => q.parse.commands, qs.flatMap fun q => q.parse.problems⟩

namespace Markers

/-- The commands and problems of a text. Problems with markers come first. -/
def parse (m : Markers) (text : Text) : Parsed :=
  let segmentation := m.segment (m.tokens text)
  { problems := segmentation.problems } ++ Sequence.parseAll segmentation.sequences

end Markers

end Whiteboard
