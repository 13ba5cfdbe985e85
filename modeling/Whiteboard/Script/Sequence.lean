import Whiteboard.Script.Problem
import Whiteboard.Script.Token

/-!
# Sequences

The tokens of a script are grouped at the markers. What stands between an opening marker and the
next marker is an explicit sequence, even if it is empty. What stands elsewhere is loose, and is
kept only if a terminator in it ends some statement. Markers without a partner are plain
boundaries, and are listed as problems.
-/

namespace Whiteboard

/-- A group of tokens. -/
structure Sequence where
  tokens : List Text
  /-- An opening marker stands before the tokens. -/
  explicit : Bool
  /-- The opening marker has its closing one. -/
  closed : Bool
  deriving DecidableEq

/-- The sequences of a script, and the problems with its markers. -/
structure Segmentation where
  sequences : List Sequence := []
  problems : List Problem := []
  deriving DecidableEq

namespace Segmentation

instance : Append Segmentation :=
  ⟨fun a b => ⟨a.sequences ++ b.sequences, a.problems ++ b.problems⟩⟩

@[simp] theorem sequences_append (a b : Segmentation) :
    (a ++ b).sequences = a.sequences ++ b.sequences := rfl

@[simp] theorem problems_append (a b : Segmentation) :
    (a ++ b).problems = a.problems ++ b.problems := rfl

/-- A run of tokens between two boundaries. A loose run without a terminator is dropped. -/
def ofRun (run : List Text) (explicit closed : Bool) : Segmentation :=
  if explicit || run.contains terminator then { sequences := [⟨run, explicit, closed⟩] } else {}

/-- A marker without its partner. -/
def ofMismatch (marker : Text) (mismatch : Mismatch) : Segmentation :=
  { problems := [.unpaired marker mismatch] }

end Segmentation

namespace Markers

/-- The segmentation of the tokens that are left, when `run` are the tokens since the last boundary
and `inside` tells whether that was an opening marker. -/
def segmentFrom (m : Markers) (inside : Bool) (run : List Text) : List Text → Segmentation
  | [] =>
    .ofRun run inside false ++ if inside then .ofMismatch m.opening .unterminated else {}
  | t :: ts =>
    -- two equal markers both open
    if t = m.opening then
      .ofRun run inside false ++ (if inside then .ofMismatch t .nestedOpening else {}) ++
        segmentFrom m true [] ts
    else if t = m.closing then
      .ofRun run inside inside ++ (if inside then {} else .ofMismatch t .closingWithoutOpening) ++
        segmentFrom m false [] ts
    else segmentFrom m inside (run ++ [t]) ts

/-- The sequences of a list of tokens. -/
def segment (m : Markers) (tokens : List Text) : Segmentation := segmentFrom m false [] tokens

end Markers

end Whiteboard
