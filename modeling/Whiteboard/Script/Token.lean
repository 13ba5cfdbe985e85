import Whiteboard.Script.Markers
import Whiteboard.Text.Blank

/-!
# Tokens

A script is read as one line of tokens with a space between neighbours. The terminator and the
markers are tokens of their own, whatever they are glued to in the text; everything else is cut at
white space.
-/

namespace Whiteboard

/-- The terminator of a statement. -/
def terminator : Text := [';']

namespace Markers

/-- The text with a space on either side of each terminator and each marker. The text is scanned
from the left, the longest marker that fits is copied whole, and the scan goes on behind it. -/
def spread (m : Markers) : Text → Text
  | [] => []
  | c :: s =>
    match _found : m.leading? (c :: s) with
    -- what the marker holds is not looked at again, not even a terminator in it
    | some w => ' ' :: w ++ ' ' :: spread m ((c :: s).drop w.length)
    | none => if c = ';' then ' ' :: ';' :: ' ' :: spread m s else c :: spread m s
termination_by s => s.length
decreasing_by
  · have := List.length_pos_iff.mpr (of_leading? _found).2.1
    simp only [List.length_drop, List.length_cons]
    omega
  all_goals simp

/-- The tokens of a text as one line: runs of white space become one space, and the terminator and
the markers stand alone. -/
def normalize (m : Markers) (s : Text) : Text := Text.unwords ((m.spread s).words Text.isBlank)

end Markers

/-- The tokens of a line. Only the space divides them. -/
def Token.ofLine (line : Text) : List Text := line.words (· = ' ')

/-- The tokens of a text. -/
def Markers.tokens (m : Markers) (s : Text) : List Text := Token.ofLine (m.normalize s)

end Whiteboard
