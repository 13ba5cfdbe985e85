import Whiteboard.Command.Key
import Whiteboard.Text.Quoted

/-!
# Problems in a script

A script may hold anything, so nothing in it is fatal. What was dropped or patched while it was
read is listed as a problem.
-/

namespace Whiteboard

/-- How a marker failed to find its partner. -/
inductive Mismatch
  /-- A closing marker with no sequence open. -/
  | closingWithoutOpening
  /-- An opening marker inside an open sequence. -/
  | nestedOpening
  /-- The text ended inside an open sequence. -/
  | unterminated
  deriving DecidableEq

/-- The text of a mismatch, for people. -/
def Mismatch.message : Mismatch → Text
  | .closingWithoutOpening => "end marker without start".toList
  | .nestedOpening => "start marker inside open sequence".toList
  | .unterminated => "sequence not terminated".toList

/-- What was wrong with a script. -/
inductive Problem
  /-- A marker without its partner. -/
  | unpaired (marker : Text) (mismatch : Mismatch)
  /-- The value of a numeric key is no number. -/
  | unreadableNumber (key : Key) (raw : Text)
  /-- The value of a reference key is no reference. -/
  | unreadableReference (key : Key) (raw : Text)
  deriving DecidableEq

namespace Problem

/-- The code of a problem, for machines. -/
def code : Problem → Text
  | .unpaired _ _ => "E_SEGMENTATION_MISMATCH".toList
  | .unreadableNumber _ _ => "E_UNPARSEABLE_NUMERIC_FIELD".toList
  | .unreadableReference _ _ => "E_UNPARSEABLE_REFERENCE".toList

/-- The text of a problem, for people. -/
def message : Problem → Text
  | .unpaired marker mismatch =>
    "segmentation mismatch on ".toList ++ marker.quote ++ ": ".toList ++ mismatch.message
  | .unreadableNumber key raw =>
    "unparseable numeric field ".toList ++ key.name ++ ": ".toList ++ raw.quote
  | .unreadableReference key raw =>
    "unparseable reference ".toList ++ key.name ++ ": ".toList ++ raw.quote

/-- Whether the problem is that the text ended inside a sequence, as any text may that is still
growing. -/
def isUnterminated : Problem → Bool
  | .unpaired _ .unterminated => true
  | _ => false

end Problem

end Whiteboard
