import Whiteboard.Drawing.Basic
import Whiteboard.Script.Markers
import Whiteboard.Text.Blank
import Whiteboard.Text.Quoted

/-!
# Configuration

The markers and the policy of an interpreter, read from named variables. A variable that is not set
leaves the default; white space around a value does not count. A marker must be one word that no
terminator cuts, or the script would never show it as a token.
-/

namespace Whiteboard

/-- How scripts are read and drawn. -/
structure Config where
  markers : Markers := {}
  policy : Policy := .unbind
  deriving DecidableEq

/-- A variable of the configuration. -/
inductive Setting
  | opening
  | closing
  | policy
  deriving DecidableEq

/-- The name of a variable. -/
def Setting.name : Setting → Text
  | .opening => "BOARDSCRIPT_SEQUENCE_START".toList
  | .closing => "BOARDSCRIPT_SEQUENCE_END".toList
  | .policy => "BOARDSCRIPT_UNRESOLVED_ARROWS".toList

/-- What is wrong with the variables. -/
inductive ConfigError
  /-- The value is no usable marker. -/
  | invalidMarker (setting : Setting)
  /-- Both markers are this one. -/
  | identicalMarkers (marker : Text)
  /-- The value names no policy. -/
  | unknownPolicy (raw : Text)
  deriving DecidableEq

/-- The text of an error, for people. -/
def ConfigError.message : ConfigError → Text
  | .invalidMarker setting => setting.name ++ " must not be empty or contain whitespace".toList
  | .identicalMarkers marker =>
    "sequence start and end markers must differ (both ".toList ++ marker.quote ++ ")".toList
  | .unknownPolicy raw =>
    "unknown unresolved-arrow policy '".toList ++ raw ++ "' (expected 'skip' or 'unbind')".toList

namespace Config

/-- A word that may be a marker: not empty, without white space and terminators. -/
def isUsable (word : Text) : Bool :=
  !word.isEmpty && !word.any Text.isBlank && !word.contains ';'

/-- The marker that the value of a variable asks for. -/
def readMarker (setting : Setting) (value : Option Text) (default : Text) :
    Except ConfigError Text :=
  match value with
  | none => .ok default
  | some raw =>
    let word := raw.trim Text.isBlank
    if isUsable word then .ok word else .error (.invalidMarker setting)

/-- The policy that the value of a variable asks for. -/
def readPolicy (value : Option Text) : Except ConfigError Policy :=
  match value with
  | none => .ok .unbind
  | some raw =>
    let word := raw.trim Text.isBlank
    if word = "unbind".toList then .ok .unbind
    else if word = "skip".toList then .ok .skip
    else .error (.unknownPolicy word)

/-- The configuration that variables ask for, or the first thing that is wrong with them. -/
def ofLookup (lookup : Text → Option Text) : Except ConfigError Config := do
  let default : Markers := {}
  let opening ← readMarker .opening (lookup Setting.opening.name) default.opening
  let closing ← readMarker .closing (lookup Setting.closing.name) default.closing
  if opening = closing then
    throw (.identicalMarkers opening)
  let policy ← readPolicy (lookup Setting.policy.name)
  return ⟨⟨opening, closing⟩, policy⟩

/-- The configuration that variables ask for. A value that is no UTF-8 counts as not set. -/
def ofBytes (lookup : Text → Option ByteArray) : Except ConfigError Config :=
  ofLookup fun name => (lookup name).bind fun bytes => (String.fromUTF8? bytes).map String.toList

end Config

end Whiteboard
