import Whiteboard.Command.Validation
import Whiteboard.Script.Problem
import Whiteboard.Surface.Basic

/-!
# Diagnostics

Whatever goes wrong between the text and the surface is told as a diagnostic, and drawing goes on.
-/

namespace Whiteboard

/-- One of the two ends of an arrow. -/
inductive ArrowEnd
  | tail
  | head
  deriving DecidableEq

/-- The key whose reference belongs to this end. -/
def ArrowEnd.key : ArrowEnd → Key
  | .tail => .source
  | .head => .target

/-- What became of an arrow with a reference that names no shape. -/
inductive Resolution
  /-- The arrow was not drawn. -/
  | skipped
  /-- The end was drawn at its literal place. -/
  | unbound
  deriving DecidableEq

/-- The text of a resolution, for people. -/
def Resolution.message : Resolution → Text
  | .skipped => "arrow skipped".toList
  | .unbound => "endpoint left unbound".toList

/-- Something that went wrong. -/
inductive Diagnostic
  /-- The script has a problem. -/
  | script (problem : Problem)
  /-- A command breaks a rule. -/
  | rejected (rejection : Rejection)
  /-- A reference of an arrow names no shape on the surface. -/
  | unresolved (ref : ShapeRef) (arrowEnd : ArrowEnd) (resolution : Resolution)
  /-- The surface did not create a shape. -/
  | surface (error : SurfaceError)
  deriving DecidableEq

namespace Diagnostic

/-- The code of a diagnostic, for machines. -/
def code : Diagnostic → Text
  | .script problem => problem.code
  | .rejected rejection => rejection.code
  | .unresolved _ _ _ => "E_UNRESOLVED_REFERENCE".toList
  | .surface error => error.code

/-- The text of a diagnostic, for people. -/
def message : Diagnostic → Text
  | .script problem => problem.message
  | .rejected rejection => "command rejected: ".toList ++ rejection.message
  | .unresolved ref arrowEnd resolution =>
    "unresolved reference ".toList ++ arrowEnd.key.name ++ ":".toList ++ ref.text ++ ": ".toList ++
      resolution.message
  | .surface error => "surface error: ".toList ++ error.message

/-- Whether what failed may succeed later. -/
def isRetryable : Diagnostic → Bool
  | .surface error => error.isRetryable
  | _ => false

end Diagnostic

end Whiteboard
