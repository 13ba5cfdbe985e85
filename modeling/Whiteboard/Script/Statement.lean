import Whiteboard.Command.Basic
import Whiteboard.Script.Problem
import Whiteboard.Script.Sequence

/-!
# Statements

A statement is opened by a token that holds `action:`, gives values to keys by tokens of the form
`key:value`, and is ended by the terminator or by the next statement. A quoted label may run over
several tokens. What is no part of a statement is ignored; a value that cannot be read is listed as
a problem, and its key is left without a value. A statement that is not ended, or whose action is
not known, yields no command.

## Main definitions

* `Draft` — a statement under construction
* `Statement.State` — where a reader stands between two tokens
* `Statement.step` — what one token does
* `Sequence.parse` — the commands and problems of a sequence

## Main results

* `Statement.run_append` — a list of tokens may be read in two parts
-/

namespace Whiteboard

/-- What was read from a script: the commands in order, and the problems in order. -/
@[ext] structure Parsed where
  commands : List Command := []
  problems : List Problem := []
  deriving DecidableEq

namespace Parsed

instance : Append Parsed := ⟨fun a b => ⟨a.commands ++ b.commands, a.problems ++ b.problems⟩⟩

@[simp] theorem commands_append (a b : Parsed) : (a ++ b).commands = a.commands ++ b.commands := rfl

@[simp] theorem problems_append (a b : Parsed) : (a ++ b).problems = a.problems ++ b.problems := rfl

@[simp] theorem append_empty (a : Parsed) : a ++ ({} : Parsed) = a :=
  Parsed.ext (by simp) (by simp)

@[simp] theorem empty_append (a : Parsed) : ({} : Parsed) ++ a = a := rfl

theorem append_assoc (a b c : Parsed) : a ++ b ++ c = a ++ (b ++ c) :=
  Parsed.ext (by simp) (by simp)

end Parsed

/-! ### Drafts -/

/-- A statement under construction. -/
structure Draft where
  /-- The action, if the statement names a known one. -/
  action : Option Action
  params : Params := {}
  deriving DecidableEq

namespace Draft

/-- The text that opens a statement, anywhere in a token. -/
def actionKey : Text := "action:".toList

/-- Whether a token opens a statement. -/
def opens (token : Text) : Bool := (token.after? actionKey).isSome

/-- The statement that a token opens: its action is what follows the first `action:`. -/
def ofToken (token : Text) : Draft := ⟨(token.after? actionKey).bind Action.read?, {}⟩

/-- The statement with a value given to a key, or taken from it by `none`. -/
def set (d : Draft) (key : Key) (v : Option Value) : Draft := { d with params := d.params.set key v }

/-- The command of an ended statement; without an action there is none. -/
def commit (d : Draft) : Parsed :=
  { commands := (d.action.map fun action => ⟨action, d.params⟩).toList }

end Draft

/-! ### The reader -/

namespace Statement

/-- Where a reader stands between two tokens. -/
inductive State
  /-- Outside any statement. -/
  | idle
  /-- At the start of an explicit sequence, where a comment may stand. -/
  | start
  /-- In a statement. -/
  | within (draft : Draft)
  /-- In a statement, behind the opening quote of a label. -/
  | label (draft : Draft) (text : Text)
  deriving DecidableEq

/-- The mark of a comment. -/
def comment : Text := "//".toList

/-- The integer that the value of a numeric key begins with, quotes aside. Its digits must denote
at most `2 ^ 63 - 1`, whatever its sign. -/
def readNumber? (raw : Text) : Option Int64 :=
  match (raw.trim (· = '"')).signed? with
  | some n => if n.natAbs ≤ Int64.maxValue.toInt then some (Int64.ofInt n) else none
  | none => none

/-- A label and one more piece of it. A space stands between them if neither is empty. -/
def extendLabel (label piece : Text) : Text :=
  if label.isEmpty || piece.isEmpty then label ++ piece else label ++ ' ' :: piece

/-- Gives a label to a statement. Behind an opening quote without its closing one, the label goes on
in the next token. -/
def assignLabel (d : Draft) : Text → State
  | '"' :: inner =>
    match Text.dropLast? '"' inner with
    | some text => .within (d.set .label (some (.text text)))
    | none => .label d inner
  | raw => .within (d.set .label (some (.text raw)))

/-- Gives a number to a key, or takes its value if there is none to read. -/
def assignNumber (d : Draft) (key : Key) (raw : Text) : State × Parsed :=
  match readNumber? raw with
  | some n => (.within (d.set key (some (.number n))), {})
  | none => (.within (d.set key none), { problems := [.unreadableNumber key raw] })

/-- Gives a reference to a key, or takes its value if there is none to read. -/
def assignReference (d : Draft) (key : Key) (raw : Text) : State × Parsed :=
  match ShapeRef.read? raw with
  | some r => (.within (d.set key (some (.reference r))), {})
  | none => (.within (d.set key none), { problems := [.unreadableReference key raw] })

/-- What a `key:value` token does to a statement. -/
def assign (d : Draft) (key : Key) (raw : Text) : State × Parsed :=
  match key with
  | .shape => (.within (d.set .shape (some (.text (raw.trim (· = '"'))))), {})
  | .label => (assignLabel d raw, {})
  | _ => if key.isNumeric then assignNumber d key raw else assignReference d key raw

/-- What a token does to an open statement that it neither ends nor follows with another: bare words
and unknown keys are ignored. -/
def scan (d : Draft) (token : Text) : State × Parsed :=
  match token.cut? ':' with
  | none => (.within d, {})
  | some (name, raw) =>
    match Key.ofName? name with
    | none => (.within d, {})
    | some key => assign d key raw

/-- What one token does. -/
def step (state : State) (token : Text) : State × Parsed :=
  if token = terminator then
    -- it ends whatever is open, a label without its closing quote too
    match state with
    | .idle | .start => (.idle, {})
    | .within d => (.idle, d.commit)
    | .label d text => (.idle, (d.set .label (some (.text text))).commit)
  else
    match state with
    | .idle => (if Draft.opens token then .within (.ofToken token) else .idle, {})
    | .start =>
      (if !comment.isPrefixOf token && Draft.opens token then .within (.ofToken token) else .idle,
        {})
    -- a statement that the next one follows is as good as ended
    | .within d => if Draft.opens token then (.within (.ofToken token), d.commit) else scan d token
    -- in a label nothing has a meaning of its own but the closing quote
    | .label d text =>
      match token.dropLast? '"' with
      | some piece => (.within (d.set .label (some (.text (extendLabel text piece)))), {})
      | none => (.label d (extendLabel text token), {})

/-- What a list of tokens does. -/
def run (state : State) : List Text → State × Parsed
  | [] => (state, {})
  | token :: tokens =>
    let (next, read) := step state token
    let (last, rest) := run next tokens
    (last, read ++ rest)

/-- Reading two lists of tokens is reading the first, and the second from where that ends. -/
theorem run_append (state : State) (ts us : List Text) :
    run state (ts ++ us) =
      ((run (run state ts).1 us).1, (run state ts).2 ++ (run (run state ts).1 us).2) := by
  induction ts generalizing state with
  | nil => rfl
  | cons t ts ih => simp [run, ih, Parsed.append_assoc]

end Statement

/-- The commands and problems of a sequence. A statement that no terminator ends is dropped. -/
def Sequence.parse (q : Sequence) : Parsed :=
  (Statement.run (if q.explicit then .start else .idle) q.tokens).2

end Whiteboard
