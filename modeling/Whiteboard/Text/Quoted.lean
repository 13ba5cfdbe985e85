import Whiteboard.Text.Basic
import Whiteboard.Text.Printable

/-!
# Quoted texts

A message shows a text between quotes, so that a reader sees where it begins and ends and which
characters it holds.
-/

namespace Whiteboard.Text

/-- One character of a quoted text. -/
def escape (c : Char) : Text :=
  if c = '"' then ['\\', '"']
  else if c = '\\' then ['\\', '\\']
  else if c = '\t' then ['\\', 't']
  else if c = '\r' then ['\\', 'r']
  else if c = '\n' then ['\\', 'n']
  else if c.toNat = 0 then ['\\', '0']
  else if isPrintable c then [c]
  else ['\\', 'u', '\x7b'] ++ Nat.toDigits 16 c.toNat ++ ['\x7d']

/-- The text between quotes, each character in a form that can be seen. -/
def quote (s : Text) : Text := '"' :: s.flatMap escape ++ ['"']

end Whiteboard.Text
