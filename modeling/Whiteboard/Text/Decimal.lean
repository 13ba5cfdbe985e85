import Whiteboard.Text.Basic

/-!
# Decimal numbers in texts

Only the ASCII digits count. A number may stand at the start of a text (`signed?`) or be the first
run of digits anywhere in it (`firstNumber?`); what follows the run is of no interest.
-/

namespace Whiteboard.Text

/-- A natural number in decimal digits, without leading zeros. -/
def decimal (n : Nat) : Text := Nat.toDigits 10 n

/-- The number at the start of a text: its longest run of leading digits, if that is not empty. -/
def leadingNumber? (s : Text) : Option Nat :=
  let digits := s.takeWhile Char.isDigit
  if digits.isEmpty then none else some (Nat.ofDigitChars 10 digits 0)

/-- The number that the first run of digits in a text denotes. -/
def firstNumber? (s : Text) : Option Nat :=
  leadingNumber? (s.dropWhile fun c => !c.isDigit)

/-- The integer at the start of a text: at most one sign, then digits. -/
def signed? : Text → Option Int
  | '-' :: s => (leadingNumber? s).map fun n => -(n : Int)
  | '+' :: s => (leadingNumber? s).map fun n => (n : Int)
  | s => (leadingNumber? s).map fun n => (n : Int)

/-- Every character of a decimal numeral is a digit. -/
theorem isDigit_of_mem_decimal {n : Nat} {c : Char} (hc : c ∈ decimal n) : c.isDigit = true :=
  Nat.isDigit_of_mem_toDigits (by decide) (by decide) hc

end Whiteboard.Text
