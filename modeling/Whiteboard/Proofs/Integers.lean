import Mathlib.Data.List.Basic
import Mathlib.Data.List.TakeWhile
import Whiteboard.Script.Statement

/-!
# Integers at the start of a text

What the value of a numeric key denotes: quotes at its two ends aside, a sign at most and then the
longest run of digits. Zeros in front, many digits and units behind them change nothing about that.
A key can hold what 64 bits can hold, and the one such integer that is not read is the least one:
its digits denote more than the greatest one, and the sign is looked at too late.
-/

namespace Whiteboard

namespace Text

variable {s t : Text} {p : Char → Bool} {n : Int}

/-! ### Trimming -/

theorem all_head?_dropWhile (p : Char → Bool) (s : Text) :
    (s.dropWhile p).head?.all (!p ·) = true := by
  have stop := List.head?_dropWhile_not p s
  cases first : (s.dropWhile p).head? with
  | none => rfl
  | some c => simpa [first] using stop

theorem dropWhile_eq_iff :
    s.dropWhile p = t ↔
      ∃ front, s = front ++ t ∧ (∀ c ∈ front, p c = true) ∧ t.head?.all (!p ·) = true := by
  constructor
  · rintro rfl
    exact ⟨s.takeWhile p, List.takeWhile_append_dropWhile.symm,
      fun c hc => List.mem_takeWhile_imp hc, all_head?_dropWhile p s⟩
  · rintro ⟨front, rfl, dropped, stop⟩
    rw [List.dropWhile_append_of_pos dropped]
    cases t with
    | nil => rfl
    | cons c t => exact List.dropWhile_cons_of_neg (by simpa using stop)

theorem trimEnd_eq_iff :
    trimEnd p s = t ↔
      ∃ back, s = t ++ back ∧ (∀ c ∈ back, p c = true) ∧ t.getLast?.all (!p ·) = true := by
  rw [trimEnd, List.reverse_eq_iff, dropWhile_eq_iff, List.head?_reverse]
  constructor
  · rintro ⟨back, whole, dropped, stop⟩
    refine ⟨back.reverse, ?_, by simpa using dropped, stop⟩
    simpa using congrArg List.reverse whole
  · rintro ⟨back, rfl, dropped, stop⟩
    exact ⟨back.reverse, List.reverse_append, by simpa using dropped, stop⟩

/-- What trimming leaves: a text that neither begins nor ends with a character of the class, and had
only such characters around it. -/
theorem trim_eq_iff :
    trim p s = t ↔
      ∃ front back, s = front ++ t ++ back ∧ (∀ c ∈ front, p c = true) ∧
        (∀ c ∈ back, p c = true) ∧ t.head?.all (!p ·) = true ∧ t.getLast?.all (!p ·) = true := by
  rw [trim, trimEnd_eq_iff]
  constructor
  · rintro ⟨back, rest, dropped, last⟩
    obtain ⟨front, rfl, dropped', first⟩ := dropWhile_eq_iff.mp rest
    refine ⟨front, back, (List.append_assoc ..).symm, dropped', dropped, ?_, last⟩
    cases t with
    | nil => rfl
    | cons c t => exact first
  · rintro ⟨front, back, rfl, dropped, dropped', first, last⟩
    cases t with
    | nil =>
      -- all characters go, those behind as well
      have all : ∀ c ∈ front ++ [] ++ back, p c = true := by
        simpa [or_imp, forall_and] using ⟨dropped, dropped'⟩
      exact ⟨[], by simpa using all, by simp, rfl⟩
    | cons c t =>
      have rest : (front ++ c :: t ++ back).dropWhile p = c :: t ++ back :=
        dropWhile_eq_iff.mpr ⟨front, List.append_assoc .., dropped, first⟩
      exact ⟨back, rest, dropped', last⟩

/-! ### Integers in digits -/

/-- The longest run of digits at the start of a text, and what stands behind it. -/
structure IsRun (digits rest : Text) : Prop where
  ne_nil : digits ≠ []
  isDigit : ∀ c ∈ digits, c.isDigit = true
  stop : rest.head?.all (!Char.isDigit ·) = true

/-- A text that begins with an integer: a sign at most, and then the longest run of digits. -/
inductive Begins : Text → Int → Prop
  | bare {digits rest : Text} (run : IsRun digits rest) :
      Begins (digits ++ rest) (Nat.ofDigitChars 10 digits 0)
  | plus {digits rest : Text} (run : IsRun digits rest) :
      Begins ('+' :: (digits ++ rest)) (Nat.ofDigitChars 10 digits 0)
  | minus {digits rest : Text} (run : IsRun digits rest) :
      Begins ('-' :: (digits ++ rest)) (-(Nat.ofDigitChars 10 digits 0 : Int))

/-- A text that begins with an integer, quotes at its two ends aside. -/
def Denotes (raw : Text) (n : Int) : Prop :=
  ∃ front inner back, raw = front ++ inner ++ back ∧ (∀ c ∈ front, c = '"') ∧
    (∀ c ∈ back, c = '"') ∧ inner.head? ≠ some '"' ∧ inner.getLast? ≠ some '"' ∧ inner.Begins n

/-- An integer in digits, behind a minus sign if it is negative. -/
def signedDecimal (n : Int) : Text := if n < 0 then '-' :: decimal n.natAbs else decimal n.natAbs

theorem takeWhile_of_isRun {digits rest : Text} (run : IsRun digits rest) :
    (digits ++ rest).takeWhile Char.isDigit = digits := by
  have none : rest.takeWhile Char.isDigit = [] := by
    cases rest with
    | nil => rfl
    | cons c rest => exact List.takeWhile_cons_of_neg (by simpa using run.stop)
  rw [List.takeWhile_append_of_pos run.isDigit, none, List.append_nil]

/-- A number is read where a text begins with a run of digits. -/
theorem leadingNumber?_eq_some_iff {k : Nat} :
    leadingNumber? s = some k ↔
      ∃ digits rest, s = digits ++ rest ∧ IsRun digits rest ∧ Nat.ofDigitChars 10 digits 0 = k := by
  unfold leadingNumber?
  constructor
  · intro read
    have some : s.takeWhile Char.isDigit ≠ [] := by
      intro none
      simp [none] at read
    refine ⟨s.takeWhile Char.isDigit, s.dropWhile Char.isDigit,
      List.takeWhile_append_dropWhile.symm,
      ⟨some, fun c hc => List.mem_takeWhile_imp hc, all_head?_dropWhile Char.isDigit s⟩, ?_⟩
    simpa [some] using read
  · rintro ⟨digits, rest, rfl, run, rfl⟩
    simp [takeWhile_of_isRun run, run.ne_nil]

/-- A text that begins with a digit begins with no sign. -/
theorem signed?_of_isRun {digits rest : Text} (run : IsRun digits rest) :
    signed? (digits ++ rest) = some (Nat.ofDigitChars 10 digits 0 : Int) := by
  obtain ⟨c, more, rfl⟩ := List.exists_cons_of_ne_nil run.ne_nil
  have digit : c.isDigit = true := run.isDigit c List.mem_cons_self
  have read := leadingNumber?_eq_some_iff.mpr ⟨c :: more, rest, rfl, run, rfl⟩
  rw [List.cons_append] at read ⊢
  unfold signed?
  split
  case h_1 same =>
    obtain ⟨rfl, -⟩ := List.cons.inj same
    exact absurd digit (by decide)
  case h_2 same =>
    obtain ⟨rfl, -⟩ := List.cons.inj same
    exact absurd digit (by decide)
  case h_3 => simp [read]

/-- An integer is read where a text begins with one. -/
theorem signed?_eq_some_iff : signed? s = some n ↔ Begins s n := by
  constructor
  · intro read
    unfold signed? at read
    split at read
    case h_1 t =>
      cases found : leadingNumber? t with
      | none => simp [found] at read
      | some k =>
        obtain ⟨digits, rest, rfl, run, rfl⟩ := leadingNumber?_eq_some_iff.mp found
        obtain rfl : -(Nat.ofDigitChars 10 digits 0 : Int) = n := by simpa [found] using read
        exact .minus run
    case h_2 t =>
      cases found : leadingNumber? t with
      | none => simp [found] at read
      | some k =>
        obtain ⟨digits, rest, rfl, run, rfl⟩ := leadingNumber?_eq_some_iff.mp found
        obtain rfl : (Nat.ofDigitChars 10 digits 0 : Int) = n := by simpa [found] using read
        exact .plus run
    case h_3 =>
      cases found : leadingNumber? s with
      | none => simp [found] at read
      | some k =>
        obtain ⟨digits, rest, rfl, run, rfl⟩ := leadingNumber?_eq_some_iff.mp found
        obtain rfl : (Nat.ofDigitChars 10 digits 0 : Int) = n := by simpa [found] using read
        exact .bare run
  · intro begins
    cases begins with
    | bare run => exact signed?_of_isRun run
    | plus run | minus run =>
      simp [signed?, leadingNumber?_eq_some_iff.mpr ⟨_, _, rfl, run, rfl⟩]

theorem signed?_trim_eq_some_iff {raw : Text} :
    (raw.trim (· = '"')).signed? = some n ↔ raw.Denotes n := by
  have class' : ∀ c : Option Char, c.all (fun c => !decide (c = '"')) = true ↔ c ≠ some '"' := by
    intro c
    cases c <;> simp
  constructor
  · intro read
    obtain ⟨front, back, whole, quotes, quotes', first, last⟩ :=
      trim_eq_iff.mp (rfl : raw.trim (· = '"') = _)
    exact ⟨front, _, back, whole, by simpa using quotes, by simpa using quotes',
      (class' _).mp first, (class' _).mp last, signed?_eq_some_iff.mp read⟩
  · rintro ⟨front, inner, back, whole, quotes, quotes', first, last, begins⟩
    have left : raw.trim (· = '"') = inner := trim_eq_iff.mpr ⟨front, back, whole,
      by simpa using quotes, by simpa using quotes', (class' _).mpr first, (class' _).mpr last⟩
    rw [left, signed?_eq_some_iff.mpr begins]

theorem Denotes.unique {raw : Text} {n' : Int} (h : raw.Denotes n) (h' : raw.Denotes n') :
    n = n' := by
  have read := signed?_trim_eq_some_iff.mpr h
  rw [signed?_trim_eq_some_iff.mpr h'] at read
  exact (Option.some.inj read).symm

/-! ### Written integers -/

theorem signedDecimal_ne_nil (n : Int) : signedDecimal n ≠ [] := by
  have digits : decimal n.natAbs ≠ [] := Nat.toDigits_ne_nil
  unfold signedDecimal
  split <;> simp [digits]

/-- An integer in digits has no other characters than digits and the minus sign. -/
theorem eq_minus_or_isDigit {c : Char} (hc : c ∈ signedDecimal n) : c = '-' ∨ c.isDigit = true := by
  unfold signedDecimal at hc
  split at hc
  · exact (List.mem_cons.mp hc).imp_right isDigit_of_mem_decimal
  · exact .inr (isDigit_of_mem_decimal hc)

theorem ne_quote_of_mem_signedDecimal {c : Char} (hc : c ∈ signedDecimal n) : c ≠ '"' := by
  rcases eq_minus_or_isDigit hc with rfl | digit
  · decide
  · rintro rfl
    exact absurd digit (by decide)

/-- A text begins with the integer that is written at its start. -/
theorem begins_signedDecimal (n : Int) (stop : s.head?.all (!Char.isDigit ·) = true) :
    Begins (signedDecimal n ++ s) n := by
  have run : IsRun (decimal n.natAbs) s :=
    ⟨Nat.toDigits_ne_nil, fun c hc => isDigit_of_mem_decimal hc, stop⟩
  have value : Nat.ofDigitChars 10 (decimal n.natAbs) 0 = n.natAbs :=
    Nat.ofDigitChars_toDigits (by decide) (by decide)
  unfold signedDecimal
  split
  case isTrue negative =>
    have begins := Begins.minus run
    have size : -(n.natAbs : Int) = n := by omega
    rwa [value, size] at begins
  case isFalse =>
    have begins := Begins.bare run
    have size : (n.natAbs : Int) = n := by omega
    rwa [value, size] at begins

/-- A text denotes the integer that is written at its start, whatever follows that is no digit. -/
theorem denotes_signedDecimal (n : Int) (stop : s.head?.all (!Char.isDigit ·) = true) :
    Denotes (signedDecimal n ++ s) n := by
  obtain ⟨back, whole, quotes, last⟩ := trimEnd_eq_iff.mp (rfl : s.trimEnd (· = '"') = _)
  generalize s.trimEnd (· = '"') = rest at whole last
  subst whole
  have stop : rest.head?.all (!Char.isDigit ·) = true := by
    cases rest with
    | nil => rfl
    | cons c rest => exact stop
  refine ⟨[], signedDecimal n ++ rest, back, by simp, nofun, by simpa using quotes, ?_, ?_,
    begins_signedDecimal n stop⟩
  · rw [List.head?_append_of_ne_nil _ (signedDecimal_ne_nil n)]
    exact fun first => ne_quote_of_mem_signedDecimal (List.mem_of_head? first) rfl
  · rw [List.getLast?_append]
    cases ends : rest.getLast? with
    | none => exact fun first => ne_quote_of_mem_signedDecimal (List.mem_of_getLast? first) rfl
    | some c => simpa [ends] using last

end Text

/-! ### Integers that a key is given -/

namespace Statement

open Text

variable {raw : Text}

/-- All integers of 64 bits but the least one are as large as the greatest one at most. -/
theorem natAbs_toInt_le_iff {n : Int64} :
    (n.toInt.natAbs : Int) ≤ Int64.maxValue.toInt ↔ n ≠ Int64.minValue := by
  have max : Int64.maxValue.toInt = 9223372036854775807 := by decide
  have min : Int64.minValue.toInt = -9223372036854775808 := by decide
  have low := n.le_toInt
  have high := n.toInt_lt
  rw [max, Ne, ← Int64.toInt_inj, min]
  omega

/-- A key is given an integer if its value denotes it, and unless it is the least one of 64 bits. -/
theorem readNumber?_eq_some_iff {n : Int64} :
    readNumber? raw = some n ↔ raw.Denotes n.toInt ∧ n ≠ Int64.minValue := by
  rw [← signed?_trim_eq_some_iff, ← natAbs_toInt_le_iff]
  unfold readNumber?
  cases read : (raw.trim (· = '"')).signed? with
  | none => simp
  | some k =>
    dsimp only
    rw [Option.some_inj]
    split
    case isTrue bound =>
      have fits : (Int64.ofInt k).toInt = k := by
        have max : Int64.maxValue.toInt = 9223372036854775807 := by decide
        exact Int64.toInt_ofInt_of_le (by omega) (by omega)
      constructor
      · rintro ⟨⟩
        exact ⟨fits.symm, by rwa [fits]⟩
      · rintro ⟨rfl, -⟩
        rw [Int64.ofInt_toInt]
    case isFalse large =>
      constructor
      · nofun
      · rintro ⟨rfl, small⟩
        exact absurd small large

/-- **Numbers of 64 bits are read exactly, but for the least one.** The value of a key is read as
the integers of 64 bits that it denotes, and as nothing else, if and only if it does not denote the
least of them, which is not read at all. So an integer in digits, whatever follows that is no digit,
is read back unless it is the least one. -/
theorem readNumber?_exact_iff (raw : Text) :
    ((∀ n : Int64, readNumber? raw = some n ↔ raw.Denotes n.toInt) ↔
      ¬ raw.Denotes Int64.minValue.toInt) ∧
    (raw.Denotes Int64.minValue.toInt → readNumber? raw = none) ∧
    ∀ (n : Int64) (s : Text), raw = signedDecimal n.toInt ++ s →
      s.head?.all (!Char.isDigit ·) = true → (readNumber? raw = some n ↔ n ≠ Int64.minValue) := by
  refine ⟨⟨fun exact least => ?_, fun other n => ?_⟩, fun least => ?_, fun n s whole stop => ?_⟩
  · exact (readNumber?_eq_some_iff.mp ((exact _).mpr least)).2 rfl
  · rw [readNumber?_eq_some_iff, and_iff_left_iff_imp]
    rintro denotes rfl
    exact other denotes
  · refine Option.eq_none_iff_forall_ne_some.mpr fun n read => ?_
    obtain ⟨denotes, other⟩ := readNumber?_eq_some_iff.mp read
    exact other (Int64.toInt_inj.mp (denotes.unique least))
  · rw [readNumber?_eq_some_iff, and_iff_right_iff_imp]
    exact fun _ => whole ▸ denotes_signedDecimal n.toInt stop

/-- The least integer that is read, with a unit behind it, and the one below, which is not. -/
theorem readNumber?_exact_iff_limits :
    readNumber? "-9223372036854775807px".toList = some (-9223372036854775807) ∧
      readNumber? "-9223372036854775808".toList = none := by
  obtain ⟨-, -, reads⟩ := readNumber?_exact_iff "-9223372036854775807px".toList
  obtain ⟨-, unread, -⟩ := readNumber?_exact_iff "-9223372036854775808".toList
  exact ⟨(reads (-9223372036854775807) "px".toList rfl (by decide)).mpr (by decide),
    unread (denotes_signedDecimal (s := []) Int64.minValue.toInt rfl)⟩

end Statement

end Whiteboard
