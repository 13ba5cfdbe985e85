import Whiteboard.Proofs.Integers

/-!
# References in any text

A reference is read from the first run of digits in a text, whatever stands in front of the run and
behind it. A run of digits is the numeral of its value, with zeros in front of it or not; so each
number has its own runs, and no run is read as two numbers. A text is not read where it has no digit,
and where the number of its first run is too large. Runs behind the first one are never looked at.
-/

namespace Whiteboard

namespace Text

variable {s digits : Text} {n : Nat}

/-! ### Runs of digits -/

/-- A digit is the numeral of its value. -/
theorem digitChar_of_isDigit {c : Char} (h : c.isDigit = true) :
    c.toNat - '0'.toNat < 10 ∧ Nat.digitChar (c.toNat - '0'.toNat) = c := by
  have zero : '0'.toNat = 48 := rfl
  have nine : '9'.toNat = 57 := rfl
  obtain ⟨low, high⟩ := Char.isDigit_iff_toNat.mp h
  have small : c.toNat - '0'.toNat < 10 := by omega
  refine ⟨small, Char.toNat_inj.mp ?_⟩
  rw [Nat.toNat_digitChar_of_lt_ten small]
  omega

/-- Digits behind a numeral go on with it, unless it is zero. -/
theorem decimal_append (pos : 0 < n) (h : ∀ c ∈ digits, c.isDigit = true) :
    decimal n ++ digits = decimal (Nat.ofDigitChars 10 digits n) := by
  induction digits generalizing n with
  | nil => simp
  | cons c digits ih =>
    obtain ⟨digit, later⟩ := List.forall_mem_cons.mp h
    obtain ⟨small, same⟩ := digitChar_of_isDigit digit
    have longer : decimal n ++ [c] = decimal (10 * n + (c.toNat - '0'.toNat)) := by
      have joined := Nat.toDigits_append_toDigits (by decide : 1 < 10) pos small
      rwa [Nat.toDigits_of_lt_base small, same] at joined
    calc
      decimal n ++ c :: digits = decimal n ++ [c] ++ digits := by simp
      _ = decimal (10 * n + (c.toNat - '0'.toNat)) ++ digits := by rw [longer]
      _ = decimal (Nat.ofDigitChars 10 (c :: digits) n) := by
        rw [ih (by omega) later, Nat.ofDigitChars_cons]

/-- A run of digits is the numeral of its value, with zeros in front of it or not. -/
theorem exists_zeros_append_decimal (ne : digits ≠ []) (h : ∀ c ∈ digits, c.isDigit = true) :
    ∃ zeros, digits = List.replicate zeros '0' ++ decimal (Nat.ofDigitChars 10 digits 0) := by
  induction digits with
  | nil => exact absurd rfl ne
  | cons c digits ih =>
    obtain ⟨digit, later⟩ := List.forall_mem_cons.mp h
    obtain ⟨small, same⟩ := digitChar_of_isDigit digit
    rw [Nat.ofDigitChars_cons, Nat.mul_zero, Nat.zero_add]
    rcases Nat.eq_zero_or_pos (c.toNat - '0'.toNat) with zero | pos
    · obtain rfl : '0' = c := by rw [← same, zero]; rfl
      rcases eq_or_ne digits [] with rfl | more
      · -- the last zero is the numeral itself
        exact ⟨0, rfl⟩
      · obtain ⟨zeros, run⟩ := ih more later
        refine ⟨zeros + 1, ?_⟩
        rw [zero, List.replicate_succ, List.cons_append, ← run]
    · refine ⟨0, ?_⟩
      rw [← decimal_append pos later, decimal, Nat.toDigits_of_lt_base small, same]
      rfl

theorem ofDigitChars_zeros_append_decimal (zeros n : Nat) :
    Nat.ofDigitChars 10 (List.replicate zeros '0' ++ decimal n) 0 = n := by
  rw [Nat.ofDigitChars_append, Nat.ofDigitChars_replicate_zero, Nat.mul_zero]
  exact Nat.ofDigitChars_toDigits (by decide) (by decide)

theorem isDigit_of_mem_zeros_append_decimal {zeros : Nat} {c : Char}
    (hc : c ∈ List.replicate zeros '0' ++ decimal n) : c.isDigit = true := by
  rcases List.mem_append.mp hc with hc | hc
  · rw [List.eq_of_mem_replicate hc]
    rfl
  · exact isDigit_of_mem_decimal hc

/-! ### The first run -/

/-- A text whose first run of digits is the numeral of a number, with zeros in front of it or not. -/
def Spells (s : Text) (n : Nat) : Prop :=
  ∃ front zeros rest, s = front ++ (List.replicate zeros '0' ++ decimal n) ++ rest ∧
    front.all (!Char.isDigit ·) = true ∧ rest.head?.all (!Char.isDigit ·) = true

/-- The first number of a text is the one that it spells. -/
theorem firstNumber?_eq_some_iff : firstNumber? s = some n ↔ s.Spells n := by
  unfold firstNumber? Spells
  constructor
  · intro read
    obtain ⟨digits, rest, whole, run, rfl⟩ := leadingNumber?_eq_some_iff.mp read
    obtain ⟨front, rfl, skipped, -⟩ := dropWhile_eq_iff.mp whole
    obtain ⟨zeros, numeral⟩ := exists_zeros_append_decimal run.ne_nil run.isDigit
    refine ⟨front, zeros, rest, ?_, List.all_eq_true.mpr skipped, run.stop⟩
    rw [← numeral, List.append_assoc]
  · rintro ⟨front, zeros, rest, rfl, skipped, stop⟩
    have run : IsRun (List.replicate zeros '0' ++ decimal n) rest :=
      ⟨by simp [decimal], fun c hc => isDigit_of_mem_zeros_append_decimal hc, stop⟩
    -- the run begins with a digit, so what is skipped ends in front of it
    obtain ⟨c, more, begins⟩ := List.exists_cons_of_ne_nil run.ne_nil
    have digit : c.isDigit = true := run.isDigit c (begins ▸ List.mem_cons_self)
    have reached : (front ++ (List.replicate zeros '0' ++ decimal n) ++ rest).dropWhile
        (!Char.isDigit ·) = List.replicate zeros '0' ++ decimal n ++ rest := by
      refine dropWhile_eq_iff.mpr
        ⟨front, List.append_assoc .., List.all_eq_true.mp skipped, ?_⟩
      simp [begins, digit]
    rw [reached]
    exact leadingNumber?_eq_some_iff.mpr
      ⟨_, rest, rfl, run, ofDigitChars_zeros_append_decimal zeros n⟩

/-- A text has no number exactly where it has no digit. -/
theorem firstNumber?_eq_none_iff : firstNumber? s = none ↔ s.all (!Char.isDigit ·) = true := by
  have begins := all_head?_dropWhile (!Char.isDigit ·) s
  rw [List.all_eq_true, ← List.dropWhile_eq_nil_iff, firstNumber?]
  cases rest : s.dropWhile (!Char.isDigit ·) with
  | nil => simp [leadingNumber?]
  | cons c rest' =>
    -- what is not skipped begins with a digit
    have digit : c.isDigit = true := by simpa [rest] using begins
    simp [leadingNumber?, digit]

end Text

namespace ShapeRef

variable {s : Text} {r : ShapeRef}

theorem ofNat?_eq_some_iff {n : Nat} : ofNat? n = some r ↔ n = r.number.toNat := by
  constructor
  · intro fits
    unfold ofNat? at fits
    split at fits
    case isTrue small =>
      obtain rfl := Option.some.inj fits
      exact (UInt64.toNat_ofNat_of_lt small).symm
    case isFalse => cases fits
  · rintro rfl
    exact ofNat?_number r

theorem ofNat?_eq_none_iff {n : Nat} : ofNat? n = none ↔ UInt64.size ≤ n := by
  simp [ofNat?]

theorem read?_eq_some_iff : read? s = some r ↔ s.Spells r.number.toNat := by
  rw [← Text.firstNumber?_eq_some_iff, read?, Option.bind_eq_some_iff]
  simp [ofNat?_eq_some_iff]

theorem read?_eq_none_iff :
    read? s = none ↔ s.all (!Char.isDigit ·) = true ∨ ∃ n, UInt64.size ≤ n ∧ s.Spells n := by
  rw [read?]
  cases first : Text.firstNumber? s with
  | none =>
    have free := Text.firstNumber?_eq_none_iff.mp first
    simp only [Option.bind_none, free, true_or]
  | some n =>
    have some : ¬ s.all (!Char.isDigit ·) = true := by
      rw [← Text.firstNumber?_eq_none_iff, first]
      exact Option.some_ne_none n
    rw [Option.bind_some, ofNat?_eq_none_iff, or_iff_right some]
    constructor
    · intro large
      exact ⟨n, large, Text.firstNumber?_eq_some_iff.mp first⟩
    · rintro ⟨n', large, spells⟩
      rw [← Text.firstNumber?_eq_some_iff, first] at spells
      rwa [Option.some.inj spells]

/-- A number in digits is read as a reference, whatever stands around it that is no digit. -/
theorem read?_append_decimal (front rest : Text) (r : ShapeRef)
    (skipped : front.all (!Char.isDigit ·) = true)
    (stop : rest.head?.all (!Char.isDigit ·) = true) :
    read? (front ++ Text.decimal r.number.toNat ++ rest) = some r :=
  read?_eq_some_iff.mpr ⟨front, 0, rest, rfl, skipped, stop⟩

/-- The written form of a reference is one of its spellings. -/
theorem read?_text (r : ShapeRef) : read? r.text = some r := by
  have written := read?_append_decimal "shape:".toList [] r (by decide) rfl
  rwa [List.append_nil] at written

/-- **References are read exactly, and what is written is read back.** A text is read as a reference
if and only if its first run of digits is the numeral of that reference's number, with zeros in front
of it or not. It is not read if and only if it has no digit, or its first run is the numeral of a
number beyond 64 bits. So a number in digits is read as it is, behind a text without digits and in
front of one that begins with none; and the written form of a reference is read as that reference. -/
theorem read?_canonical :
    (∀ (s : Text) (r : ShapeRef), read? s = some r ↔ s.Spells r.number.toNat) ∧
    (∀ s : Text, read? s = none ↔
      s.all (!Char.isDigit ·) = true ∨ ∃ n, UInt64.size ≤ n ∧ s.Spells n) ∧
    (∀ (front rest : Text) (r : ShapeRef), front.all (!Char.isDigit ·) = true →
      rest.head?.all (!Char.isDigit ·) = true →
      read? (front ++ Text.decimal r.number.toNat ++ rest) = some r) ∧
    ∀ r : ShapeRef, read? r.text = some r :=
  ⟨fun _ _ => read?_eq_some_iff, fun _ => read?_eq_none_iff,
    read?_append_decimal, read?_text⟩

/-- The largest reference behind a digit that is not ASCII, with zeros in front of its number and
another number behind it. The number above it is too large, and what stands behind it is not read
instead. -/
theorem read?_canonical_limits :
    read? "\u0663 shape00018446744073709551615, 7".toList = some ⟨18446744073709551615⟩ ∧
      read? "shape:18446744073709551616, 7".toList = none ∧
      read? ("№ ".toList ++ Text.decimal 12 ++ "th".toList) = some ⟨12⟩ := by
  obtain ⟨reads, fails, bare, -⟩ := read?_canonical
  refine ⟨(reads _ _).mpr ?_, (fails _).mpr (.inr ⟨18446744073709551616, by decide, ?_⟩),
    bare _ _ ⟨12⟩ (by decide) (by decide)⟩
  · exact ⟨"\u0663 shape".toList, 3, ", 7".toList, by decide, by decide, by decide⟩
  · exact ⟨"shape:".toList, 0, ", 7".toList, by decide, by decide, by decide⟩

end ShapeRef

end Whiteboard
