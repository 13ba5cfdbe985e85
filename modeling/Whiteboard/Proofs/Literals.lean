import Whiteboard.Proofs.References

/-!
# Numbers and references as they are written

A number is written in decimal digits, behind a minus sign if it is negative. A reference is
written as its number, with or without the word `shape` before it. Each is read back as what was
written. No character of it divides a text or stands in a marker.
-/

namespace Whiteboard

namespace Text

/-- Whether a character divides nothing: it is no white space and no punctuation of the language,
and stands in no usual marker. -/
def isPlain (c : Char) : Bool :=
  !isBlank c && (c ≠ ':' && c ≠ ';' && c ≠ '"' && c ≠ '_')

theorem isBlank_eq_false_of_isPlain {c : Char} (h : isPlain c = true) : isBlank c = false := by
  rw [isPlain, Bool.and_eq_true, Bool.not_eq_true'] at h
  exact h.1

theorem not_mem_of_isPlain {s : Text} (h : ∀ c ∈ s, isPlain c = true) {d : Char}
    (hd : isPlain d = false) : d ∉ s := by
  intro inside
  simp [h d inside] at hd

theorem isPlain_of_isDigit {c : Char} (h : c.isDigit = true) : isPlain c = true := by
  have range : 48 ≤ c.toNat ∧ c.toNat ≤ 57 := by
    simpa [Char.isDigit, UInt32.le_iff_toNat_le] using h
  have blank : isBlank c = false := by
    simp [isBlank, blankRanges]
    omega
  have other : ∀ {d : Char}, d.isDigit = false → c ≠ d := by
    rintro d hd rfl
    simp [h] at hd
  have marks : c ≠ ':' ∧ c ≠ ';' ∧ c ≠ '"' ∧ c ≠ '_' :=
    ⟨other (by decide), other (by decide), other (by decide), other (by decide)⟩
  simpa [isPlain, blank, and_assoc] using marks

theorem isPlain_of_mem_decimal {n : Nat} {c : Char} (hc : c ∈ decimal n) : isPlain c = true :=
  isPlain_of_isDigit (isDigit_of_mem_decimal hc)

end Text

/-! ### Numbers -/

/-- An integer that a numeric key can hold. -/
structure Literal where
  value : Int
  natAbs_le : value.natAbs ≤ 9223372036854775807

namespace Literal

/-- The integer in decimal digits, behind a minus sign if it is negative. -/
def text (n : Literal) : Text := Text.signedDecimal n.value

theorem isPlain_of_mem_text {n : Literal} {c : Char} (hc : c ∈ n.text) : Text.isPlain c = true := by
  rcases Text.eq_minus_or_isDigit hc with rfl | digit
  · decide
  · exact Text.isPlain_of_isDigit digit

/-- The integer in 64 bits. -/
def int64 (n : Literal) : Int64 := Int64.ofInt n.value

/-- The integer fits in 64 bits. -/
theorem toInt_int64 (n : Literal) : n.int64.toInt = n.value := by
  have := n.natAbs_le
  exact Int64.toInt_ofInt_of_le (by omega) (by omega)

/-- A number that is written is read back. -/
theorem readNumber?_text (n : Literal) : Statement.readNumber? n.text = some n.int64 := by
  have written : Text.Denotes n.text n.int64.toInt := by
    rw [toInt_int64, ← List.append_nil n.text]
    exact Text.denotes_signedDecimal n.value rfl
  refine Statement.readNumber?_eq_some_iff.mpr ⟨written, fun least => ?_⟩
  -- the least integer of 64 bits is no literal
  have value := n.toInt_int64
  have min : Int64.minValue.toInt = -9223372036854775808 := by decide
  have small := n.natAbs_le
  rw [least, min] at value
  omega

end Literal

/-! ### References -/

/-- How a reference is written: as a number, or as a number behind `shape`. -/
inductive Spelling
  | number
  | named
  deriving DecidableEq

namespace ShapeRef

/-- A reference in one of its spellings. -/
def spell : Spelling → ShapeRef → Text
  | .number, r => Text.decimal r.number.toNat
  | .named, r => "shape".toList ++ Text.decimal r.number.toNat

theorem isPlain_of_mem_spell {spelling : Spelling} {r : ShapeRef} {c : Char}
    (hc : c ∈ r.spell spelling) : Text.isPlain c = true := by
  cases spelling with
  | number => exact Text.isPlain_of_mem_decimal hc
  | named =>
    rcases List.mem_append.mp hc with hc | hc
    · have name : "shape".toList.all Text.isPlain = true := by decide
      exact List.all_eq_true.mp name c hc
    · exact Text.isPlain_of_mem_decimal hc

/-- A reference that is written is read back. -/
theorem read?_spell (spelling : Spelling) (r : ShapeRef) : read? (r.spell spelling) = some r := by
  rw [← List.append_nil (r.spell spelling)]
  cases spelling with
  | number => exact read?_append_decimal [] [] r rfl rfl
  | named => exact read?_append_decimal "shape".toList [] r (by decide) rfl

end ShapeRef

end Whiteboard
