import Whiteboard.Text.Basic

/-!
# Sequence markers

Two words bound a sequence of statements. Where both fit at one place the longer one is meant, so
that a marker which contains the other is read whole.
-/

namespace Whiteboard

/-- The words that open and close a sequence. -/
structure Markers where
  opening : Text := "START_SEQUENCE".toList
  closing : Text := "END_SEQUENCE".toList
  deriving DecidableEq, Inhabited

namespace Markers

/-- Both markers, the longer one first. -/
def byLength (m : Markers) : List Text :=
  if m.opening.length < m.closing.length then [m.closing, m.opening] else [m.opening, m.closing]

/-- The longest marker that a text begins with; an empty marker is never found. -/
def leading? (m : Markers) (s : Text) : Option Text :=
  m.byLength.find? fun w => !w.isEmpty && w.isPrefixOf s

theorem mem_byLength {m : Markers} {w : Text} :
    w ∈ m.byLength ↔ w = m.opening ∨ w = m.closing := by
  unfold byLength
  split <;> simp [or_comm]

/-- A marker that is found is one of the two, not empty, and begins the text. -/
theorem of_leading? {m : Markers} {s w : Text} (h : m.leading? s = some w) :
    (w = m.opening ∨ w = m.closing) ∧ w ≠ [] ∧ w <+: s := by
  have found := List.find?_some h
  simp only [Bool.and_eq_true, Bool.not_eq_true', List.isEmpty_eq_false_iff] at found
  exact ⟨mem_byLength.mp (List.mem_of_find?_eq_some h), found.1,
    List.isPrefixOf_iff_prefix.mp found.2⟩

end Markers

end Whiteboard
