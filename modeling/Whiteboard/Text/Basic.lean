/-!
# Texts

A text is a list of Unicode scalar values, and everything that is read or written is one. This
file has the few operations on texts that the script language needs: cutting at gaps, searching,
and trimming.
-/

namespace Whiteboard

/-- A sequence of Unicode scalar values. -/
abbrev Text := List Char

namespace Text

/-- The maximal runs of characters that are no gap, in order. -/
def words (isGap : Char → Bool) (s : Text) : List Text :=
  (s.splitOnP isGap).filter fun w => !w.isEmpty

/-- The words in order, with one space between neighbours. -/
def unwords (ws : List Text) : Text := [' '].intercalate ws

/-- The parts before and after the first occurrence of a character. -/
def cut? (c : Char) : Text → Option (Text × Text)
  | [] => none
  | d :: s => if d = c then some ([], s) else (cut? c s).map fun (before, after) => (d :: before, after)

/-- What follows the first occurrence of `pattern`. -/
def after? (s pattern : Text) : Option Text :=
  match s with
  | [] => if pattern.isEmpty then some [] else none
  | c :: rest =>
    match pattern.isPrefixOf? (c :: rest) with
    | some after => some after
    | none => after? rest pattern

/-- The text without its last character, if that is `c`. -/
def dropLast? (c : Char) (s : Text) : Option Text :=
  if s.getLast? = some c then some s.dropLast else none

/-- The text without the characters of a class at its end. -/
def trimEnd (p : Char → Bool) (s : Text) : Text := (s.reverse.dropWhile p).reverse

/-- The text without the characters of a class at either end. -/
def trim (p : Char → Bool) (s : Text) : Text := trimEnd p (s.dropWhile p)

/-- The text with the letters `A` to `Z` made small; no other character changes. -/
def lower (s : Text) : Text := s.map Char.toLower

/-- The pieces between gaps hold no gap. -/
theorem not_isGap_of_mem_splitOnP {isGap : Char → Bool} {s w : Text} {c : Char}
    (hw : w ∈ s.splitOnP isGap) (hc : c ∈ w) : isGap c = false := by
  induction s generalizing w with
  | nil => simp_all
  | cons d s ih =>
    rw [List.splitOnP_cons_eq_if_modifyHead] at hw
    split at hw
    case isTrue =>
      rcases List.mem_cons.mp hw with rfl | hw
      · simp at hc
      · exact ih hw hc
    case isFalse hd =>
      obtain ⟨first, rest, split⟩ := List.exists_cons_of_ne_nil (List.splitOnP_ne_nil isGap s)
      rw [split] at hw ih
      simp only [List.modifyHead_cons, List.mem_cons] at hw
      rcases hw with rfl | hw
      · rcases List.mem_cons.mp hc with rfl | hc
        · simpa using hd
        · exact ih (by simp) hc
      · exact ih (by simp [hw]) hc

/-- A gap is in no word. -/
theorem not_isGap_of_mem_words {isGap : Char → Bool} {s w : Text} {c : Char}
    (hw : w ∈ words isGap s) (hc : c ∈ w) : isGap c = false :=
  not_isGap_of_mem_splitOnP (List.mem_filter.mp hw).1 hc

/-- No word is empty. -/
theorem ne_nil_of_mem_words {isGap : Char → Bool} {s w : Text} (hw : w ∈ words isGap s) :
    w ≠ [] := by
  have := (List.mem_filter.mp hw).2
  simpa using this

/-- The words of two parts with a gap between them are the words of the parts. -/
theorem words_append_gap {isGap : Char → Bool} {c : Char} (hc : isGap c = true) (s t : Text) :
    words isGap (s ++ c :: t) = words isGap s ++ words isGap t := by
  simp [words, List.splitOnP_append_cons _ _ hc]

end Text

end Whiteboard
