import Mathlib.Data.List.Find
import Mathlib.Data.List.Induction
import Mathlib.Data.List.TakeWhile
import Whiteboard.Proofs.Scan

/-!
# Where a text may be cut

White space and the terminator end whatever word stands before them. So if neither occurs in a
marker, a text may be cut at them, and its tokens are those of the parts. What no marker and no
terminator occurs in has its words for tokens.
-/

namespace Whiteboard

namespace Text

theorem ne_semicolon_of_isBlank {c : Char} (hc : isBlank c = true) : c ≠ ';' := by
  rintro rfl
  revert hc
  decide

/-- What a text begins with does not reach a character of its own. -/
theorem prefix_append_cons_iff {w : Text} {c : Char} (hc : c ∉ w) (a b : Text) :
    w <+: a ++ c :: b ↔ w <+: a := by
  refine ⟨fun h => ?_, fun h => h.trans (List.prefix_append _ _)⟩
  obtain ⟨back, parts⟩ := h
  rcases List.append_eq_append_iff.mp parts with ⟨rest, rfl, -⟩ | ⟨rest, rfl, split⟩
  · exact List.prefix_append _ _
  · cases rest with
    | nil => simp
    | cons d rest =>
      obtain ⟨rfl, -⟩ := List.cons.inj split
      simp at hc

/-- What stands in a text with a character of its own in it stands before or behind that. -/
theorem infix_append_cons_iff {w : Text} {c : Char} (hc : c ∉ w) (a b : Text) :
    w <:+: a ++ c :: b ↔ w <:+: a ∨ w <:+: b := by
  -- by where the occurrence begins: at the front of what is left, or further on
  induction a with
  | nil =>
    have front := prefix_append_cons_iff hc [] b
    rw [List.nil_append] at front
    rw [List.nil_append, List.infix_cons_iff, front, List.prefix_nil, List.infix_nil]
  | cons d a ih =>
    have front := prefix_append_cons_iff hc (d :: a) b
    rw [List.cons_append] at front ⊢
    rw [List.infix_cons_iff, front, ih, List.infix_cons_iff, or_assoc]

/-! ### The first and the last word -/

variable {isGap : Char → Bool}

/-- What follows the characters up to the first gap, if anything does, begins with that gap. -/
theorem takeWhile_eq_self_or (isGap : Char → Bool) (s : Text) :
    s.takeWhile (fun c => !isGap c) = s ∨
      ∃ c rest, isGap c = true ∧ s = s.takeWhile (fun c => !isGap c) ++ c :: rest := by
  have parts := List.takeWhile_append_dropWhile (p := fun c => !isGap c) (l := s)
  cases behind : s.dropWhile (fun c => !isGap c) with
  | nil => exact .inl (by simpa [behind] using parts)
  | cons c rest =>
    have stop := List.head?_dropWhile_not (fun c => !isGap c) s
    rw [behind] at stop parts
    exact .inr ⟨c, rest, by simpa using stop, parts.symm⟩

theorem isGap_of_mem_takeWhile {s : Text} :
    ∀ c ∈ s.takeWhile fun c => !isGap c, isGap c = false := fun c hc => by
  simpa using List.mem_takeWhile_imp hc

/-- A word stands in the text. -/
theorem isInfix_of_mem_words (s : Text) {w : Text} (hw : w ∈ words isGap s) : w <:+: s := by
  have only : ∀ {v : Text}, (∀ c ∈ v, isGap c = false) → w ∈ words isGap v → w = v := by
    intro v hv hmem
    rw [words_of_no_gap hv] at hmem
    split at hmem
    · exact absurd hmem List.not_mem_nil
    · exact List.mem_singleton.mp hmem
  -- the first word stands in front of the first gap, and the others behind it
  rcases takeWhile_eq_self_or isGap s with whole | ⟨c, rest, hc, parts⟩
  · obtain rfl : w = s := only (whole ▸ isGap_of_mem_takeWhile) hw
    exact List.infix_rfl
  · rw [parts, words_append_gap hc] at hw
    rcases List.mem_append.mp hw with hw | hw
    · rw [only isGap_of_mem_takeWhile hw]
      exact (List.takeWhile_prefix _).isInfix
    · have behind : rest <:+ s := by
        rw [parts]
        exact (List.suffix_cons c rest).trans (List.suffix_append _ _)
      exact (isInfix_of_mem_words rest hw).trans behind.isInfix
termination_by s.length
decreasing_by
  rw [parts, List.length_append, List.length_cons]
  omega

/-- A text ends in characters without gaps, and what precedes them, if anything does, is a gap. -/
theorem exists_last_word (s : Text) :
    ∃ last, (∀ c ∈ last, isGap c = false) ∧
      (s = last ∨ ∃ front c, isGap c = true ∧ s = front ++ c :: last) := by
  induction s with
  | nil => exact ⟨[], List.forall_mem_nil _, .inl rfl⟩
  | cons d s ih =>
    obtain ⟨last, free, rfl | ⟨front, c, hc, rfl⟩⟩ := ih
    · cases hd : isGap d with
      | false => exact ⟨d :: s, List.forall_mem_cons.mpr ⟨hd, free⟩, .inl rfl⟩
      | true => exact ⟨s, free, .inr ⟨[], d, hd, rfl⟩⟩
    · exact ⟨last, free, .inr ⟨d :: front, c, hc, rfl⟩⟩

/-! ### Where texts end -/

/-- The last character is white space or a terminator. -/
def EndsInGap (s : Text) : Prop :=
  (s.getLast?.any fun c => c = ';' || Text.isBlank c) = true

instance (s : Text) : Decidable s.EndsInGap :=
  inferInstanceAs (Decidable (_ = true))

theorem EndsInGap.exists_eq_concat {s : Text} (h : s.EndsInGap) :
    ∃ front c, s = front ++ [c] ∧ (c = ';' ∨ Text.isBlank c = true) := by
  cases s using List.reverseRecOn with
  | nil => cases h
  | append_singleton front c => exact ⟨front, c, rfl, by simpa [EndsInGap] using h⟩

end Text

namespace Markers

variable {m : Markers}

/-! ### Cutting at white space and at terminators -/

theorem leading?_nil (m : Markers) : m.leading? [] = none := by
  simp [leading?]

/-- A character of no marker hides what stands behind it. -/
theorem leading?_append_cons {p : Char → Bool} (hm : m.Avoids p) {c : Char} (hc : p c = true)
    (a b : Text) : m.leading? (a ++ c :: b) = m.leading? a := by
  refine List.find?_congr fun w hw => ?_
  have free : c ∉ w := by
    intro inside
    rcases mem_byLength.mp hw with rfl | rfl
    · simp [hm.1 c inside] at hc
    · simp [hm.2 c inside] at hc
  rw [Bool.eq_iff_iff]
  simp only [Bool.and_eq_true, List.isPrefixOf_iff_prefix, Text.prefix_append_cons_iff free]

/-- No marker begins with a character of no marker. -/
theorem leading?_cons {p : Char → Bool} (hm : m.Avoids p) {c : Char} (hc : p c = true)
    (b : Text) : m.leading? (c :: b) = none :=
  (leading?_append_cons hm hc [] b).trans (leading?_nil m)

/-- At white space or a terminator the word before it ends, and the scan begins anew. -/
theorem scan_append_cons {p : Char → Bool} (hm : m.Avoids p) {c : Char} (hc : p c = true)
    (gap : c = ';' ∨ Text.isBlank c = true) (word a b : Text) :
    m.scan word (a ++ c :: b) = m.scan word a ++ m.scan [] (c :: b) := by
  -- up to the gap the scan meets the same markers, whatever stands behind it
  have cut := leading?_append_cons hm hc
  fun_induction scan m word a with
  | case1 word =>
    have free := leading?_cons hm hc b
    rw [List.nil_append, scan_cons_of_leading?_none free, scan_cons_of_leading?_none free]
    -- neither of the two goes on with the word
    rcases gap with rfl | blank
    · simp [Token.ofWord]
    · simp [Text.ne_semicolon_of_isBlank blank, blank, Token.ofWord]
  | case2 word d a w found ih =>
    obtain ⟨-, -, front⟩ := Markers.of_leading? found
    have found' := (cut (d :: a) b).trans found
    rw [scan_of_leading? found', List.drop_append_of_le_length front.length_le, ih]
    simp
  | case3 word a found ih =>
    have found' := (cut (';' :: a) b).trans found
    rw [List.cons_append] at found' ⊢
    rw [scan_cons_of_leading?_none found', ih]
    simp
  | case4 word d a found hd blank ih =>
    have found' := (cut (d :: a) b).trans found
    rw [List.cons_append] at found' ⊢
    rw [scan_cons_of_leading?_none found', ih]
    simp [hd, blank]
  | case5 word d a found hd blank ih =>
    have found' := (cut (d :: a) b).trans found
    rw [List.cons_append] at found' ⊢
    rw [scan_cons_of_leading?_none found', ih]
    simp [hd, blank]

@[simp] theorem tokens_nil (m : Markers) : m.tokens [] = [] := by
  simp [tokens_eq_words, spread]

/-- White space divides the tokens before it from the tokens behind it. -/
theorem tokens_append_blank (hm : m.Avoids Text.isBlank) {c : Char} (hc : Text.isBlank c = true)
    (a b : Text) : m.tokens (a ++ c :: b) = m.tokens a ++ m.tokens b := by
  simp only [tokens_eq_scan hm]
  rw [scan_append_cons hm hc (.inr hc), scan_cons_of_leading?_none (leading?_cons hm hc b)]
  simp [Text.ne_semicolon_of_isBlank hc, hc, Token.ofWord]

/-- The terminator is a token of its own, whatever it is glued to. -/
theorem tokens_append_terminator (hm : m.Avoids Text.isBlank) (ht : m.Avoids (· = ';'))
    (a b : Text) : m.tokens (a ++ ';' :: b) = m.tokens a ++ terminator :: m.tokens b := by
  have mark : decide (';' = ';') = true := by decide
  simp only [tokens_eq_scan hm]
  rw [scan_append_cons ht mark (.inl rfl), scan_cons_of_leading?_none (leading?_cons ht mark b)]
  simp [Token.ofWord]

/-- White space at the start of a text adds no token. -/
theorem tokens_gap_append (hm : m.Avoids Text.isBlank) {g : Text}
    (hg : ∀ c ∈ g, Text.isBlank c = true) (b : Text) : m.tokens (g ++ b) = m.tokens b := by
  induction g with
  | nil => rfl
  | cons c g ih =>
    have cut := tokens_append_blank hm (hg c List.mem_cons_self) [] (g ++ b)
    rw [List.cons_append, ← ih fun d hd => hg d (List.mem_cons_of_mem _ hd)]
    simpa using cut

/-- White space at the end of a text adds no token. -/
theorem tokens_append_gap (hm : m.Avoids Text.isBlank) (a : Text) {g : Text}
    (hg : ∀ c ∈ g, Text.isBlank c = true) : m.tokens (a ++ g) = m.tokens a := by
  cases g with
  | nil => rw [List.append_nil]
  | cons c g =>
    have rest := tokens_gap_append hm (fun d hd => hg d (List.mem_cons_of_mem c hd)) []
    rw [List.append_nil, tokens_nil] at rest
    rw [tokens_append_blank hm (hg c List.mem_cons_self), rest, List.append_nil]

/-- White space divides the tokens before it from the tokens behind it, however much there is. -/
theorem tokens_append_gap_append (hm : m.Avoids Text.isBlank) (a : Text) {g : Text} (hne : g ≠ [])
    (hg : ∀ c ∈ g, Text.isBlank c = true) (b : Text) :
    m.tokens (a ++ (g ++ b)) = m.tokens a ++ m.tokens b := by
  obtain ⟨c, g, rfl⟩ := List.exists_cons_of_ne_nil hne
  rw [List.cons_append, tokens_append_blank hm (hg c List.mem_cons_self),
    tokens_gap_append hm fun d hd => hg d (List.mem_cons_of_mem c hd)]

/-- More text behind a text adds tokens behind those that there are. -/
def Divides (m : Markers) (p : Text) : Prop := ∀ s, m.tokens (p ++ s) = m.tokens p ++ m.tokens s

theorem divides_nil (m : Markers) : m.Divides [] := fun s => by simp

/-- At white space and at a terminator, a text is divided from what follows. -/
theorem divides_of_endsInGap (blank : m.Avoids Text.isBlank) (mark : m.Avoids (· = ';')) {p : Text}
    (h : p.EndsInGap) : m.Divides p := by
  intro s
  obtain ⟨front, c, rfl, rfl | hc⟩ := h.exists_eq_concat
  · rw [List.append_assoc, List.singleton_append, tokens_append_terminator blank mark,
      tokens_append_terminator blank mark]
    simp
  · rw [List.append_assoc, List.singleton_append, tokens_append_blank blank hc,
      tokens_append_blank blank hc]
    simp

/-- **A text may be cut at white space and at terminators.** Its tokens are those of the parts, and
the terminator is one of its own. So a text that ends in one of them keeps its tokens when more text
comes. -/
theorem tokens_append_separator (blank : m.Avoids Text.isBlank) (mark : m.Avoids (· = ';')) :
    (∀ a b : Text, ∀ c, Text.isBlank c = true →
      m.tokens (a ++ c :: b) = m.tokens a ++ m.tokens b) ∧
    (∀ a b : Text, m.tokens (a ++ ';' :: b) = m.tokens a ++ [terminator] ++ m.tokens b) ∧
    ∀ p : Text, p.EndsInGap → ∀ s, m.tokens (p ++ s) = m.tokens p ++ m.tokens s := by
  refine ⟨fun a b c hc => tokens_append_blank blank hc a b, fun a b => ?_,
    fun p hp => divides_of_endsInGap blank mark hp⟩
  rw [tokens_append_terminator blank mark, List.append_assoc, List.singleton_append]

/-- With the markers `ab` and `ba`, a wide space keeps the two apart that `aba` would hold, and so
does a terminator. -/
theorem tokens_append_separator_overlapping :
    let m : Markers := ⟨"ab".toList, "ba".toList⟩
    m.Avoids Text.isBlank ∧ m.Avoids (· = ';') ∧ Text.EndsInGap "xab;".toList ∧
      m.tokens "xaba".toList = ["x".toList, "ab".toList, "a".toList] ∧
      m.tokens ("xa".toList ++ '\u3000' :: "ba".toList) =
        m.tokens "xa".toList ++ m.tokens "ba".toList ∧
      m.tokens ("xab".toList ++ ';' :: "a".toList) =
        m.tokens "xab".toList ++ [terminator] ++ m.tokens "a".toList ∧
      m.tokens ("xab;".toList ++ "a".toList) = m.tokens "xab;".toList ++ m.tokens "a".toList := by
  intro m
  have blank : m.Avoids Text.isBlank := by decide
  have mark : m.Avoids (· = ';') := by decide
  have ends : Text.EndsInGap "xab;".toList := by decide
  obtain ⟨atBlank, atMark, atEnd⟩ := tokens_append_separator blank mark
  exact ⟨blank, mark, ends, by decide +kernel, atBlank _ _ _ (by decide), atMark _ _,
    atEnd _ ends _⟩

/-! ### Texts without markers -/

/-- A marker at the start of a text is its first token. -/
theorem tokens_of_leading? (hm : m.Avoids Text.isBlank) {s w : Text}
    (h : m.leading? s = some w) : m.tokens s = w :: m.tokens (s.drop w.length) := by
  simp [tokens_eq_scan hm, scan_of_leading? h, Token.ofWord]

/-- No marker stands in a text. -/
def Unmarked (m : Markers) (s : Text) : Prop := ¬ m.opening <:+: s ∧ ¬ m.closing <:+: s

/-- A text is unmarked if its parts before and behind a character of no marker are. -/
theorem unmarked_append_cons_iff {p : Char → Bool} (hm : m.Avoids p) {c : Char} (hc : p c = true)
    (a b : Text) : m.Unmarked (a ++ c :: b) ↔ m.Unmarked a ∧ m.Unmarked b := by
  have opening : c ∉ m.opening := fun inside => by simp [hm.1 c inside] at hc
  have closing : c ∉ m.closing := fun inside => by simp [hm.2 c inside] at hc
  simp only [Unmarked, Text.infix_append_cons_iff opening, Text.infix_append_cons_iff closing,
    not_or]
  exact and_and_and_comm

theorem Unmarked.of_infix {s t : Text} (h : m.Unmarked s) (ht : t <:+: s) : m.Unmarked t :=
  ⟨fun inside => h.1 (inside.trans ht), fun inside => h.2 (inside.trans ht)⟩

theorem Unmarked.ne_marker {s : Text} (h : m.Unmarked s) : s ≠ m.opening ∧ s ≠ m.closing :=
  ⟨fun same => h.1 (same ▸ List.infix_rfl), fun same => h.2 (same ▸ List.infix_rfl)⟩

theorem Unmarked.leading? {s : Text} (h : m.Unmarked s) : m.leading? s = none := by
  rw [Option.eq_none_iff_forall_ne_some]
  intro w found
  obtain ⟨rfl | rfl, -, front⟩ := of_leading? found
  · exact h.1 front.isInfix
  · exact h.2 front.isInfix

/-- Without markers and terminators there is nothing to spread. -/
theorem spread_of_unmarked {s : Text} (h : m.Unmarked s) (hs : ';' ∉ s) : m.spread s = s := by
  induction s with
  | nil => rw [spread]
  | cons c s ih =>
    have mark : c ≠ ';' := (List.ne_of_not_mem_cons hs).symm
    rw [spread, h.leading?]
    simp only [mark, if_false]
    rw [ih (h.of_infix (List.suffix_cons c s).isInfix) (List.not_mem_of_not_mem_cons hs)]

/-- Without markers and terminators the tokens of a text are its words. -/
theorem tokens_of_unmarked {s : Text} (h : m.Unmarked s) (hs : ';' ∉ s) :
    m.tokens s = s.words Text.isBlank := by
  rw [tokens_eq_words, spread_of_unmarked h hs]

end Markers

end Whiteboard
