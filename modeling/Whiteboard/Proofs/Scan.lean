import Whiteboard.Script.Token

/-!
# Tokens by one scan

If no white space stands in a marker, one scan from the left finds the tokens of a text. What the
scan has not reached has no part in the tokens behind it, so it is the form in which a text can be
compared with a longer one.
-/

namespace Whiteboard

namespace Text

variable {isGap : Char → Bool}

@[simp] theorem words_nil : words isGap [] = [] := by
  simp [words]

/-- A text without gaps is one word, or none if it is empty. -/
theorem words_of_no_gap {w : Text} (hw : ∀ c ∈ w, isGap c = false) :
    words isGap w = if w.isEmpty then [] else [w] := by
  rw [words, List.splitOnP_eq_singleton hw]
  cases w <;> rfl

theorem unwords_cons_cons (w v : Text) (ws : List Text) :
    unwords (w :: v :: ws) = w ++ ' ' :: unwords (v :: ws) := by
  simp [unwords, List.intercalate]

/-- Words joined by spaces are found again if there is no space in them. -/
theorem words_unwords {ws : List Text} (hne : ∀ w ∈ ws, w ≠ []) (hspace : ∀ w ∈ ws, ' ' ∉ w) :
    words (· = ' ') (unwords ws) = ws := by
  induction ws with
  | nil => simp [unwords]
  | cons w ws ih =>
    have first : words (· = ' ') w = [w] := by
      rw [words_of_no_gap fun c hc => by
        simpa using ne_of_mem_of_not_mem hc (hspace w List.mem_cons_self)]
      simp [hne w List.mem_cons_self]
    have rest := ih (fun v hv => hne v (List.mem_cons_of_mem _ hv))
      fun v hv => hspace v (List.mem_cons_of_mem _ hv)
    cases ws with
    | nil => simpa [unwords] using first
    | cons v ws =>
      rw [unwords_cons_cons, words_append_gap (by simp), first, rest]
      rfl

end Text

/-- The token that the characters since the last gap make, if there are any. -/
def Token.ofWord (word : Text) : List Text := if word.isEmpty then [] else [word]

namespace Markers

/-- No character of a class stands in a marker. -/
def Avoids (m : Markers) (p : Char → Bool) : Prop :=
  (∀ c ∈ m.opening, p c = false) ∧ ∀ c ∈ m.closing, p c = false

instance (m : Markers) (p : Char → Bool) : Decidable (m.Avoids p) :=
  decidable_of_iff ((m.opening.all fun c => !p c) = true ∧ (m.closing.all fun c => !p c) = true)
    (by simp [Avoids])

/-- A marker that a text begins with avoids what both markers avoid. -/
theorem Avoids.of_leading? {m : Markers} {p : Char → Bool} (hm : m.Avoids p) {s w : Text}
    (h : m.leading? s = some w) {c : Char} (hc : c ∈ w) : p c = false := by
  obtain ⟨rfl | rfl, -, -⟩ := Markers.of_leading? h
  · exact hm.1 c hc
  · exact hm.2 c hc

/-- The tokens of a text, if `word` are the characters since the last gap before it. -/
def scan (m : Markers) (word : Text) : Text → List Text
  | [] => Token.ofWord word
  | c :: s =>
    match _found : m.leading? (c :: s) with
    | some w => Token.ofWord word ++ w :: scan m [] ((c :: s).drop w.length)
    | none =>
      if c = ';' then Token.ofWord word ++ terminator :: scan m [] s
      else if Text.isBlank c then Token.ofWord word ++ scan m [] s
      else scan m (word ++ [c]) s
termination_by s => s.length
decreasing_by
  · have := List.length_pos_iff.mpr (Markers.of_leading? _found).2.1
    simp only [List.length_drop, List.length_cons]
    omega
  all_goals simp

/-- At a marker the word ends, and the marker is a token. -/
theorem scan_of_leading? {m : Markers} {s w : Text} (h : m.leading? s = some w) (word : Text) :
    m.scan word s = Token.ofWord word ++ w :: m.scan [] (s.drop w.length) := by
  cases s with
  | nil =>
    obtain ⟨-, hne, front⟩ := Markers.of_leading? h
    exact absurd (List.prefix_nil.mp front) hne
  | cons c s => rw [scan, h]

/-- Where no marker stands, the next character decides. -/
theorem scan_cons_of_leading?_none {m : Markers} {c : Char} {s : Text}
    (h : m.leading? (c :: s) = none) (word : Text) :
    m.scan word (c :: s) =
      if c = ';' then Token.ofWord word ++ terminator :: m.scan [] s
      else if Text.isBlank c then Token.ofWord word ++ m.scan [] s
      else m.scan (word ++ [c]) s := by
  rw [scan, h]

/-- The tokens of a text are the words of the spread text. -/
theorem tokens_eq_words (m : Markers) (s : Text) :
    m.tokens s = (m.spread s).words Text.isBlank := by
  refine Text.words_unwords (fun w hw => Text.ne_nil_of_mem_words hw) fun w hw hspace => ?_
  -- a space is white space, so there is none in a word
  have := Text.not_isGap_of_mem_words hw hspace
  revert this
  decide

/-- The words of the spread text behind a word that has begun are what the scan finds. -/
theorem words_append_spread {m : Markers} (hm : m.Avoids Text.isBlank) (s : Text) {word : Text}
    (hword : ∀ c ∈ word, Text.isBlank c = false) :
    (word ++ m.spread s).words Text.isBlank = m.scan word s := by
  have space : Text.isBlank ' ' = true := by decide
  have ended : ∀ {v : Text}, (∀ c ∈ v, Text.isBlank c = false) →
      v.words Text.isBlank = Token.ofWord v := fun hv => Text.words_of_no_gap hv
  fun_induction scan m word s with
  | case1 word => simpa [spread] using ended hword
  | case2 word c s w found ih =>
    obtain ⟨-, hne, -⟩ := Markers.of_leading? found
    have marker : w.words Text.isBlank = [w] := by
      rw [ended fun c hc => hm.of_leading? found hc]
      simp [Token.ofWord, hne]
    rw [spread, found]
    simp only [List.cons_append]
    -- the spread text has a space on both sides of the marker
    rw [Text.words_append_gap space, Text.words_append_gap space, ended hword, marker]
    simpa using ih
  | case3 word s found ih =>
    have mark : Text.words Text.isBlank [';'] = [terminator] := by decide
    rw [spread, found]
    simp only [if_true]
    rw [Text.words_append_gap space, ended hword, ← List.singleton_append (x := ';'),
      Text.words_append_gap space, mark]
    simpa using ih
  | case4 word c s found hc blank ih =>
    rw [spread, found]
    simp only [hc, if_false]
    rw [Text.words_append_gap blank, ended hword]
    simpa using ih
  | case5 word c s found hc blank ih =>
    have longer : ∀ d ∈ word ++ [c], Text.isBlank d = false := by
      intro d hd
      rcases List.mem_append.mp hd with hd | hd
      · exact hword d hd
      · simpa [List.mem_singleton.mp hd] using blank
    rw [spread, found]
    simp only [hc, if_false]
    rw [← ih longer, List.append_assoc]
    rfl

/-- The tokens of a text are what the scan finds, if no white space stands in a marker. -/
theorem tokens_eq_scan {m : Markers} (hm : m.Avoids Text.isBlank) (s : Text) :
    m.tokens s = m.scan [] s := by
  rw [tokens_eq_words]
  exact words_append_spread hm s (List.forall_mem_nil _)

/-- A word that has begun grows up to the next gap, and the scan goes on behind it. -/
theorem exists_scan_eq_cons (m : Markers) (s : Text) {word : Text} (hword : word ≠ []) :
    ∃ more rest, s = more ++ rest ∧ m.scan word s = (word ++ more) :: m.scan [] rest := by
  -- at a gap nothing is added to the word, and the same gap stands before the rest
  have closed : Token.ofWord word = [word] := by simp [Token.ofWord, hword]
  have opened : Token.ofWord [] = [] := rfl
  fun_induction scan m word s with
  | case1 word => exact ⟨[], [], rfl, by rw [scan, closed, opened, List.append_nil]⟩
  | case2 word c s w found ih =>
    exact ⟨[], c :: s, rfl, by rw [scan, found]; simp [closed, opened]⟩
  | case3 word s found ih =>
    exact ⟨[], ';' :: s, rfl, by rw [scan, found]; simp [closed, opened]⟩
  | case4 word c s found hc blank ih =>
    exact ⟨[], c :: s, rfl, by rw [scan, found]; simp [hc, blank, closed, opened]⟩
  | case5 word c s found hc blank ih =>
    obtain ⟨more, rest, rfl, tokens⟩ := ih (by simp) (by simp [Token.ofWord])
    exact ⟨c :: more, rest, rfl, by simpa using tokens⟩

/-- A token is made of characters of the text and of the word that had begun. -/
theorem mem_or_mem_of_mem_scan {m : Markers} {word s t : Text} (ht : t ∈ m.scan word s) {c : Char}
    (hc : c ∈ t) : c ∈ word ∨ c ∈ s := by
  have ended : ∀ {v : Text}, t ∈ Token.ofWord v → c ∈ v := by
    intro v hv
    unfold Token.ofWord at hv
    split at hv
    · simp at hv
    · rwa [← List.mem_singleton.mp hv]
  -- the first token of each case is the word that had begun, a marker or the terminator
  fun_induction scan m word s with
  | case1 word => exact .inl (ended ht)
  | case2 word d s w found ih =>
    obtain ⟨-, -, front⟩ := Markers.of_leading? found
    rcases List.mem_append.mp ht with ht | ht
    · exact .inl (ended ht)
    rcases List.mem_cons.mp ht with rfl | ht
    · exact .inr (front.subset hc)
    · have := ih ht
      exact .inr (List.mem_of_mem_drop (by simpa using this))
  | case3 word s found ih =>
    rcases List.mem_append.mp ht with ht | ht
    · exact .inl (ended ht)
    rcases List.mem_cons.mp ht with rfl | ht
    · exact .inr (by simp_all [terminator])
    · have := ih ht
      exact .inr (List.mem_cons_of_mem _ (by simpa using this))
  | case4 word d s found hd blank ih =>
    rcases List.mem_append.mp ht with ht | ht
    · exact .inl (ended ht)
    · have := ih ht
      exact .inr (List.mem_cons_of_mem _ (by simpa using this))
  | case5 word d s found hd blank ih =>
    rcases ih ht with hc | hc
    · rcases List.mem_append.mp hc with hc | hc
      · exact .inl hc
      · exact .inr (List.mem_singleton.mp hc ▸ List.mem_cons_self)
    · exact .inr (List.mem_cons_of_mem _ hc)

end Markers

end Whiteboard
