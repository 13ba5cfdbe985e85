import Mathlib.Data.List.Infix
import Whiteboard.Proofs.Separators

/-!
# What the tokens of a text are

A text can be taken apart in one way: into white space, terminators, markers and words, where a word
goes on until one of the others begins. Its tokens are these parts without the white space. The rules
for this name no scan and no line of tokens, but they determine the tokens. So the laws of tokens are
proved from them: nothing of the text is lost, a token that stands alone is read as itself, and
between two words there is white space.

## Main definitions

* `Markers.Passes` — nothing in a word ends it
* `Markers.Stops` — a word ends in front of a text
* `Markers.Reads` — the tokens that a text is read as
* `Markers.IsOrdinary` — a token that is neither a marker nor the terminator

## Main results

* `Markers.leading?_eq_some_iff` — the longest marker that fits is the one that is found
* `Markers.tokens_eq_iff_reads` — the tokens of a text are the ones that it is read as
* `Markers.normalize_normalize` — a line of tokens is its own line of tokens
* `Markers.tokens_lossless` — what the tokens keep of a text, and where they divide it
-/

namespace Whiteboard

namespace Markers

variable {m : Markers} {s w word : Text} {ts : List Text}

/-! ### Where markers are found -/

theorem pairwise_byLength (m : Markers) :
    m.byLength.Pairwise fun v w => w.length ≤ v.length := by
  unfold byLength
  split <;> simp <;> omega

/-- Where a marker fits, one is found, unless it is empty. -/
theorem leading?_ne_none (hw : w = m.opening ∨ w = m.closing) (hne : w ≠ []) (front : w <+: s) :
    m.leading? s ≠ none := by
  intro none
  have := List.find?_eq_none.mp none w (mem_byLength.mpr hw)
  simp [hne, front] at this

/-- No marker that fits is longer than the one that is found. -/
theorem length_le_of_leading? {v : Text} (h : m.leading? s = some w)
    (hv : v = m.opening ∨ v = m.closing) (front : v <+: s) : v.length ≤ w.length := by
  obtain ⟨-, before, after, parts, none⟩ := List.find?_eq_some_iff_append.mp h
  have sorted := m.pairwise_byLength
  have mem := mem_byLength.mpr hv
  rw [parts] at mem sorted
  rcases List.mem_append.mp mem with mem | mem
  · -- a marker that comes before it and fits is empty
    have absent := none v mem
    obtain rfl : v = [] := by simpa [List.isPrefixOf_iff_prefix.mpr front] using absent
    exact Nat.zero_le _
  · rcases List.mem_cons.mp mem with rfl | mem
    · exact le_rfl
    · exact (List.pairwise_cons.mp (List.pairwise_append.mp sorted).2.1).1 v mem

/-- The marker that is found is the longest one that a text begins with, if that is not empty. -/
theorem leading?_eq_some_iff :
    m.leading? s = some w ↔
      (w = m.opening ∨ w = m.closing) ∧ w ≠ [] ∧ w <+: s ∧
        ∀ v, v = m.opening ∨ v = m.closing → v <+: s → v.length ≤ w.length := by
  constructor
  · intro h
    obtain ⟨hw, hne, front⟩ := of_leading? h
    exact ⟨hw, hne, front, fun v => length_le_of_leading? h⟩
  · rintro ⟨hw, hne, front, longest⟩
    obtain ⟨v, found⟩ := Option.ne_none_iff_exists'.mp (leading?_ne_none hw hne front)
    obtain ⟨hv, -, front'⟩ := of_leading? found
    -- two front parts of one text that are as long as each other are the same
    have shorter : v <+: w := List.prefix_of_prefix_length_le front' front (longest v hv front')
    rw [found, shorter.eq_of_length_le (length_le_of_leading? found hw front)]

/-- In a marker that marker is found, even if it begins with the other one. -/
theorem leading?_marker (hw : w = m.opening ∨ w = m.closing) (hne : w ≠ []) :
    m.leading? w = some w :=
  leading?_eq_some_iff.mpr ⟨hw, hne, List.prefix_rfl, fun _ _ front => front.length_le⟩

/-- If no marker is found in a text, none is found in a front part of it. -/
theorem leading?_eq_none_of_isPrefix {p : Text} (h : m.leading? s = none) (hp : p <+: s) :
    m.leading? p = none := by
  rw [Option.eq_none_iff_forall_ne_some]
  intro w found
  obtain ⟨hw, hne, front⟩ := of_leading? found
  exact leading?_ne_none hw hne (front.trans hp) h

/-! ### Words -/

/-- No marker, no terminator and no white space begins in a word when `s` follows it. -/
def Passes (m : Markers) : Text → Text → Prop
  | [], _ => True
  | c :: word, s =>
    m.leading? (c :: (word ++ s)) = none ∧ c ≠ ';' ∧ Text.isBlank c = false ∧ m.Passes word s

/-- A word ends in front of a text. -/
def Stops (m : Markers) : Text → Prop
  | [] => True
  | c :: s => ¬ m.Passes [c] s

theorem passes_singleton {c : Char} :
    m.Passes [c] s ↔ m.leading? (c :: s) = none ∧ c ≠ ';' ∧ Text.isBlank c = false := by
  simp [Passes]

theorem passes_append {v : Text} : m.Passes (w ++ v) s ↔ m.Passes w (v ++ s) ∧ m.Passes v s := by
  induction w with
  | nil => simp [Passes]
  | cons c w ih => simp [Passes, ih, and_assoc]

namespace Passes

theorem of_mem (h : m.Passes w s) {c : Char} (hc : c ∈ w) : c ≠ ';' ∧ Text.isBlank c = false := by
  induction w with
  | nil => cases hc
  | cons d w ih =>
    obtain ⟨-, mark, blank, rest⟩ := h
    rcases List.mem_cons.mp hc with rfl | hc
    · exact ⟨mark, blank⟩
    · exact ih rest hc

/-- What ends no word with a text behind it ends none with less text behind it. -/
theorem of_isPrefix {p : Text} (h : m.Passes w s) (hp : p <+: s) : m.Passes w p := by
  induction w with
  | nil => trivial
  | cons c w ih =>
    obtain ⟨none, mark, blank, rest⟩ := h
    have shorter : c :: (w ++ p) <+: c :: (w ++ s) :=
      (List.prefix_append_right_inj (c :: w)).mpr hp
    exact ⟨leading?_eq_none_of_isPrefix none shorter, mark, blank, ih rest⟩

/-- No marker stands in a word, unless it is empty. -/
theorem not_isInfix (h : m.Passes w s) {v : Text} (hv : v = m.opening ∨ v = m.closing)
    (hne : v ≠ []) : ¬ v <:+: w := by
  rintro ⟨before, after, rfl⟩
  obtain ⟨inside, -⟩ := passes_append.mp h
  obtain ⟨-, marker⟩ := passes_append.mp inside
  cases v with
  | nil => exact hne rfl
  | cons c v => exact leading?_ne_none hv hne (List.prefix_append (c :: v) _) marker.1

theorem not_stops (h : m.Passes w s) (hne : w ≠ []) : ¬ m.Stops (w ++ s) := by
  cases w with
  | nil => exact absurd rfl hne
  | cons c w =>
    obtain ⟨none, mark, blank, -⟩ := h
    exact fun stops => stops (passes_singleton.mpr ⟨none, mark, blank⟩)

/-- The scan takes a word as a whole. -/
theorem scan_append (h : m.Passes w s) (word : Text) :
    m.scan word (w ++ s) = m.scan (word ++ w) s := by
  induction w generalizing word with
  | nil => simp
  | cons c w ih =>
    obtain ⟨none, mark, blank, rest⟩ := h
    rw [List.cons_append, scan_cons_of_leading?_none none, if_neg mark, blank]
    simp [ih rest]

end Passes

/-- Where a word ends, the scan begins anew. -/
theorem scan_of_stops (h : m.Stops s) (word : Text) :
    m.scan word s = Token.ofWord word ++ m.scan [] s := by
  have opened : Token.ofWord [] = [] := rfl
  cases s with
  | nil => simp [scan, opened]
  | cons c s =>
    cases found : m.leading? (c :: s) with
    | some w => rw [scan_of_leading? found, scan_of_leading? found, opened, List.nil_append]
    | none =>
      rw [scan_cons_of_leading?_none found, scan_cons_of_leading?_none found]
      by_cases mark : c = ';'
      · simp [mark, opened]
      · cases blank : Text.isBlank c with
        | true => simp [mark, opened]
        | false => exact absurd (passes_singleton.mpr ⟨found, mark, blank⟩) h

/-! ### Reading -/

/-- A text is read as tokens. -/
inductive Reads (m : Markers) : Text → List Text → Prop
  | nil : Reads m [] []
  /-- White space is no token. -/
  | blank {c : Char} {s : Text} {ts : List Text} (hc : Text.isBlank c = true) (rest : Reads m s ts) :
    Reads m (c :: s) ts
  /-- A marker is a token, and the longest one that fits is meant. -/
  | marker {w s : Text} {ts : List Text} (found : m.leading? (w ++ s) = some w)
    (rest : Reads m s ts) : Reads m (w ++ s) (w :: ts)
  /-- The terminator is a token, unless it begins a marker. -/
  | terminator {s : Text} {ts : List Text} (free : m.leading? (';' :: s) = none)
    (rest : Reads m s ts) : Reads m (';' :: s) (terminator :: ts)
  /-- A word is a token, and goes on as far as it can. -/
  | word {w s : Text} {ts : List Text} (hne : w ≠ []) (passes : m.Passes w s) (stops : m.Stops s)
    (rest : Reads m s ts) : Reads m (w ++ s) (w :: ts)

/-- The characters since the last gap are the token in front of what ends them. -/
theorem Reads.ofWord (h : m.Reads s ts) (passes : m.Passes word s) (stops : m.Stops s) :
    m.Reads (word ++ s) (Token.ofWord word ++ ts) := by
  cases word with
  | nil => exact h
  | cons c word => exact .word (List.cons_ne_nil c word) passes stops h

/-- A text is read as the tokens that the scan finds. -/
theorem reads_scan (h : m.Passes word s) : m.Reads (word ++ s) (m.scan word s) := by
  -- along the scan; no word ends inside the one it carries, which is the invariant `h`
  fun_induction scan m word s with
  | case1 word => simpa using Reads.nil.ofWord h trivial
  | case2 word c s w found ih =>
    obtain ⟨-, -, rest, parts⟩ := of_leading? found
    rw [← parts, List.drop_left] at ih ⊢
    have stops : m.Stops (c :: s) := fun passes => by
      simp [(passes_singleton.mp passes).1] at found
    rw [← parts] at found h stops
    exact (Reads.marker found (ih trivial)).ofWord h stops
  | case3 word s found ih =>
    exact (Reads.terminator found (ih trivial)).ofWord h fun passes => passes.2.1 rfl
  | case4 word c s found mark blank ih =>
    exact (Reads.blank blank (ih trivial)).ofWord h fun passes => by
      simp [passes_singleton, blank] at passes
  | case5 word c s found mark blank ih =>
    have longer : m.Passes (word ++ [c]) s :=
      passes_append.mpr ⟨h, found, mark, by simpa using blank, trivial⟩
    simpa using ih longer

/-- What a text is read as is what the scan finds. -/
theorem Reads.scan_eq (hm : m.Avoids Text.isBlank) (h : m.Reads s ts) : m.scan [] s = ts := by
  induction h with
  | nil => simp [scan, Token.ofWord]
  | blank hc _ ih =>
    rw [scan_cons_of_leading?_none (leading?_cons hm hc _),
      if_neg (Text.ne_semicolon_of_isBlank hc), hc]
    simpa [Token.ofWord] using ih
  | marker found _ ih =>
    rw [scan_of_leading? found, List.drop_left, ih]
    rfl
  | terminator free _ ih =>
    rw [scan_cons_of_leading?_none free, if_pos rfl, ih]
    rfl
  | @word w s ts hne passes stops _ ih =>
    rw [passes.scan_append, scan_of_stops stops, List.nil_append, ih]
    simp [Token.ofWord, hne]

/-- **The tokens of a text are the ones that it is read as**, if no white space stands in a
marker. -/
theorem tokens_eq_iff_reads (hm : m.Avoids Text.isBlank) : m.tokens s = ts ↔ m.Reads s ts := by
  rw [tokens_eq_scan hm]
  refine ⟨?_, Reads.scan_eq hm⟩
  rintro rfl
  have begun : m.Passes [] s := trivial
  exact reads_scan begun

theorem reads_tokens (hm : m.Avoids Text.isBlank) (s : Text) : m.Reads s (m.tokens s) :=
  (tokens_eq_iff_reads hm).mp rfl

/-! ### Reading twice -/

/-- A token is read as itself. -/
theorem Reads.singleton_of_mem (h : m.Reads s ts) {t : Text} (ht : t ∈ ts) : m.Reads t [t] := by
  induction h with
  | nil => cases ht
  | blank _ _ ih => exact ih ht
  | marker found _ ih =>
    rcases List.mem_cons.mp ht with rfl | ht
    · obtain ⟨ht, hne, -⟩ := of_leading? found
      simpa using Reads.marker (s := []) (by simpa using leading?_marker ht hne) .nil
    · exact ih ht
  | @terminator s _ free _ ih =>
    rcases List.mem_cons.mp ht with rfl | ht
    · exact .terminator (leading?_eq_none_of_isPrefix free (List.prefix_append [';'] s)) .nil
    · exact ih ht
  | @word w s _ hne passes _ _ ih =>
    rcases List.mem_cons.mp ht with rfl | ht
    · have alone := passes.of_isPrefix (List.nil_prefix (l := s))
      simpa using Reads.word hne alone trivial .nil
    · exact ih ht

/-- The tokens of words in a line are those of each word. -/
theorem tokens_unwords (hm : m.Avoids Text.isBlank) (ws : List Text) :
    m.tokens (Text.unwords ws) = ws.flatMap m.tokens := by
  have space : Text.isBlank ' ' = true := by decide
  induction ws with
  | nil => simp [Text.unwords]
  | cons w ws ih =>
    cases ws with
    | nil => simp [Text.unwords]
    | cons v ws =>
      rw [Text.unwords_cons_cons, tokens_append_blank hm space, ih]
      rfl

/-- The tokens of a text stand in its line. -/
theorem unwords_tokens (m : Markers) (s : Text) : Text.unwords (m.tokens s) = m.normalize s := by
  rw [tokens_eq_words]
  rfl

/-- The line of a text has the tokens of the text. -/
theorem tokens_normalize (hm : m.Avoids Text.isBlank) (s : Text) :
    m.tokens (m.normalize s) = m.tokens s := by
  have alone : ∀ t ∈ m.tokens s, m.tokens t = [t] := fun t ht =>
    (tokens_eq_iff_reads hm).mpr ((reads_tokens hm s).singleton_of_mem ht)
  rw [← unwords_tokens, tokens_unwords hm, List.flatMap_congr alone, List.flatMap_singleton']

/-- **A line of tokens is its own line of tokens**, whatever the markers are, if no white space
stands in them. -/
theorem normalize_normalize (hm : m.Avoids Text.isBlank) (s : Text) :
    m.normalize (m.normalize s) = m.normalize s :=
  calc m.normalize (m.normalize s)
    _ = Text.unwords (m.tokens (m.normalize s)) := (unwords_tokens m _).symm
    _ = Text.unwords (m.tokens s) := by rw [tokens_normalize hm]
    _ = m.normalize s := unwords_tokens m s

/-- With the markers `;;` and `;;a`, which hold terminators, one text has both markers and a
terminator in a row. -/
theorem normalize_normalize_overlapping :
    let m : Markers := ⟨";;".toList, ";;a".toList⟩
    let s := "x;;;;a;\t;;b".toList
    m.Avoids Text.isBlank ∧ m.normalize s = "x ;; ;;a ; ;; b".toList ∧
      m.normalize (m.normalize s) = m.normalize s :=
  ⟨by decide, by decide +kernel, normalize_normalize (by decide) _⟩

/-! ### What the tokens keep -/

/-- A token that is neither a marker nor the terminator: there is no white space, no terminator and
no marker in it. -/
structure IsOrdinary (m : Markers) (t : Text) : Prop where
  ne_nil : t ≠ []
  blank : ∀ c ∈ t, Text.isBlank c = false
  semicolon : ';' ∉ t
  unmarked : m.Unmarked t

instance (m : Markers) (t : Text) : Decidable (m.IsOrdinary t) :=
  decidable_of_iff
    (t ≠ [] ∧ (t.all fun c => !Text.isBlank c) = true ∧ ';' ∉ t ∧ ¬ m.opening <:+: t ∧
      ¬ m.closing <:+: t)
    ⟨fun ⟨hne, blank, semicolon, unmarked⟩ => ⟨hne, by simpa using blank, semicolon, unmarked⟩,
     fun h => ⟨h.ne_nil, by simpa using h.blank, h.semicolon, h.unmarked⟩⟩

namespace Reads

/-- The tokens hold every character of a text but the white space, in order. -/
theorem flatten_eq (hm : m.Avoids Text.isBlank) (h : m.Reads s ts) :
    ts.flatten = s.filter fun c => !Text.isBlank c := by
  have all : ∀ {w : Text}, (∀ c ∈ w, Text.isBlank c = false) →
      (w.filter fun c => !Text.isBlank c) = w := fun hw =>
    List.filter_eq_self.mpr fun c hc => by simp [hw c hc]
  induction h with
  | nil => rfl
  | blank hc _ ih => rw [ih, List.filter_cons_of_neg (by simp [hc])]
  | marker found _ ih =>
    rw [List.flatten_cons, ih, List.filter_append, all fun c => hm.of_leading? found]
  | terminator _ _ ih =>
    rw [List.flatten_cons, ih, ← List.singleton_append, List.filter_append]
    rfl
  | word _ passes _ _ ih =>
    rw [List.flatten_cons, ih, List.filter_append, all fun c hc => (passes.of_mem hc).2]

/-- A token is a marker, the terminator or ordinary. -/
theorem cases_of_mem (hopening : m.opening ≠ []) (hclosing : m.closing ≠ []) (h : m.Reads s ts)
    {t : Text} (ht : t ∈ ts) :
    t = m.opening ∨ t = m.closing ∨ t = Whiteboard.terminator ∨ m.IsOrdinary t := by
  induction h with
  | nil => cases ht
  | blank _ _ ih => exact ih ht
  | marker found _ ih =>
    rcases List.mem_cons.mp ht with rfl | ht
    · obtain ⟨opening | closing, -, -⟩ := of_leading? found
      · exact .inl opening
      · exact .inr (.inl closing)
    · exact ih ht
  | terminator _ _ ih =>
    rcases List.mem_cons.mp ht with rfl | ht
    · exact .inr (.inr (.inl rfl))
    · exact ih ht
  | word hne passes _ _ ih =>
    rcases List.mem_cons.mp ht with rfl | ht
    · refine .inr (.inr (.inr ⟨hne, fun c hc => (passes.of_mem hc).2, ?_, ?_, ?_⟩))
      · exact fun hc => (passes.of_mem hc).1 rfl
      · exact passes.not_isInfix (.inl rfl) hopening
      · exact passes.not_isInfix (.inr rfl) hclosing
    · exact ih ht

/-- The first token stands behind white space, and a word goes on up to what ends it. -/
theorem exists_first {t : Text} (h : m.Reads s (t :: ts)) :
    ∃ gap rest, s = gap ++ (t ++ rest) ∧ (∀ c ∈ gap, Text.isBlank c = true) ∧ m.Reads rest ts ∧
      (m.IsOrdinary t → m.Passes t rest ∧ m.Stops rest) := by
  generalize first : t :: ts = us at h
  induction h with
  | nil => cases first
  | @blank c s _ hc _ ih =>
    obtain ⟨gap, rest, rfl, blank, reads, ordinary⟩ := ih first
    exact ⟨c :: gap, rest, rfl, List.forall_mem_cons.mpr ⟨hc, blank⟩, reads, ordinary⟩
  | @marker w s _ found reads _ =>
    cases first
    refine ⟨[], s, rfl, List.forall_mem_nil _, reads, fun ordinary => ?_⟩
    obtain ⟨opening | closing, -, -⟩ := of_leading? found
    · exact absurd opening ordinary.unmarked.ne_marker.1
    · exact absurd closing ordinary.unmarked.ne_marker.2
  | @terminator s _ _ reads _ =>
    cases first
    refine ⟨[], s, rfl, List.forall_mem_nil _, reads, fun ordinary => ?_⟩
    exact absurd List.mem_cons_self ordinary.semicolon
  | @word w s _ _ passes stops reads _ =>
    cases first
    exact ⟨[], s, rfl, List.forall_mem_nil _, reads, fun _ => ⟨passes, stops⟩⟩

/-- White space stands between two ordinary tokens. -/
theorem exists_gap {before after : List Text} {u v : Text}
    (h : m.Reads s (before ++ u :: v :: after)) (hu : m.IsOrdinary u) (hv : m.IsOrdinary v) :
    ∃ front gap rest, s = front ++ u ++ (gap ++ (v ++ rest)) ∧ gap ≠ [] ∧
      (∀ c ∈ gap, Text.isBlank c = true) ∧ m.Reads (v ++ rest) (v :: after) := by
  induction before generalizing s with
  | nil =>
    obtain ⟨front, rest, rfl, -, reads, ordinary⟩ := h.exists_first
    obtain ⟨gap, rest', rfl, blank, reads', ordinary'⟩ := reads.exists_first
    obtain ⟨-, stops⟩ := ordinary hu
    obtain ⟨passes', stops'⟩ := ordinary' hv
    refine ⟨front, gap, rest', by simp, ?_, blank, .word hv.ne_nil passes' stops' reads'⟩
    -- without a gap the first word would go on with the second one
    rintro rfl
    exact passes'.not_stops hv.ne_nil stops
  | cons t before ih =>
    obtain ⟨gap, rest, rfl, -, reads, -⟩ := h.exists_first
    obtain ⟨front, gap', rest', rfl, found⟩ := ih reads
    exact ⟨gap ++ (t ++ front), gap', rest', by simp, found⟩

end Reads

/-- **Tokens lose nothing, and divide a text where they have to.** The tokens are the characters of
the text without the white space. With a space between neighbours they are the line of the text.
Each is a marker, the terminator, or ordinary. And where two ordinary ones are neighbours, white
space stands between them in the text. -/
theorem tokens_lossless (hm : m.Avoids Text.isBlank) (hopening : m.opening ≠ [])
    (hclosing : m.closing ≠ []) (s : Text) :
    (m.tokens s).flatten = s.filter (fun c => !Text.isBlank c) ∧
    Text.unwords (m.tokens s) = m.normalize s ∧
    (∀ t ∈ m.tokens s, t = m.opening ∨ t = m.closing ∨ t = terminator ∨ m.IsOrdinary t) ∧
    ∀ before u v after, m.tokens s = before ++ u :: v :: after → m.IsOrdinary u → m.IsOrdinary v →
      ∃ front gap rest, s = front ++ u ++ (gap ++ (v ++ rest)) ∧
        gap ≠ [] ∧ (∀ c ∈ gap, Text.isBlank c = true) ∧
        m.tokens (front ++ u) = before ++ [u] ∧ m.tokens (v ++ rest) = v :: after := by
  have reads := reads_tokens hm s
  refine ⟨reads.flatten_eq hm, unwords_tokens m s, fun t => reads.cases_of_mem hopening hclosing,
    fun before u v after parts hu hv => ?_⟩
  rw [parts] at reads
  obtain ⟨front, gap, rest, rfl, hne, blank, behind⟩ := reads.exists_gap hu hv
  have second := (tokens_eq_iff_reads hm).mpr behind
  -- the gap divides the tokens, so the ones before it are the others
  have first : m.tokens (front ++ u) = before ++ [u] := by
    rw [tokens_append_gap_append hm _ hne blank, second] at parts
    exact List.append_cancel_right (parts.trans (by simp))
  exact ⟨front, gap, rest, rfl, hne, blank, first, second⟩

/-- One marker begins with the other, and the words `b` and `c` are the only ones that are
neighbours. -/
theorem tokens_lossless_nested :
    let m : Markers := ⟨"--".toList, "--end".toList⟩
    let s := "--x:1--endé;b \n c--".toList
    m.Avoids Text.isBlank ∧ m.opening ≠ [] ∧ m.closing ≠ [] ∧
      m.tokens s = ["--".toList, "x:1".toList, "--end".toList, "é".toList, [';'], ['b'], ['c'],
        "--".toList] ∧
      Text.unwords (m.tokens s) = m.normalize s ∧
      ∃ front gap rest, s = front ++ ['b'] ++ (gap ++ (['c'] ++ rest)) ∧ gap ≠ [] ∧
        (∀ c ∈ gap, Text.isBlank c = true) ∧ m.tokens (['c'] ++ rest) = [['c'], "--".toList] := by
  intro m s
  have blank : m.Avoids Text.isBlank := by decide
  have tokens : m.tokens s = ["--".toList, "x:1".toList, "--end".toList, "é".toList, [';']] ++
      ['b'] :: ['c'] :: ["--".toList] := by decide +kernel
  obtain ⟨-, line, -, divided⟩ := tokens_lossless blank (by decide) (by decide) s
  obtain ⟨front, gap, rest, parts, hne, white, -, behind⟩ :=
    divided _ _ _ _ tokens (by decide) (by decide)
  exact ⟨blank, by decide, by decide, tokens, line, front, gap, rest, parts, hne, white, behind⟩

end Markers

end Whiteboard
