import Mathlib.Tactic.Tauto
import Mathlib.Tactic.SplitIfs
import Whiteboard.Proofs.Reading
import Whiteboard.Proofs.Scan

/-!
# What a longer text leaves alone

When a text grows, the end of it may be read again as something else. Either all tokens there are
inert, and it does not matter what becomes of them; or the first of them opens a statement, and what
becomes of it opens one too. Neither touches a command that was already there.
-/

namespace Whiteboard

/-- Markers as scripts can hold them: not empty, and without white space, terminators and colons. -/
structure Markers.IsPlain (m : Markers) : Prop where
  opening_ne_nil : m.opening ≠ []
  closing_ne_nil : m.closing ≠ []
  blank : m.Avoids Text.isBlank
  terminator : m.Avoids (· = ';')
  colon : m.Avoids (· = ':')

instance (m : Markers) : Decidable m.IsPlain :=
  decidable_of_iff
    (m.opening ≠ [] ∧ m.closing ≠ [] ∧ m.Avoids Text.isBlank ∧ m.Avoids (· = ';') ∧
      m.Avoids (· = ':'))
    ⟨fun ⟨opening, closing, blank, terminator, colon⟩ =>
      ⟨opening, closing, blank, terminator, colon⟩,
     fun h => ⟨h.opening_ne_nil, h.closing_ne_nil, h.blank, h.terminator, h.colon⟩⟩

/-! ### Tokens that are read again -/

/-- What may become of tokens when the text that they were read from grows. -/
inductive Token.Rereads : List Text → List Text → Prop
  /-- A token that is still the same. -/
  | same (t : Text) {ts us : List Text} : Rereads ts us → Rereads (t :: ts) (t :: us)
  /-- Inert tokens may become anything. -/
  | inert {ts : List Text} (us : List Text) (hts : ∀ t ∈ ts, Statement.Inert t) : Rereads ts us
  /-- A token that opens a statement may be another that does so, if only inert tokens follow. -/
  | opens {t u : Text} {ts : List Text} (us : List Text) (ht : Draft.opens t = true)
      (hu : Draft.opens u = true) (hts : ∀ t ∈ ts, Statement.Inert t) : Rereads (t :: ts) (u :: us)

theorem Token.Rereads.append {ts us : List Text} (h : Rereads ts us) (front : List Text) :
    Rereads (front ++ ts) (front ++ us) := by
  induction front with
  | nil => exact h
  | cons t front ih => exact .same t ih

namespace Markers

variable {m : Markers}

/-- The longest marker at the front of a longer text is the one at the front of the text, or the
whole text is a front part of it. -/
theorem leading?_append (m : Markers) (p s : Text) :
    m.leading? (p ++ s) = m.leading? p ∨ ∃ w, m.leading? (p ++ s) = some w ∧ p <+: w := by
  unfold leading?
  induction m.byLength with
  | nil => exact .inl rfl
  | cons w ws ih =>
    by_cases empty : w = []
    · simpa [empty] using ih
    by_cases front : w <+: p
    · have := front.trans (List.prefix_append p s)
      exact .inl (by simp [empty, front, this])
    · -- a marker that fits only the longer text reaches over the end of the shorter one
      by_cases longer : w <+: p ++ s
      · have := (List.prefix_or_prefix_of_prefix longer (List.prefix_append p s)).resolve_left front
        exact .inr ⟨w, by simp [empty, longer], this⟩
      · simpa [empty, front, longer] using ih

/-- The end of a text that is the beginning of a marker in a longer text is read again: the word
before it and the marker take its place. -/
theorem rereads_scan_of_isPrefix (hm : m.IsPlain) {word p s w : Text} (hword : ';' ∉ word)
    (found : m.leading? (p ++ s) = some w) (hp : p <+: w) :
    Token.Rereads (m.scan word p) (m.scan word (p ++ s)) := by
  -- all of the text is part of a marker, so it holds no terminator and no colon
  have hterm : ';' ∉ p := fun h => by
    simpa using hm.terminator.of_leading? found (hp.subset h)
  have hcolon : ':' ∉ p := fun h => by
    simpa using hm.colon.of_leading? found (hp.subset h)
  have quiet : ∀ {rest : Text}, rest <:+ p → ∀ t ∈ m.scan [] rest, Statement.Inert t := by
    intro rest hrest t ht
    have chars : ∀ c ∈ t, c ∈ p := fun c hc =>
      hrest.subset (by simpa using mem_or_mem_of_mem_scan ht hc)
    exact Statement.inert_of_not_mem (fun h => hterm (chars _ h)) fun h => hcolon (chars _ h)
  by_cases empty : word = []
  · subst empty
    exact .inert _ (quiet List.suffix_rfl)
  · -- the shorter text makes the word longer, and the longer one ends it before the marker
    obtain ⟨more, rest, rfl, tokens⟩ := exists_scan_eq_cons m p empty
    have last := quiet (List.suffix_append more rest)
    simp only [List.mem_append, not_or] at hterm hcolon
    rw [tokens, scan_of_leading? found]
    by_cases hopens : Draft.opens word = true
    · simp only [Token.ofWord, List.isEmpty_iff, empty, if_false, List.singleton_append]
      exact .opens _ (Draft.opens_append hopens more) hopens last
    · refine .inert _ (List.forall_mem_cons.mpr ⟨⟨?_, ?_⟩, last⟩)
      · intro h
        have : ';' ∈ word ++ more := h ▸ by decide
        exact (List.mem_append.mp this).elim hword hterm.1
      · exact Bool.eq_false_iff.mpr fun h => hopens (Draft.opens_of_opens_append hcolon.1 h)

/-- It is enough to compare the scans of two texts that begin with the same marker, or both with
none: otherwise the shorter text ends inside a marker of the longer one. -/
theorem rereads_scan_of_same (hm : m.IsPlain) {word p s : Text} (hword : ';' ∉ word)
    (h : m.leading? (p ++ s) = m.leading? p →
      Token.Rereads (m.scan word p) (m.scan word (p ++ s))) :
    Token.Rereads (m.scan word p) (m.scan word (p ++ s)) := by
  rcases leading?_append m p s with same | ⟨w, longer, front⟩
  · exact h same
  · exact rereads_scan_of_isPrefix hm hword longer front

/-- The tokens of a longer text are a rereading of the tokens of the text. -/
theorem rereads_scan (hm : m.IsPlain) (p s : Text) {word : Text} (hword : ';' ∉ word) :
    Token.Rereads (m.scan word p) (m.scan word (p ++ s)) := by
  -- both scans go the same way until the text ends, or a marker reaches over its end
  induction word, p using scan.induct m with
  | case1 word =>
    by_cases empty : word = []
    · subst empty
      exact .inert _ (by simp [scan, Token.ofWord])
    · -- the word at the end of the text grows, and opens a statement if it did so before
      obtain ⟨more, rest, -, tokens⟩ := exists_scan_eq_cons m s empty
      rw [List.nil_append, tokens, scan]
      simp only [Token.ofWord, List.isEmpty_iff, empty, if_false]
      by_cases hopens : Draft.opens word = true
      · exact .opens _ hopens (Draft.opens_append hopens more) (by simp)
      · refine .inert _ (List.forall_mem_singleton.mpr ⟨?_, by simpa using hopens⟩)
        rintro rfl
        exact hword (by decide)
  | case2 word c p w found ih =>
    apply rereads_scan_of_same hm hword
    intro same
    obtain ⟨-, -, front⟩ := Markers.of_leading? found
    rw [scan_of_leading? found, scan_of_leading? (same.trans found),
      List.drop_append_of_le_length front.length_le]
    exact (Token.Rereads.same w (ih (by simp))).append _
  | case3 word p found ih =>
    apply rereads_scan_of_same hm hword
    intro same
    rw [List.cons_append] at same ⊢
    rw [scan_cons_of_leading?_none found, scan_cons_of_leading?_none (same.trans found)]
    simp only [if_true]
    exact (Token.Rereads.same terminator (ih (by simp))).append _
  | case4 word c p found hc blank ih =>
    apply rereads_scan_of_same hm hword
    intro same
    rw [List.cons_append] at same ⊢
    rw [scan_cons_of_leading?_none found, scan_cons_of_leading?_none (same.trans found)]
    simp only [hc, blank, if_false, if_true]
    exact (ih (by simp)).append _
  | case5 word c p found hc blank ih =>
    apply rereads_scan_of_same hm hword
    intro same
    rw [List.cons_append] at same ⊢
    rw [scan_cons_of_leading?_none found, scan_cons_of_leading?_none (same.trans found)]
    simp only [hc, blank, if_false]
    exact ih (by simp [hword, Ne.symm hc])

/-! ### Commands of tokens that are read again -/

/-- The commands of a run of tokens. A loose run without a terminator is dropped. -/
def runCommands (inside : Bool) (run : List Text) : List Command :=
  if inside || run.contains terminator then
    (Statement.run (if inside then .start else .idle) run).2.commands
  else []

/-- The commands of the tokens that are left, when `run` are the tokens since the last boundary and
`inside` tells whether that was an opening marker. -/
def commandsFrom (m : Markers) (inside : Bool) (run tokens : List Text) : List Command :=
  (Sequence.parseAll (m.segmentFrom inside run tokens).sequences).commands

theorem commands_parse (m : Markers) (s : Text) :
    (m.parse s).commands = m.commandsFrom false [] (m.tokens s) := rfl

theorem commands_ofRun (run : List Text) (inside closed : Bool) :
    (Sequence.parseAll (Segmentation.ofRun run inside closed).sequences).commands =
      runCommands inside run := by
  unfold Segmentation.ofRun runCommands
  split <;> simp [Sequence.parseAll, Sequence.parse]

@[simp] theorem commandsFrom_nil (m : Markers) (inside : Bool) (run : List Text) :
    m.commandsFrom inside run [] = runCommands inside run := by
  rw [← commands_ofRun run inside false]
  cases inside <;> simp [commandsFrom, segmentFrom, Segmentation.ofMismatch]

/-- The commands of a run are there as soon as a marker ends it, and stay. -/
theorem commandsFrom_cons (m : Markers) (inside : Bool) (run tokens : List Text) (t : Text) :
    m.commandsFrom inside run (t :: tokens) =
      if t = m.opening then runCommands inside run ++ m.commandsFrom true [] tokens
      else if t = m.closing then runCommands inside run ++ m.commandsFrom false [] tokens
      else m.commandsFrom inside (run ++ [t]) tokens := by
  have both : ∀ a b : List Sequence, (Sequence.parseAll (a ++ b)).commands =
      (Sequence.parseAll a).commands ++ (Sequence.parseAll b).commands := by
    simp [Sequence.parseAll]
  unfold commandsFrom
  rw [segmentFrom]
  by_cases opening : t = m.opening
  · rw [if_pos opening, if_pos opening, ← commands_ofRun run inside false]
    cases inside <;> simp [both, Segmentation.ofMismatch]
  · rw [if_neg opening, if_neg opening]
    by_cases closing : t = m.closing
    · rw [if_pos closing, if_pos closing, ← commands_ofRun run inside inside]
      cases inside <;> simp [both, Segmentation.ofMismatch]
    · rw [if_neg closing, if_neg closing]

/-- A run that goes on keeps its commands. -/
theorem runCommands_isPrefix_append (inside : Bool) (run more : List Text) :
    runCommands inside run <+: runCommands inside (run ++ more) := by
  unfold runCommands
  by_cases kept : (inside || run.contains terminator) = true
  · have longer : (inside || (run ++ more).contains terminator) = true := by
      simp only [Bool.or_eq_true, List.contains_iff_mem, List.mem_append] at kept ⊢
      tauto
    rw [if_pos kept, if_pos longer, Statement.run_append]
    exact List.prefix_append _ _
  · rw [if_neg kept]
    exact List.nil_prefix

/-- An inert token adds nothing to the commands of a run. -/
theorem runCommands_append_inert {t : Text} (ht : Statement.Inert t) (inside : Bool)
    (run : List Text) : runCommands inside (run ++ [t]) = runCommands inside run := by
  have same : (run ++ [t]).contains terminator = run.contains terminator := by
    simp [Ne.symm ht.1]
  unfold runCommands
  rw [same, Statement.run_append]
  simp [Statement.run, Statement.commands_step_of_inert ht]

/-- Whichever token opens the next statement, the commands of the run are the same. -/
theorem runCommands_append_opens {t u : Text} (ht : Draft.opens t = true)
    (hu : Draft.opens u = true) (inside : Bool) (run : List Text) :
    runCommands inside (run ++ [t]) = runCommands inside (run ++ [u]) := by
  have ht' := Draft.ne_terminator_of_opens ht
  have hu' := Draft.ne_terminator_of_opens hu
  have same : (run ++ [t]).contains terminator = (run ++ [u]).contains terminator := by
    simp [Ne.symm ht', Ne.symm hu']
  unfold runCommands
  rw [same, Statement.run_append, Statement.run_append]
  simp [Statement.run, Statement.commands_step_of_opens ht hu]

theorem runCommands_nil (inside : Bool) : runCommands inside [] = [] := by
  cases inside <;> rfl

/-- Whatever follows a run, its commands are there. -/
theorem runCommands_isPrefix_commandsFrom (m : Markers) (inside : Bool) (run tokens : List Text) :
    runCommands inside run <+: m.commandsFrom inside run tokens := by
  induction tokens generalizing inside run with
  | nil => simp
  | cons t tokens ih =>
    rw [commandsFrom_cons]
    split_ifs
    · exact List.prefix_append _ _
    · exact List.prefix_append _ _
    · exact (runCommands_isPrefix_append inside run [t]).trans (ih inside (run ++ [t]))

/-- Inert tokens add nothing to the commands of the run before them. -/
theorem commandsFrom_of_inert (m : Markers) {tokens : List Text}
    (h : ∀ t ∈ tokens, Statement.Inert t) (inside : Bool) (run : List Text) :
    m.commandsFrom inside run tokens = runCommands inside run := by
  induction tokens generalizing inside run with
  | nil => simp
  | cons t tokens ih =>
    obtain ⟨ht, htokens⟩ := List.forall_mem_cons.mp h
    rw [commandsFrom_cons]
    split_ifs
    · rw [ih htokens, runCommands_nil, List.append_nil]
    · rw [ih htokens, runCommands_nil, List.append_nil]
    · rw [ih htokens, runCommands_append_inert ht]

/-- A token that opens a statement is no marker. -/
theorem IsPlain.ne_of_opens (hm : m.IsPlain) {t : Text} (ht : Draft.opens t = true) :
    t ≠ m.opening ∧ t ≠ m.closing := by
  have colon := Draft.colon_mem_of_opens ht
  constructor
  · rintro rfl
    simpa using hm.colon.1 _ colon
  · rintro rfl
    simpa using hm.colon.2 _ colon

/-- Rereading tokens keeps the commands. -/
theorem commandsFrom_isPrefix (hm : m.IsPlain) {tokens tokens' : List Text}
    (h : Token.Rereads tokens tokens') (inside : Bool) (run : List Text) :
    m.commandsFrom inside run tokens <+: m.commandsFrom inside run tokens' := by
  induction h generalizing inside run with
  | same t h ih =>
    -- a boundary ends the run in both lists, and any other token goes on with it
    rw [commandsFrom_cons, commandsFrom_cons]
    split_ifs
    · exact (List.prefix_append_right_inj _).mpr (ih true [])
    · exact (List.prefix_append_right_inj _).mpr (ih false [])
    · exact ih inside (run ++ [t])
  | inert us hts =>
    rw [commandsFrom_of_inert m hts]
    exact runCommands_isPrefix_commandsFrom m inside run us
  | @opens t u ts us ht hu hts =>
    -- neither token is a boundary, and both make the statement before them yield its command
    obtain ⟨ht₁, ht₂⟩ := hm.ne_of_opens ht
    obtain ⟨hu₁, hu₂⟩ := hm.ne_of_opens hu
    rw [commandsFrom_cons, if_neg ht₁, if_neg ht₂, commandsFrom_cons, if_neg hu₁, if_neg hu₂,
      commandsFrom_of_inert m hts, runCommands_append_opens ht hu]
    exact runCommands_isPrefix_commandsFrom m inside (run ++ [u]) us

/-- There are no commands in the empty text. -/
@[simp] theorem commands_parse_nil (m : Markers) : (m.parse []).commands = [] := by
  have none : m.tokens [] = [] := by
    simp [tokens, normalize, spread, Token.ofLine, Text.unwords]
  rw [commands_parse, none, commandsFrom_nil, runCommands_nil]

/-- What was read of a text is read again when the text has grown. -/
theorem commands_isPrefix (hm : m.IsPlain) {p t : Text} (h : p <+: t) :
    (m.parse p).commands <+: (m.parse t).commands := by
  obtain ⟨s, rfl⟩ := h
  rw [commands_parse, commands_parse, tokens_eq_scan hm.blank, tokens_eq_scan hm.blank]
  exact commandsFrom_isPrefix hm (rereads_scan hm p s (by simp)) false []

/-- **Prefix stability.** A text that grows, wherever it was cut, keeps the commands that it had:
none is removed, moved or changed. -/
theorem commands_isPrefix_append (hm : m.IsPlain) (p s : Text) :
    (m.parse p).commands <+: (m.parse (p ++ s)).commands :=
  commands_isPrefix hm (List.prefix_append p s)

/-- A text that ends in a marker keeps its command when the marker turns out to be the other one. -/
theorem commands_isPrefix_append_other_marker :
    let m : Markers := ⟨"GO".toList, "GOOD".toList⟩
    let p := "action:create x:1; action:create label:no;GO".toList
    m.IsPlain ∧ (m.parse p).commands.length = 2 ∧
      (m.parse p).commands <+: (m.parse (p ++ "OD".toList)).commands :=
  ⟨by decide, by decide +kernel, commands_isPrefix_append (by decide) _ _⟩

end Markers

end Whiteboard
