import Whiteboard.Proofs.Literals
import Whiteboard.Proofs.Reading
import Whiteboard.Proofs.Separators
import Whiteboard.Shape.Kind

/-!
# Fields as they are written

A field gives a value to a key: `x:-5`, `from:shape3`, `label:"two words"`. Each is read back as the
value that was written. All but labels are one token. A label may be of several words; it is read as
these words with one space between neighbours.

The part of a label up to the first white space is glued to the key, and so is part of the token
that tells a field from an action. It must not hold `action:`. Nothing else in a label has a
meaning of its own.

## Main definitions

* `Label` — a text that can stand between quotes
* `Field` — a key with the value that is written for it

## Main results

* `Statement.run_label` — a label goes on until its closing quote
* `Field.tokens_text` — the tokens of a field are its words
* `Field.run_words` — a field that is written is read back
-/

namespace Whiteboard

namespace Text

theorem cut?_append_cons {c : Char} {a : Text} (h : c ∉ a) (b : Text) :
    cut? c (a ++ c :: b) = some (a, b) := by
  induction a with
  | nil => simp [cut?]
  | cons d a ih =>
    rw [List.cons_append, cut?, if_neg (List.ne_of_not_mem_cons h).symm,
      ih (List.not_mem_of_not_mem_cons h)]
    rfl

theorem dropLast?_concat (c : Char) (s : Text) : dropLast? c (s ++ [c]) = some s := by
  simp [dropLast?]

theorem dropLast?_of_not_mem {c : Char} {s : Text} (h : c ∉ s) : dropLast? c s = none := by
  refine if_neg fun last => h ?_
  exact List.mem_of_getLast? last

end Text

/-! ### Keys and what is written for them -/

/-- A text without underscores holds neither of the usual markers. -/
theorem Markers.unmarked_of_not_mem {s : Text} (h : '_' ∉ s) : ({} : Markers).Unmarked s :=
  ⟨fun inside => h (inside.subset (by decide)), fun inside => h (inside.subset (by decide))⟩

/-- The keys whose value is a number. -/
inductive NumericKey
  | x
  | y
  | width
  | height
  | endX
  | endY
  deriving DecidableEq

/-- The keys whose value is a reference. -/
inductive ReferenceKey
  | source
  | target
  | ident
  deriving DecidableEq

namespace Key

/-- A numeric key among all keys. -/
def ofNumeric : NumericKey → Key
  | .x => .x
  | .y => .y
  | .width => .width
  | .height => .height
  | .endX => .endX
  | .endY => .endY

/-- A key for references among all keys. -/
def ofReference : ReferenceKey → Key
  | .source => .source
  | .target => .target
  | .ident => .ident

/-- A key with what is written for it. -/
def written (key : Key) (raw : Text) : Text := key.name ++ ':' :: raw

/-- A label as it is written. -/
def quoted (s : Text) : Text := label.written ('"' :: (s ++ ['"']))

theorem isPlain_of_mem_name {key : Key} : ∀ c ∈ key.name, Text.isPlain c = true := by
  have plain : key.name.all Text.isPlain = true := by cases key <;> decide
  exact List.all_eq_true.mp plain

/-- Plain characters behind a key open no statement. -/
theorem opens_written {key : Key} {raw : Text} (h : ∀ c ∈ raw, Text.isPlain c = true) :
    Draft.opens (key.written raw) = false := by
  have split : key.written raw = (key.name ++ [':']) ++ raw := by simp [written]
  have front : Draft.opens (key.name ++ [':']) = false := by cases key <;> decide
  rw [split, Bool.eq_false_iff]
  intro opened
  have colon := Text.not_mem_of_isPlain h (d := ':') (by decide)
  simp [Draft.opens_of_opens_append colon opened] at front

/-- A key with what is written for it is one word, if there is no white space in that. -/
theorem words_written {key : Key} {raw : Text} (h : ∀ c ∈ raw, Text.isBlank c = false) :
    (key.written raw).words Text.isBlank = [key.written raw] := by
  rw [Text.words_of_no_gap, if_neg (by simp [written])]
  intro c hc
  rcases List.mem_append.mp hc with hc | hc
  · exact Text.isBlank_eq_false_of_isPlain (isPlain_of_mem_name c hc)
  · rcases List.mem_cons.mp hc with rfl | hc
    · decide
    · exact h c hc

/-- A label of one word is one word with its quotes. -/
theorem words_quoted_word {word : Text} (h : ∀ c ∈ word, Text.isBlank c = false) :
    (quoted word).words Text.isBlank = [quoted word] := by
  have quote : Text.isBlank '"' = false := by decide
  exact words_written (by simpa [quote, or_imp, forall_and] using h)

/-- The first word of a label is one word with the key, and the last with the closing quote. -/
theorem words_quoted_append {first : Text} (h : ∀ c ∈ first, Text.isBlank c = false) {c : Char}
    (hc : Text.isBlank c = true) (rest : Text) :
    (quoted (first ++ c :: rest)).words Text.isBlank =
      label.written ('"' :: first) :: (rest ++ ['"']).words Text.isBlank := by
  have split : quoted (first ++ c :: rest) =
      label.written ('"' :: first) ++ c :: (rest ++ ['"']) := by
    simp [quoted, written]
  rw [split, Text.words_append_gap hc, words_written (List.forall_mem_cons.mpr ⟨by decide, h⟩)]
  rfl

end Key

namespace Statement

@[simp] theorem run_singleton (state : State) (token : Text) :
    run state [token] = step state token := by
  simp [run]

theorem assign_ofNumeric (d : Draft) (key : NumericKey) (raw : Text) :
    assign d (.ofNumeric key) raw = assignNumber d (.ofNumeric key) raw := by
  cases key <;> rfl

theorem assign_ofReference (d : Draft) (key : ReferenceKey) (raw : Text) :
    assign d (.ofReference key) raw = assignReference d (.ofReference key) raw := by
  cases key <;> rfl

/-- In a statement, a key with something written for it is given that, if it opens no statement. -/
theorem step_written {key : Key} {raw : Text} (h : Draft.opens (key.written raw) = false)
    (d : Draft) : step (.within d) (key.written raw) = assign d key raw := by
  have colon : ':' ∈ key.written raw := by simp [Key.written]
  have mark : key.written raw ≠ terminator := by
    intro same
    rw [same] at colon
    exact absurd colon (by decide)
  have name : ':' ∉ key.name := Text.not_mem_of_isPlain Key.isPlain_of_mem_name (by decide)
  have read : scan d (key.written raw) = assign d key raw := by
    simp [scan, Key.written, Text.cut?_append_cons name, Key.ofName?_name]
  simp [step, mark, h, read]

/-- In a statement, a key with one word written for it is given that, if it opens no statement. -/
theorem run_written {key : Key} {raw : Text} (hblank : ∀ c ∈ raw, Text.isBlank c = false)
    (hopens : Draft.opens (key.written raw) = false) (d : Draft) :
    run (.within d) ((key.written raw).words Text.isBlank) = assign d key raw := by
  rw [Key.words_written hblank, run_singleton, step_written hopens]

end Statement

/-! ### Labels -/

namespace Draft

/-- A label opens a statement if `action:` stands behind its opening quote. -/
theorem opens_label_iff (s : Text) :
    opens (Key.label.written ('"' :: s)) = true ↔ actionKey <:+: s := by
  have free : '"' ∉ actionKey := by decide
  have front : ¬ actionKey <:+: Key.label.name ++ [':'] := by decide
  have split : Key.label.written ('"' :: s) = (Key.label.name ++ [':']) ++ '"' :: s := by
    simp [Key.written]
  rw [opens_iff, split, Text.infix_append_cons_iff free, or_iff_right front]

theorem opens_quoted_iff (s : Text) :
    opens (Key.quoted s) = true ↔ actionKey <:+: s := by
  have free : '"' ∉ actionKey := by decide
  have empty : ¬ actionKey <:+: [] := by decide
  rw [Key.quoted, opens_label_iff, Text.infix_append_cons_iff free, or_iff_left empty]

end Draft

namespace Statement

/-- A label and more pieces of it are joined by spaces. -/
theorem foldl_extendLabel {pieces : List Text} (hne : ∀ piece ∈ pieces, piece ≠ []) (text : Text) :
    pieces.foldl extendLabel text = Text.unwords (Token.ofWord text ++ pieces) := by
  induction pieces generalizing text with
  | nil => cases text <;> simp [Token.ofWord, Text.unwords]
  | cons piece pieces ih =>
    have filled := hne piece List.mem_cons_self
    rw [List.foldl_cons, ih fun w hw => hne w (List.mem_cons_of_mem _ hw)]
    -- the label is not empty from here on, so each piece is set off by a space
    cases text with
    | nil => simp [extendLabel, Token.ofWord, filled]
    | cons c text =>
      cases pieces <;> simp [extendLabel, Token.ofWord, filled, Text.unwords, List.intercalate]

/-- In a label, tokens without quotes are pieces of it. -/
theorem run_label_pieces (d : Draft) {pieces : List Text} (hterm : terminator ∉ pieces)
    (hquote : ∀ piece ∈ pieces, '"' ∉ piece) (text : Text) :
    run (.label d text) pieces = (.label d (pieces.foldl extendLabel text), {}) := by
  induction pieces generalizing text with
  | nil => rfl
  | cons piece pieces ih =>
    have mark : piece ≠ terminator := (List.ne_of_not_mem_cons hterm).symm
    have unclosed := Text.dropLast?_of_not_mem (hquote piece List.mem_cons_self)
    have rest := ih (List.not_mem_of_not_mem_cons hterm)
      (fun w hw => hquote w (List.mem_cons_of_mem _ hw)) (extendLabel text piece)
    simp [run, step, mark, unclosed, rest]

/-- The word that the closing quote is glued to is the last piece of a label. -/
theorem run_label_last (d : Draft) {last : Text} (hlast : ∀ c ∈ last, Text.isBlank c = false)
    (text : Text) :
    run (.label d text) ((last ++ ['"']).words Text.isBlank) =
      (.within (d.set .label (some (.text
        ((last.words Text.isBlank).foldl extendLabel text)))), {}) := by
  have free : ∀ c ∈ last ++ ['"'], Text.isBlank c = false := by
    intro c hc
    rcases List.mem_append.mp hc with hc | hc
    · exact hlast c hc
    · rw [List.mem_singleton.mp hc]
      decide
  have mark : last ++ ['"'] ≠ terminator := by
    intro same
    have quote : '"' ∈ last ++ ['"'] := by simp
    rw [same] at quote
    exact absurd quote (by decide)
  have piece : (last.words Text.isBlank).foldl extendLabel text = extendLabel text last := by
    rw [Text.words_of_no_gap hlast]
    cases last <;> simp [extendLabel]
  rw [Text.words_of_no_gap free, if_neg (by simp), run_singleton, piece]
  simp [step, mark, Text.dropLast?_concat]

/-- A label goes on until its closing quote, whatever the words before that look like. -/
theorem run_label (d : Draft) {s : Text} (hquote : '"' ∉ s) (hterm : ';' ∉ s) (text : Text) :
    run (.label d text) ((s ++ ['"']).words Text.isBlank) =
      (.within (d.set .label (some (.text
        (Text.unwords (Token.ofWord text ++ s.words Text.isBlank))))), {}) := by
  rw [← foldl_extendLabel fun w hw => Text.ne_nil_of_mem_words hw]
  obtain ⟨last, free, rfl | ⟨front, c, hc, rfl⟩⟩ := Text.exists_last_word s
  · exact run_label_last d free text
  · -- the words in front of the last gap hold neither quotes nor terminators
    have inside : ∀ {w : Text} {b : Char}, w ∈ front.words Text.isBlank → b ∈ w →
        b ∈ front ++ c :: last :=
      fun hw hb => List.mem_append_left _ ((Text.isInfix_of_mem_words front hw).subset hb)
    have mark : terminator ∉ front.words Text.isBlank := fun hw => hterm (inside hw (by decide))
    have pieces := run_label_pieces d mark (fun w hw hq => hquote (inside hw hq)) text
    rw [List.append_assoc, List.cons_append, Text.words_append_gap hc, run_append, pieces,
      run_label_last d free, Text.words_append_gap hc, List.foldl_append]
    rfl

/-- A label of one word is read back, if `action:` does not stand in it. -/
theorem run_quoted_word (d : Draft) {word : Text} (hblank : ∀ c ∈ word, Text.isBlank c = false)
    (hopens : ¬ Draft.actionKey <:+: word) :
    run (.within d) ((Key.quoted word).words Text.isBlank) =
      (.within (d.set .label (some (.text (Text.unwords (word.words Text.isBlank))))), {}) := by
  have unopened : Draft.opens (Key.quoted word) = false := by
    rwa [Bool.eq_false_iff, ne_eq, Draft.opens_quoted_iff]
  have text : Text.unwords (word.words Text.isBlank) = word := by
    rw [Text.words_of_no_gap hblank]
    cases word <;> simp [Text.unwords]
  rw [Key.words_quoted_word hblank, run_singleton, Key.quoted, step_written unopened, text]
  simp [assign, assignLabel, Text.dropLast?_concat]

/-- A label with white space in it is read back, if `action:` does not stand before that. -/
theorem run_quoted_words (d : Draft) {first rest : Text} {c : Char}
    (hblank : ∀ c ∈ first, Text.isBlank c = false) (hc : Text.isBlank c = true)
    (hquote : '"' ∉ first ++ c :: rest) (hterm : ';' ∉ first ++ c :: rest)
    (hopens : ¬ Draft.actionKey <:+: first) :
    run (.within d) ((Key.quoted (first ++ c :: rest)).words Text.isBlank) =
      (.within (d.set .label (some (.text
        (Text.unwords ((first ++ c :: rest).words Text.isBlank))))), {}) := by
  simp only [List.mem_append, List.mem_cons, not_or] at hquote hterm
  have unopened : Draft.opens (Key.label.written ('"' :: first)) = false := by
    rwa [Bool.eq_false_iff, ne_eq, Draft.opens_label_iff]
  -- the first word opens the label, and the rest goes on with it
  have began : assign d .label ('"' :: first) = (.label d first, {}) := by
    simp [assign, assignLabel, Text.dropLast?_of_not_mem hquote.1]
  rw [Key.words_quoted_append hblank hc, run, step_written unopened, began]
  simp only [run_label d hquote.2.2 hterm.2.2, Text.words_append_gap hc,
    Text.words_of_no_gap hblank]
  rfl

/-- A quoted label is read back, if `action:` does not stand where its opening quote is glued. -/
theorem run_quoted (d : Draft) {s : Text} (hquote : '"' ∉ s) (hterm : ';' ∉ s)
    (hopens : ¬ Draft.actionKey <:+: s.takeWhile fun c => !Text.isBlank c) :
    run (.within d) ((Key.quoted s).words Text.isBlank) =
      (.within (d.set .label (some (.text (Text.unwords (s.words Text.isBlank))))), {}) := by
  have first : ∀ c ∈ s.takeWhile fun c => !Text.isBlank c, Text.isBlank c = false :=
    Text.isGap_of_mem_takeWhile
  rcases Text.takeWhile_eq_self_or Text.isBlank s with whole | ⟨c, rest, hc, parts⟩
  · rw [whole] at first hopens
    exact run_quoted_word d first hopens
  · rw [parts] at hquote hterm ⊢
    exact run_quoted_words d first hc hquote hterm hopens

end Statement

/-- A text that can stand between quotes: it holds no quote, no terminator and no marker. -/
structure Label where
  text : Text
  quote_not_mem : '"' ∉ text
  semicolon_not_mem : ';' ∉ text
  unmarked : ({} : Markers).Unmarked text

namespace Label

/-- The text that a label is read as: its words with one space between neighbours. -/
def value (label : Label) : Text := Text.unwords (label.text.words Text.isBlank)

/-- The part of a label that its opening quote is glued to. -/
def head (label : Label) : Text := label.text.takeWhile fun c => !Text.isBlank c

end Label

/-! ### Fields -/

/-- A key with the value that is written for it. -/
inductive Field
  | shape (kind : ShapeKind)
  | number (key : NumericKey) (n : Literal)
  | reference (key : ReferenceKey) (spelling : Spelling) (r : ShapeRef)
  | label (quoted : Label)

namespace Field

/-- The key of a field. -/
def key : Field → Key
  | .shape _ => .shape
  | .number key _ => .ofNumeric key
  | .reference key _ _ => .ofReference key
  | .label _ => .label

/-- What is written behind the key. -/
def raw : Field → Text
  | .shape kind => kind.name
  | .number _ n => n.text
  | .reference _ spelling r => r.spell spelling
  | .label quoted => '"' :: (quoted.text ++ ['"'])

/-- The value of a field. -/
def value : Field → Value
  | .shape kind => .text kind.name
  | .number _ n => .number n.int64
  | .reference _ _ r => .reference r
  | .label quoted => .text quoted.value

/-- A field as it is written. -/
def text (f : Field) : Text := f.key.written f.raw

/-- The opening quote of a label is not glued to an action. -/
def IsSafe : Field → Prop
  | .label quoted => ¬ Draft.actionKey <:+: quoted.head
  | _ => True

/-- A field is a label, or nothing but plain characters is written for its key. -/
theorem label_or_isPlain (f : Field) :
    (∃ quoted, f = .label quoted) ∨ f.key ≠ .label ∧ ∀ c ∈ f.raw, Text.isPlain c = true := by
  cases f with
  | shape kind =>
    have plain : kind.name.all Text.isPlain = true := by cases kind <;> decide
    exact .inr ⟨Key.noConfusion, List.all_eq_true.mp plain⟩
  | number key n =>
    have other : Key.ofNumeric key ≠ .label := by cases key <;> exact Key.noConfusion
    exact .inr ⟨other, fun _ => Literal.isPlain_of_mem_text⟩
  | reference key spelling r =>
    have other : Key.ofReference key ≠ .label := by cases key <;> exact Key.noConfusion
    exact .inr ⟨other, fun _ => ShapeRef.isPlain_of_mem_spell⟩
  | label quoted => exact .inl ⟨quoted, rfl⟩

/-- What is written for a key other than `label` is read as the value. -/
theorem assign_raw {f : Field} (h : f.key ≠ .label) (d : Draft) :
    Statement.assign d f.key f.raw = (.within (d.set f.key (some f.value)), {}) := by
  cases f with
  | shape kind =>
    have bare : kind.name.trim (· = '"') = kind.name := by cases kind <;> decide
    simp [Statement.assign, key, raw, value, bare]
  | number key n =>
    simp [Statement.assign_ofNumeric, Statement.assignNumber, Field.key, raw, value,
      n.readNumber?_text]
  | reference key spelling r =>
    simp [Statement.assign_ofReference, Statement.assignReference, Field.key, raw, value,
      r.read?_spell]
  | label quoted => exact absurd rfl h

/-- A field that is written is read back. -/
theorem run_words {f : Field} (h : f.IsSafe) (d : Draft) :
    Statement.run (.within d) (f.text.words Text.isBlank) =
      (.within (d.set f.key (some f.value)), {}) := by
  rcases f.label_or_isPlain with ⟨quoted, rfl⟩ | ⟨hkey, plain⟩
  · exact Statement.run_quoted d quoted.quote_not_mem quoted.semicolon_not_mem h
  · have bare := fun c hc => Text.isBlank_eq_false_of_isPlain (plain c hc)
    rw [text, Statement.run_written bare (Key.opens_written plain), assign_raw hkey]

/-- No terminator stands in a field. -/
theorem semicolon_not_mem_text (f : Field) : ';' ∉ f.text := by
  have name : ';' ∉ f.key.name := Text.not_mem_of_isPlain Key.isPlain_of_mem_name (by decide)
  have raw : ';' ∉ f.raw := by
    rcases f.label_or_isPlain with ⟨quoted, rfl⟩ | ⟨-, plain⟩
    · simpa [Field.raw] using quoted.semicolon_not_mem
    · exact Text.not_mem_of_isPlain plain (by decide)
  simp [text, Key.written, name, raw]

/-- No marker stands in a field. -/
theorem unmarked_text (f : Field) : ({} : Markers).Unmarked f.text := by
  have name : '_' ∉ f.key.name := Text.not_mem_of_isPlain Key.isPlain_of_mem_name (by decide)
  rcases f.label_or_isPlain with ⟨quoted, rfl⟩ | ⟨-, plain⟩
  · -- no marker reaches over a quote
    have quotes : ({} : Markers).Avoids (· = '"') := by decide
    have split : (Field.label quoted).text =
        (Key.label.name ++ [':']) ++ '"' :: (quoted.text ++ '"' :: []) := by
      simp [text, Key.written, key, raw]
    have cut := Markers.unmarked_append_cons_iff quotes (c := '"') (by decide)
    rw [split, cut, cut]
    exact ⟨Markers.unmarked_of_not_mem (by decide), quoted.unmarked,
      Markers.unmarked_of_not_mem (by decide)⟩
  · have raw : '_' ∉ f.raw := Text.not_mem_of_isPlain plain (by decide)
    exact Markers.unmarked_of_not_mem (by simp [text, Key.written, name, raw])

/-- The tokens of a field are its words. -/
theorem tokens_text (f : Field) : ({} : Markers).tokens f.text = f.text.words Text.isBlank :=
  Markers.tokens_of_unmarked f.unmarked_text f.semicolon_not_mem_text

end Field

end Whiteboard
