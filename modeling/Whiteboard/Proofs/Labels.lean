import Whiteboard.Proofs.Statements

/-!
# How opaque a quoted label is

Between its quotes a label may hold words that look like keys, comments or actions, with one
exception: the part of it up to the first white space belongs to the token that gives the key, and a
token with `action:` in it opens a statement, wherever in the token that stands.
-/

namespace Whiteboard

/-- A shape with a label, and with a name that is written behind the label. -/
structure Labelled where
  kind : ShapeKind
  x : Literal
  y : Literal
  label : Label
  ident : ShapeRef

/-- The first token of a label opens a statement if `action:` is glued to the opening quote. -/
theorem Key.exists_words_quoted (s : Text) :
    ∃ token rest, (quoted s).words Text.isBlank = token :: rest ∧
      (Draft.opens token = true ↔
        Draft.actionKey <:+: s.takeWhile fun c => !Text.isBlank c) := by
  have first : ∀ c ∈ s.takeWhile fun c => !Text.isBlank c, Text.isBlank c = false :=
    Text.isGap_of_mem_takeWhile
  rcases Text.takeWhile_eq_self_or Text.isBlank s with whole | ⟨c, rest, hc, parts⟩
  · rw [whole] at first ⊢
    exact ⟨_, _, words_quoted_word first, Draft.opens_quoted_iff s⟩
  · have words := words_quoted_append first hc rest
    rw [← parts] at words
    exact ⟨_, _, words, Draft.opens_label_iff _⟩

namespace Labelled

/-- The shape as a statement, with one space between its parts:
`action:CREATE shape:… x:… y:… label:"…" id:…;` -/
def text (s : Labelled) : Text :=
  Text.unwords [Statement.createToken, Key.shape.written s.kind.name, Key.x.written s.x.text,
    Key.y.written s.y.text, Key.quoted s.label.text,
    Key.ident.written (Text.decimal s.ident.number.toNat)] ++ terminator

/-- What of the shape stands in front of the label. -/
def start (s : Labelled) : Params :=
  { shape := some (.text s.kind.name)
    x := some (.number s.x.int64)
    y := some (.number s.y.int64) }

/-- The command that is meant. -/
def command (s : Labelled) : Command where
  action := .create
  params := { s.start with
    label := some (.text s.label.value)
    ident := some (.reference s.ident) }

/-- The fields in front of the label. -/
def front (s : Labelled) : List Field :=
  [.shape s.kind, .number .x s.x, .number .y s.y]

/-- All fields. -/
def fields (s : Labelled) : List Field :=
  s.front ++ [.label s.label, .reference .ident .number s.ident]

theorem text_eq_written (s : Labelled) :
    s.text = Statement.written .empty (s.fields.map (Separator.space, ·)) .empty := by
  simp [text, Text.unwords, List.intercalate, Statement.written, Statement.writtenFields, fields,
    front, Separator.space, Gap.empty, Field.text, Field.key, Field.raw, Key.quoted, Key.ofNumeric,
    Key.ofReference, ShapeRef.spell]

/-- The statement is read by its tokens. -/
theorem parse_text (s : Labelled) :
    ({} : Markers).parse s.text = (Statement.run .idle (Statement.writtenTokens s.fields)).2 := by
  have tokens : ({} : Markers).tokens s.text = Statement.writtenTokens s.fields := by
    have written := Markers.tokens_written .empty (s.fields.map (Separator.space, ·)) .empty []
    rw [List.append_nil, Markers.tokens_nil, List.append_nil] at written
    simpa [text_eq_written, List.map_map, Function.comp_def] using written
  exact Markers.parse_bare tokens (fun _ => Statement.ne_marker_of_mem_writtenTokens)
    (.inr (by simp [Statement.writtenTokens]))

/-- What stands in front of the label is read as it should be. -/
theorem run_front (s : Labelled) :
    Statement.run (.within ⟨some .create, {}⟩)
      (s.front.flatMap fun field => field.text.words Text.isBlank) =
        (.within ⟨some .create, s.start⟩, {}) := by
  have safe : ∀ field ∈ s.front, field.IsSafe := by simp [front, Field.IsSafe]
  rw [Statement.run_fields safe]
  rfl

/-- If an action is glued to the opening quote, the first command is the statement up to its
label. -/
theorem head?_commands_of_action {s : Labelled} (h : Draft.actionKey <:+: s.label.head) :
    (({} : Markers).parse s.text).commands.head? = some ⟨.create, s.start⟩ := by
  obtain ⟨token, rest, label, opens_iff⟩ := Key.exists_words_quoted s.label.text
  have opens := opens_iff.mpr h
  have tokens : Statement.writtenTokens s.fields = Statement.createToken ::
      ((s.front.flatMap fun field => field.text.words Text.isBlank) ++ token :: (rest ++
        ((Field.reference .ident .number s.ident).text.words Text.isBlank ++ [terminator]))) := by
    have words : (Field.label s.label).text.words Text.isBlank = token :: rest := label
    simp [Statement.writtenTokens, fields, words]
  -- the token of the key opens a statement, and so ends the one that was open
  have ended : Statement.step (.within ⟨some .create, s.start⟩) token =
      (.within (.ofToken token), { commands := [⟨.create, s.start⟩] }) := by
    simp [Statement.step, Draft.ne_terminator_of_opens opens, opens, Draft.commit]
  rw [parse_text, tokens, Statement.run, Statement.step_createToken (.inl rfl)]
  simp only [Statement.run_append, run_front, Statement.run, ended]
  rfl

/-- **A quoted label is opaque, but for an action that is glued to its opening quote.** -/
theorem parse_text_iff (s : Labelled) :
    ({} : Markers).parse s.text = { commands := [s.command], problems := [] } ↔
      ¬ Draft.actionKey <:+: s.label.head := by
  constructor
  · intro read action
    have first := head?_commands_of_action action
    rw [read] at first
    simp [command, start] at first
  · intro free
    have safe : ∀ field ∈ s.fields, field.IsSafe := by
      simpa [fields, front, Field.IsSafe] using free
    rw [parse_text, Statement.run_writtenTokens safe (.inl rfl)]
    rfl

-- the words of this label are glued to no quote, and stay in it
example :
    ({} : Markers).parse
        "action:CREATE shape:circle x:1 y:2 label:\" action:CREATE // x:9 \" id:3;".toList =
      { commands := [⟨.create, {
        shape := some (.text "circle".toList)
        x := some (.number 1)
        y := some (.number 2)
        label := some (.text "action:CREATE // x:9".toList)
        ident := some (.reference ⟨3⟩) }⟩] } := by
  decide +kernel

-- without the spaces at its ends, the same label ends the statement
example :
    ({} : Markers).parse
        "action:CREATE shape:circle x:1 y:2 label:\"action:CREATE\" id:3;".toList =
      { commands := [⟨.create, {
        shape := some (.text "circle".toList)
        x := some (.number 1)
        y := some (.number 2) }⟩] } := by
  decide +kernel

end Labelled

end Whiteboard
