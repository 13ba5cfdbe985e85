import Whiteboard.Command.Validation
import Whiteboard.Proofs.Statements

/-!
# What is written is read

A description of a shape is written as a statement, with its fields in any order and any white space
between them. A script of such statements, bare or between markers, is read back as the descriptions
in order, and one that meets the rules of its kind asks for the shape that was described.
-/

namespace Whiteboard

/-! ### Descriptions -/

/-- A label without an action in it. -/
structure PlainLabel extends Label where
  no_action : ¬ Draft.actionKey <:+: text

/-- A shape as a statement describes it. -/
structure Description where
  kind : ShapeKind
  x : Option Literal := none
  y : Option Literal := none
  width : Option Literal := none
  height : Option Literal := none
  label : Option PlainLabel := none
  endX : Option Literal := none
  endY : Option Literal := none
  source : Option ShapeRef := none
  target : Option ShapeRef := none
  ident : Option ShapeRef := none

namespace Description

/-- The field that is written for a key, if there is one. -/
def field? (d : Description) : Key → Option Field
  | .shape => some (.shape d.kind)
  | .x => d.x.map (.number .x)
  | .y => d.y.map (.number .y)
  | .width => d.width.map (.number .width)
  | .height => d.height.map (.number .height)
  | .label => d.label.map fun label => .label label.toLabel
  | .endX => d.endX.map (.number .endX)
  | .endY => d.endY.map (.number .endY)
  | .source => d.source.map (.reference .source .named)
  | .target => d.target.map (.reference .target .named)
  | .ident => d.ident.map (.reference .ident .named)

/-- The fields that are written, once each. -/
def fields (d : Description) : List Field := Key.all.filterMap d.field?

/-- The command that is meant. -/
def command (d : Description) : Command where
  action := .create
  params := {
    shape := some (.text d.kind.name)
    x := d.x.map fun n => .number n.int64
    y := d.y.map fun n => .number n.int64
    width := d.width.map fun n => .number n.int64
    height := d.height.map fun n => .number n.int64
    label := d.label.map fun label => .text label.value
    endX := d.endX.map fun n => .number n.int64
    endY := d.endY.map fun n => .number n.int64
    source := d.source.map .reference
    target := d.target.map .reference
    ident := d.ident.map .reference }

theorem get_params (d : Description) (key : Key) :
    d.command.params.get key = (d.field? key).map Field.value := by
  cases key <;> simp [command, Params.get, field?, Function.comp_def, Field.value]

theorem key_of_field? {d : Description} {key : Key} {field : Field}
    (h : d.field? key = some field) : field.key = key := by
  cases key <;> simp only [field?, Option.map_eq_some_iff, Option.some_inj] at h
  · exact h ▸ rfl
  all_goals
    obtain ⟨_, -, rfl⟩ := h
    rfl

/-- The parameters of the command are those that the fields give, in whatever order. -/
theorem paramsOf_eq {d : Description} {fields : List Field} (h : fields.Perm d.fields) :
    Statement.paramsOf fields = d.command.params := by
  -- which fields there are does not depend on their order, and no two have one key
  refine Params.ofList_eq fun key v => ?_
  rw [d.get_params, Option.map_eq_some_iff, List.mem_map]
  constructor
  · rintro ⟨field, inside, same⟩
    obtain ⟨rfl, rfl⟩ := Prod.mk.inj same
    obtain ⟨key, -, found⟩ := List.mem_filterMap.mp (h.mem_iff.mp inside)
    rw [key_of_field? found]
    exact ⟨field, found, rfl⟩
  · rintro ⟨field, found, rfl⟩
    refine ⟨field, h.mem_iff.mpr (List.mem_filterMap.mpr ⟨key, key.mem_all, found⟩), ?_⟩
    rw [key_of_field? found]

/-- No field of a description has an action glued to its opening quote. -/
theorem isSafe_of_mem_fields {d : Description} {field : Field} (h : field ∈ d.fields) :
    field.IsSafe := by
  obtain ⟨key, -, found⟩ := List.mem_filterMap.mp h
  cases field with
  | label quoted =>
    obtain rfl : Key.label = key := key_of_field? found
    obtain ⟨label, -, same⟩ := Option.map_eq_some_iff.mp found
    obtain rfl := Field.label.inj same
    exact fun inside => label.no_action (inside.trans (List.takeWhile_prefix _).isInfix)
  | shape kind => trivial
  | number key n => trivial
  | reference key spelling r => trivial

/-- The rules that a kind has for what must be there. -/
structure MeetsRules (d : Description) : Prop where
  x : d.x.isSome
  y : d.y.isSome
  size : d.kind.needsSize → d.width.isSome ∧ d.height.isSome
  arrowEnd : d.kind = .arrow →
    d.endX.isSome ∧ d.endY.isSome ∨ d.source.isSome ∧ d.target.isSome

/-- The shape that is meant. -/
def spec (d : Description) (h : d.MeetsRules) : ShapeSpec where
  kind := d.kind
  x := .ofInt (d.x.get h.x).value
  y := .ofInt (d.y.get h.y).value
  width := d.width.map fun n => .ofInt n.value
  height := d.height.map fun n => .ofInt n.value
  label := (d.label.map fun label => label.value).getD []
  endX := d.endX.map fun n => .ofInt n.value
  endY := d.endY.map fun n => .ofInt n.value
  source := d.source
  target := d.target
  ident := d.ident

theorem number?_of_get {c : Command} (key : Key) {n : Option Literal}
    (h : c.params.get key = n.map fun n => .number n.int64) :
    c.number? key = n.map Literal.int64 := by
  rw [Command.number?, h]
  cases n <;> rfl

theorem coordinate?_of_get {c : Command} (key : Key) {n : Option Literal}
    (h : c.params.get key = n.map fun n => .number n.int64) :
    c.coordinate? key = n.map fun n => .ofInt n.value := by
  rw [Command.coordinate?, number?_of_get key h]
  cases n <;> simp [Literal.toInt_int64]

theorem coordinate?_of_isSome {c : Command} (key : Key) {n : Option Literal}
    (h : c.params.get key = n.map fun n => .number n.int64) (hn : n.isSome) :
    c.coordinate? key = some (.ofInt (n.get hn).value) := by
  obtain ⟨n, rfl⟩ := Option.isSome_iff_exists.mp hn
  exact coordinate?_of_get key h

theorem reference?_of_get {c : Command} (key : Key) {r : Option ShapeRef}
    (h : c.params.get key = r.map .reference) : c.reference? key = r := by
  rw [Command.reference?, h]
  cases r <;> rfl

/-- An arrow has an end if it was described with one. -/
theorem hasArrowEnd_command (d : Description) :
    d.command.hasArrowEnd =
      ((d.endX.isSome && d.endY.isSome) || (d.source.isSome && d.target.isSome)) := by
  rw [Command.hasArrowEnd, number?_of_get .endX (n := d.endX) rfl,
    number?_of_get .endY (n := d.endY) rfl, reference?_of_get .source (r := d.source) rfl,
    reference?_of_get .target (r := d.target) rfl, Option.isSome_map, Option.isSome_map]

/-- A command is valid if the rules of its kind are met, and asks for the shape that is meant. -/
theorem validate_command (d : Description) (h : d.MeetsRules) :
    d.command.validate = .ok (d.spec h) := by
  have shape : (d.command.text? .shape).bind ShapeKind.read? = some d.kind := by
    have read : ShapeKind.read? d.kind.name = some d.kind := by cases d.kind <;> decide
    simpa [Command.text?, command, Params.get, Value.text?] using read
  have label : d.command.text? .label = d.label.map fun label => label.value := by
    cases hlabel : d.label <;> simp [Command.text?, command, Params.get, Value.text?, hlabel]
  have x := coordinate?_of_isSome (c := d.command) .x rfl h.x
  have y := coordinate?_of_isSome (c := d.command) .y rfl h.y
  have width := coordinate?_of_get (c := d.command) .width (n := d.width) rfl
  have height := coordinate?_of_get (c := d.command) .height (n := d.height) rfl
  have endX := coordinate?_of_get (c := d.command) .endX (n := d.endX) rfl
  have endY := coordinate?_of_get (c := d.command) .endY (n := d.endY) rfl
  have source := reference?_of_get (c := d.command) .source (r := d.source) rfl
  have target := reference?_of_get (c := d.command) .target (r := d.target) rfl
  have ident := reference?_of_get (c := d.command) .ident (r := d.ident) rfl
  -- the two rules that depend on the kind are met
  have size : (d.kind.needsSize && (d.width.isNone || d.height.isNone)) = false := by
    cases needed : d.kind.needsSize with
    | false => rfl
    | true => simp [← Option.not_isSome, h.size needed]
  have arrowEnd : (decide (d.kind = .arrow) && !d.command.hasArrowEnd) = false := by
    rw [hasArrowEnd_command]
    by_cases arrow : d.kind = .arrow
    · rcases h.arrowEnd arrow with ⟨first, second⟩ | ⟨first, second⟩ <;> simp [first, second]
    · simp [arrow]
  rw [Command.validate, shape, x, y]
  simp [width, height, size, arrowEnd, label, endX, endY, source, target, ident, spec]

end Description

/-! ### Scripts of descriptions -/

/-- One of the ways to write a description: its fields once each, in any order. -/
structure Wording where
  description : Description
  /-- The white space in front of the statement. -/
  before : Gap
  /-- The fields, each behind some white space. -/
  fields : List (Separator × Field)
  perm : (fields.map Prod.snd).Perm description.fields
  /-- The white space in front of the terminator. -/
  after : Gap

namespace Wording

/-- The statement as it is written. -/
def text (w : Wording) : Text := Statement.written w.before w.fields w.after

/-- The tokens of the statement. -/
def tokens (w : Wording) : List Text := Statement.writtenTokens (w.fields.map Prod.snd)

/-- Statements one behind the other, and white space at the end. -/
def bareScript (wordings : List Wording) (last : Gap) : Text :=
  wordings.flatMap text ++ last.text

/-- Statements between an opening and a closing marker, with white space around them. -/
def markedScript (first : Gap) (wordings : List Wording) (last trail : Gap) : Text :=
  first.text ++ (({} : Markers).opening ++
    (bareScript wordings last ++ (({} : Markers).closing ++ trail.text)))

/-- The commands that are meant. -/
def commands (wordings : List Wording) : List Command := wordings.map fun w => w.description.command

theorem tokens_text_append (wordings : List Wording) (rest : Text) :
    ({} : Markers).tokens (wordings.flatMap text ++ rest) =
      wordings.flatMap tokens ++ ({} : Markers).tokens rest := by
  induction wordings with
  | nil => rfl
  | cons w wordings ih =>
    rw [List.flatMap_cons, List.append_assoc, text, Markers.tokens_written, ih, List.flatMap_cons,
      List.append_assoc]
    rfl

/-- Statements are read one after the other. -/
theorem run_tokens (wordings : List Wording) {state : Statement.State}
    (hstate : state = .idle ∨ state = .start) :
    (Statement.run state (wordings.flatMap tokens)).2 = { commands := commands wordings } := by
  induction wordings generalizing state with
  | nil => rfl
  | cons w wordings ih =>
    have safe : ∀ field ∈ w.fields.map Prod.snd, field.IsSafe := fun field hfield =>
      Description.isSafe_of_mem_fields (w.perm.mem_iff.mp hfield)
    -- behind the terminator no statement is open, wherever the first one began
    rw [List.flatMap_cons, Statement.run_append, tokens, Statement.run_writtenTokens safe hstate,
      ih (.inl rfl), Description.paramsOf_eq w.perm]
    rfl

theorem ne_marker_of_mem_tokens {wordings : List Wording} :
    ∀ t ∈ wordings.flatMap tokens, t ≠ ({} : Markers).opening ∧ t ≠ ({} : Markers).closing := by
  intro t ht
  obtain ⟨w, -, hw⟩ := List.mem_flatMap.mp ht
  exact Statement.ne_marker_of_mem_writtenTokens hw

/-- **What is written is read.** Descriptions that are written as statements, in any wording, bare
or between markers, are read back as their commands, and there is nothing wrong with the script. A
command that meets the rules of its kind is valid, and asks for the shape that was described. -/
theorem parse_script (wordings : List Wording) (first last trail : Gap) :
    ({} : Markers).parse (bareScript wordings last) =
        { commands := commands wordings, problems := [] } ∧
      ({} : Markers).parse (markedScript first wordings last trail) =
        { commands := commands wordings, problems := [] } ∧
      ∀ w ∈ wordings, ∀ h : w.description.MeetsRules,
        w.description.command.validate = .ok (w.description.spec h) := by
  have blank : ∀ gap : Gap, ({} : Markers).tokens gap.text = [] := fun gap => by
    simpa using Markers.tokens_gap_append Markers.avoids_isBlank gap.isBlank []
  refine ⟨?_, ?_, fun w _ h => w.description.validate_command h⟩
  · have bare : ({} : Markers).tokens (bareScript wordings last) = wordings.flatMap tokens := by
      rw [bareScript, tokens_text_append, blank, List.append_nil]
    -- a text without markers is a script only if a terminator stands in it
    have ended : wordings.flatMap tokens = [] ∨ terminator ∈ wordings.flatMap tokens := by
      cases wordings with
      | nil => exact .inl rfl
      | cons w wordings => exact .inr (by simp [tokens, Statement.writtenTokens])
    rw [Markers.parse_bare bare ne_marker_of_mem_tokens ended, run_tokens wordings (.inl rfl)]
  · have opening : ∀ s, ({} : Markers).leading? (({} : Markers).opening ++ s) =
        some ({} : Markers).opening := fun s => rfl
    have closing : ∀ s, ({} : Markers).leading? (({} : Markers).closing ++ s) =
        some ({} : Markers).closing := fun s => rfl
    have marked : ({} : Markers).tokens (markedScript first wordings last trail) =
        ({} : Markers).opening :: (wordings.flatMap tokens ++ [({} : Markers).closing]) := by
      have blanks := Markers.avoids_isBlank
      rw [markedScript, Markers.tokens_gap_append blanks first.isBlank,
        Markers.tokens_of_leading? blanks (opening _), List.drop_left, bareScript,
        List.append_assoc, tokens_text_append, Markers.tokens_gap_append blanks last.isBlank,
        Markers.tokens_of_leading? blanks (closing _), List.drop_left, blank]
    rw [Markers.parse_marked (by decide) marked ne_marker_of_mem_tokens,
      run_tokens wordings (.inr rfl)]

/-- A description with its fields from the last to the first, and single spaces. -/
def reversed (d : Description) : Wording where
  description := d
  before := .empty
  fields := d.fields.reverse.map (Separator.space, ·)
  perm := by simp [List.map_map, Function.comp_def, List.reverse_perm]
  after := .empty

/-- A circle with a name, and with a label of some words. -/
def circle : Description where
  kind := .circle
  x := some ⟨-5, by decide⟩
  y := some ⟨7, by decide⟩
  label := some ⟨⟨"two  words: x:9".toList, by decide, by decide,
    Markers.unmarked_of_not_mem (by decide)⟩, mt Draft.opens_iff.mpr (by decide)⟩
  ident := some ⟨3⟩

theorem meetsRules_circle : circle.MeetsRules := ⟨rfl, rfl, nofun, nofun⟩

theorem parse_script_circle :
    bareScript [reversed circle] .empty =
        "action:CREATE id:shape3 label:\"two  words: x:9\" y:7 x:-5 shape:circle;".toList ∧
      ({} : Markers).parse (bareScript [reversed circle] .empty) =
        { commands := [circle.command], problems := [] } ∧
      circle.command.validate = .ok (circle.spec meetsRules_circle) := by
  have read := parse_script [reversed circle] .empty .empty .empty
  exact ⟨by decide +kernel, read.1, read.2.2 (reversed circle) List.mem_cons_self meetsRules_circle⟩

end Wording

end Whiteboard
