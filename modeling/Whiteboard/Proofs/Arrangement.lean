import Whiteboard.Proofs.Configuration
import Whiteboard.Proofs.Statements
import Whiteboard.Proofs.Twins

/-!
# The place of an arrow

A script is drawn shapes first, so the place of an arrow among the shapes does not matter: an arrow
may stand before the shapes that it refers to as well as behind them. Two scripts of the same
statements are drawn alike if the shapes have the same order in both, and the arrows do.
-/

namespace Whiteboard

/-- A text that is one statement: it holds no marker and no terminator, and with a terminator behind
it it is read as one command, which breaks no rule. -/
structure Clause (m : Markers) where
  text : Text
  command : Command
  spec : ShapeSpec
  unmarked : m.Unmarked text
  semicolon_not_mem : ';' ∉ text
  commands_parse : (m.parse (text ++ terminator)).commands = [command]
  spec?_command : command.spec? = some spec

namespace Clause

variable {m : Markers}

/-- Whether a statement asks for an arrow. -/
def isArrow (clause : Clause m) : Bool := clause.spec.isArrow

/-- Statements as a script, each with a terminator behind it. -/
def script (clauses : List (Clause m)) : Text :=
  clauses.flatMap fun clause => clause.text ++ terminator

/-- The tokens of a statement with its terminator. -/
def tokens (clause : Clause m) : List Text := clause.text.words Text.isBlank ++ [terminator]

/-! ### What a script is read as -/

variable (blank : m.Avoids Text.isBlank) (semicolon : m.Avoids (· = ';'))
include blank semicolon

theorem tokens_script (clauses : List (Clause m)) :
    m.tokens (script clauses) = clauses.flatMap tokens := by
  induction clauses with
  | nil => exact Markers.tokens_nil m
  | cons clause clauses ih =>
    have split : script (clause :: clauses) = clause.text ++ ';' :: script clauses := by
      simp [script, terminator]
    rw [split, Markers.tokens_append_terminator blank semicolon, ih,
      Markers.tokens_of_unmarked clause.unmarked clause.semicolon_not_mem, List.flatMap_cons, tokens,
      List.append_assoc]
    rfl

omit blank in
/-- No marker is among the tokens of a statement. -/
theorem ne_marker_of_mem_tokens {clause : Clause m} {t : Text} (h : t ∈ clause.tokens) :
    t ≠ m.opening ∧ t ≠ m.closing := by
  rcases List.mem_append.mp h with h | h
  · exact (clause.unmarked.of_infix (Text.isInfix_of_mem_words _ h)).ne_marker
  · rw [List.mem_singleton.mp h]
    have mark : ';' ∈ terminator := List.mem_singleton_self _
    exact ⟨fun same => of_decide_eq_false (semicolon.1 ';' (same ▸ mark)) rfl,
      fun same => of_decide_eq_false (semicolon.2 ';' (same ▸ mark)) rfl⟩

/-- A script is read from its first token to its last. -/
theorem parse_script_eq_run (clauses : List (Clause m)) :
    m.parse (script clauses) = (Statement.run .idle (clauses.flatMap tokens)).2 := by
  refine Markers.parse_bare (tokens_script blank semicolon clauses) ?_ ?_
  · intro t ht
    obtain ⟨clause, -, ht⟩ := List.mem_flatMap.mp ht
    exact ne_marker_of_mem_tokens semicolon ht
  · cases clauses with
    | nil => exact .inl rfl
    | cons clause clauses => exact .inr (by simp [tokens])

/-- A script is read statement by statement. -/
theorem commands_parse_script (clauses : List (Clause m)) :
    (m.parse (script clauses)).commands = clauses.map command := by
  rw [parse_script_eq_run blank semicolon]
  induction clauses with
  | nil => rfl
  | cons clause clauses ih =>
    have one := parse_script_eq_run blank semicolon [clause]
    have text : script [clause] = clause.text ++ terminator := List.append_nil _
    rw [text, List.flatMap_singleton] at one
    have first := clause.commands_parse
    rw [one] at first
    -- behind its terminator a statement leaves nothing to those that follow
    rw [List.flatMap_cons, tokens, Statement.run_append_terminator, Parsed.commands_append, ih,
      ← tokens, first]
    rfl

omit blank semicolon

/-! ### What a script asks for -/

theorem specs_map_command (clauses : List (Clause m)) :
    Command.specs (clauses.map command) = clauses.map spec := by
  rw [Command.specs, List.filterMap_map, ← List.filterMap_eq_map]
  congr 1
  funext clause
  exact clause.spec?_command

theorem shapes_map_command (clauses : List (Clause m)) :
    Command.shapes (clauses.map command) = (clauses.filter fun c => !c.isArrow).map spec := by
  rw [Command.shapes, specs_map_command, List.filter_map]
  rfl

theorem arrows_map_command (clauses : List (Clause m)) :
    Command.arrows (clauses.map command) = (clauses.filter isArrow).map spec := by
  rw [Command.arrows, specs_map_command, List.filter_map]
  rfl

end Clause

/-! ### What is drawn for a text -/

/-- On two new boards a batch is drawn in the same way, up to ids. -/
theorem Memory.exists_perm_drawBatch {supply supply' : Nat → SurfaceId}
    (distinct : Function.Injective supply) (distinct' : Function.Injective supply')
    (policy : Policy) (finality : Finality) {batch : Batch} (sorted : batch.IsSorted) :
    let drawn := (surface supply).drawBatch policy finality batch {} {}
    let drawn' := (surface supply').drawBatch policy finality batch {} {}
    ∃ σ : Equiv.Perm SurfaceId, drawn'.1 = drawn.1.map (Fate.rename σ) ∧
      drawn'.2.1 = drawn.2.1.rename σ := by
  intro drawn drawn'
  have carries : Carries {} {} := ⟨rfl, fun _ _ found => by cases found⟩
  have given : (drawn.1.created.map Created.id).Nodup :=
    (carries.gives_drawBatch supply policy finality batch).nodup distinct
  have given' : (drawn'.1.created.map Created.id).Nodup :=
    (carries.gives_drawBatch supply' policy finality batch).nodup distinct'
  obtain ⟨σ, takes⟩ := Renaming.exists_perm
    (given.sublist (Fates.map_fst_idPairs_sublist drawn.1 drawn'.1))
    (given'.sublist (Fates.map_snd_idPairs_sublist drawn.1 drawn'.1))
  -- there are no names yet, so renaming leaves the bindings
  have carries' : Carries {} (Bindings.rename σ {}) := carries
  obtain ⟨fates, known⟩ := carries.twins_drawBatch carries' (.refl policy) sorted takes
  exact ⟨σ, Fates.eq_map_rename_of_twins fates fun apart => apart.1 rfl, known⟩

/-- A session that is new draws everything that a text asks for. -/
theorem Session.batch_new (config : Config) (text : Text) :
    Session.batch { config } text =
      ⟨Command.shapes (config.markers.parse text).commands,
        Command.arrows (config.markers.parse text).commands⟩ := rfl

namespace Clause

variable {supply supply' : Nat → SurfaceId} {config : Config} {lookup : Text → Option Text}
  {clauses clauses' : List (Clause config.markers)}

/-- **The place of an arrow does not matter.** Two texts have the same statements, and their shapes
stand in the same order, and so do their arrows. Then new sessions on new memory surfaces draw the
same for them when they finish: the same calls in the same order, the same references that mean no
shape, and the same meanings of names, up to one renaming of ids. -/
theorem finish_rearranged (accepted : Config.ofLookup lookup = .ok config)
    (shapes : (clauses'.filter fun c => !c.isArrow) = clauses.filter fun c => !c.isArrow)
    (arrows : clauses'.filter isArrow = clauses.filter isArrow)
    (distinct : Function.Injective supply) (distinct' : Function.Injective supply') :
    let out := Session.handle (Memory.surface supply) { config } (.finish (script clauses)) {}
    let out' := Session.handle (Memory.surface supply') { config } (.finish (script clauses')) {}
    ∃ (report report' : BatchReport) (σ : Equiv.Perm SurfaceId),
      out.1 = some report ∧ out'.1 = some report' ∧
      report'.created = report.created.map (Created.rename σ) ∧
      report'.diagnostics.filter Diagnostic.isUnresolved =
        report.diagnostics.filter Diagnostic.isUnresolved ∧
      ∀ r, out'.2.1.ids.resolve? r = (out.2.1.ids.resolve? r).map σ := by
  obtain ⟨blank, semicolon⟩ := Config.avoids_of_ofLookup accepted
  have same : Session.batch { config } (script clauses') =
      Session.batch { config } (script clauses) := by
    rw [Session.batch_new, Session.batch_new, commands_parse_script blank semicolon,
      commands_parse_script blank semicolon, shapes_map_command, shapes_map_command,
      arrows_map_command, arrows_map_command, shapes, arrows]
  have sorted : (Session.batch { config } (script clauses)).IsSorted :=
    Session.isSorted_batch (List.forall_mem_nil _) (script clauses)
  obtain ⟨σ, fates, known⟩ :=
    Memory.exists_perm_drawBatch distinct distinct' config.policy .last sorted
  rw [Session.handle_finish, Session.handle_finish]
  -- the two runs are only looked at through their fates and their bindings
  generalize drawn : Session.process (Memory.surface supply) { config } .last (script clauses) {} =
    out
  generalize drawn' :
    Session.process (Memory.surface supply') { config } .last (script clauses') {} = out'
  have first : out'.1.fates = out.1.fates.map (Fate.rename σ) := by
    rw [← drawn, ← drawn', Session.fates_process, Session.fates_process, same]
    exact fates
  have second : out'.2.1.ids = out.2.1.ids.rename σ := by
    rw [← drawn, ← drawn', Session.ids_process, Session.ids_process, same, ← known]
  refine ⟨out.1, out'.1, σ, rfl, rfl, ?_, ?_, fun r => ?_⟩
  · rw [BatchReport.created, first, Fates.created_rename]
    rfl
  · rw [BatchReport.filter_diagnostics _ (fun _ => rfl) (fun _ => rfl),
      BatchReport.filter_diagnostics _ (fun _ => rfl) (fun _ => rfl), first,
      Fates.diagnostics_rename]
  · dsimp only
    rw [second, Bindings.resolve?_rename]

/-- A circle with a name. -/
def circle : Clause {} where
  text := "action:create shape:circle x:0 y:0 id:1".toList
  command := ⟨.create, .ofList [(.shape, .text "circle".toList), (.x, .number 0), (.y, .number 0),
    (.ident, .reference ⟨1⟩)]⟩
  spec := { (default : ShapeSpec) with kind := .circle, ident := some ⟨1⟩ }
  unmarked := Markers.unmarked_of_not_mem (by decide)
  semicolon_not_mem := by decide
  commands_parse := by decide +kernel
  spec?_command := by decide +kernel

/-- An arrow from the circle to itself. -/
def loop : Clause {} where
  text := "action:create shape:arrow x:0 y:0 from:1 to:1".toList
  command := ⟨.create, .ofList [(.shape, .text "arrow".toList), (.x, .number 0), (.y, .number 0),
    (.source, .reference ⟨1⟩), (.target, .reference ⟨1⟩)]⟩
  spec := { (default : ShapeSpec) with kind := .arrow, source := some ⟨1⟩, target := some ⟨1⟩ }
  unmarked := Markers.unmarked_of_not_mem (by decide)
  semicolon_not_mem := by decide
  commands_parse := by decide +kernel
  spec?_command := by decide +kernel

/-- Whether the arrow stands behind the circle or before it, both its ends are bound to the
circle. -/
theorem finish_rearranged_loop :
    Config.ofLookup (fun _ => none) = .ok {} ∧ Function.Injective SurfaceId.mk ∧
      ∃ (report report' : BatchReport) (σ : Equiv.Perm SurfaceId),
        (Session.handle (Memory.surface SurfaceId.mk) {} (.finish (script [circle, loop])) {}).1 =
          some report ∧
        (Session.handle (Memory.surface SurfaceId.mk) {} (.finish (script [loop, circle])) {}).1 =
          some report' ∧
        report.created = [⟨⟨0⟩, circle.spec, none, none⟩, ⟨⟨1⟩, loop.spec, some ⟨0⟩, some ⟨0⟩⟩] ∧
        report'.created = report.created.map (Created.rename σ) := by
  have accepted : Config.ofLookup (fun _ => none) = .ok {} := rfl
  have distinct : Function.Injective SurfaceId.mk := fun _ _ => SurfaceId.mk.inj
  have swapped : ∀ {m : Markers} (a b : Clause m), a.isArrow = false → b.isArrow = true →
      (([b, a].filter fun c => !c.isArrow) = [a, b].filter fun c => !c.isArrow) ∧
        [b, a].filter isArrow = [a, b].filter isArrow := by
    intro m a b shape arrow
    simp [shape, arrow]
  obtain ⟨shapes, arrows⟩ := swapped circle loop rfl rfl
  obtain ⟨report, report', σ, told, told', same, -⟩ :=
    finish_rearranged accepted shapes arrows distinct distinct
  refine ⟨accepted, distinct, report, report', σ, told, told', ?_, same⟩
  have drawn : ((Session.handle (Memory.surface SurfaceId.mk) {} (.finish (script [circle, loop]))
      {}).1.map BatchReport.created) =
        some [⟨⟨0⟩, circle.spec, none, none⟩, ⟨⟨1⟩, loop.spec, some ⟨0⟩, some ⟨0⟩⟩] := by
    decide +kernel
  rw [told] at drawn
  exact Option.some.inj drawn

end Clause

end Whiteboard
