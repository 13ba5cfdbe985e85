import Whiteboard.Proofs.Ignored

/-!
# The meaning of one statement

What a statement says can be told without a reader that goes from token to token. Its tokens give
values to keys, one after the other, and a label that goes over several tokens gives one. Each key
has the value of its last occurrence, and none if that cannot be read; every occurrence that cannot
be read is a problem. The token that opens the statement gives no value, whatever stands in it.

## Main definitions

* `Statement.Occurrence` — what is written for a key
* `Statement.occurrences` — what some tokens give to keys, in order

## Main results

* `Statement.run_label_append_terminator` — a label takes the tokens up to its closing quote
* `Statement.run_append_terminator_eq` — what the reader makes of the occurrences
* `Statement.get_foldl_give` — the last occurrence of a key counts
* `Sequence.parse_statement` — the meaning of one statement
-/

namespace Whiteboard

namespace Statement

/-! ### Occurrences of keys -/

/-- What is written for a key. For a label this is its text, without the quotes. -/
structure Occurrence where
  key : Key
  text : Text
  deriving DecidableEq

namespace Occurrence

/-- The value of an occurrence, if it can be read: a number, a reference, or the text itself,
for a shape without the quotes around it. -/
def value? (o : Occurrence) : Option Value :=
  match o.key with
  | .shape => some (.text (o.text.trim (· = '"')))
  | .label => some (.text o.text)
  | key =>
    if key.isNumeric then (readNumber? o.text).map .number
    else (ShapeRef.read? o.text).map .reference

/-- What is wrong with an occurrence that cannot be read. -/
def problem? (o : Occurrence) : Option Problem :=
  if o.value?.isSome then none
  else if o.key.isNumeric then some (.unreadableNumber o.key o.text)
  else some (.unreadableReference o.key o.text)

/-- A statement with the value of an occurrence, or without one for its key. -/
def give (d : Draft) (o : Occurrence) : Draft := d.set o.key o.value?

end Occurrence

/-- The key in front of the first colon of a token, with what is written behind the colon. -/
def keyed? (token : Text) : Option (Key × Text) :=
  (token.cut? ':').bind fun (name, raw) => (Key.ofName? name).map (·, raw)

/-- The tokens that a label takes behind its first one: those up to the next that ends in a quote, or
all that are left. -/
def restOfLabel (ts : List Text) : List Text :=
  ts.take (ts.findIdx (fun t => t.getLast? = some '"') + 1)

/-- A token of a label without the closing quote. -/
def unquoted (t : Text) : Text := (t.dropLast? '"').getD t

/-- The pieces of a label, those that are not empty, with one space between neighbours. -/
def joined (pieces : List Text) : Text := Text.unwords (pieces.filter (· ≠ []))

/-- The text of a label, and how many of the tokens behind it belong to it: none, unless there is an
opening quote without its closing one. -/
def labelOf (ts : List Text) : Text → Text × Nat
  | '"' :: inner =>
    match Text.dropLast? '"' inner with
    | some text => (text, 0)
    | none => (joined (inner :: (restOfLabel ts).map unquoted), (restOfLabel ts).length)
  | raw => (raw, 0)

/-- What a token gives to a key, and how many of the tokens behind it belong to that. -/
def occurrence? (t : Text) (ts : List Text) : Option (Occurrence × Nat) :=
  (keyed? t).map fun (key, raw) =>
    if key = .label then (⟨.label, (labelOf ts raw).1⟩, (labelOf ts raw).2) else (⟨key, raw⟩, 0)

/-- The occurrences behind the next `skip` tokens, which belong to a label. -/
def occurrencesFrom : Nat → List Text → List Occurrence
  | _, [] => []
  | skip + 1, _ :: ts => occurrencesFrom skip ts
  | 0, t :: ts =>
    match occurrence? t ts with
    | none => occurrencesFrom 0 ts
    | some (o, taken) => o :: occurrencesFrom taken ts

/-- What some tokens give to keys, in order. -/
def occurrences (ts : List Text) : List Occurrence := occurrencesFrom 0 ts

/-! ### One token -/

/-- A token that neither ends a statement nor opens one is read for its key. -/
theorem step_of_inert {t : Text} (inert : Inert t) (d : Draft) : step (.within d) t = scan d t := by
  simp [step, inert.1, inert.2]

theorem scan_eq (d : Draft) (t : Text) :
    scan d t = match keyed? t with
      | none => (.within d, {})
      | some (key, raw) => assign d key raw := by
  unfold scan keyed?
  cases t.cut? ':' with
  | none => rfl
  | some field =>
    obtain ⟨name, raw⟩ := field
    simp only [Option.bind_some]
    cases Key.ofName? name <;> rfl

theorem assignNumber_eq {key : Key} (h : key.isNumeric = true) (d : Draft) (raw : Text) :
    assignNumber d key raw =
      (.within (Occurrence.give d ⟨key, raw⟩),
        { problems := (Occurrence.problem? ⟨key, raw⟩).toList }) := by
  have value : Occurrence.value? ⟨key, raw⟩ = (readNumber? raw).map .number := by
    cases key <;> first | rfl | cases h
  unfold assignNumber Occurrence.give Occurrence.problem?
  rw [value]
  cases readNumber? raw <;> simp [h]

theorem assignReference_eq {key : Key} (h : key = .source ∨ key = .target ∨ key = .ident)
    (d : Draft) (raw : Text) :
    assignReference d key raw =
      (.within (Occurrence.give d ⟨key, raw⟩),
        { problems := (Occurrence.problem? ⟨key, raw⟩).toList }) := by
  have value : Occurrence.value? ⟨key, raw⟩ = (ShapeRef.read? raw).map .reference := by
    rcases h with rfl | rfl | rfl <;> rfl
  have reference : key.isNumeric = false := by rcases h with rfl | rfl | rfl <;> rfl
  unfold assignReference Occurrence.give Occurrence.problem?
  rw [value]
  cases ShapeRef.read? raw <;> simp [reference]

/-- What a key is given, if it is no label, is its occurrence. -/
theorem assign_of_ne_label {key : Key} (h : key ≠ .label) (d : Draft) (raw : Text) :
    assign d key raw =
      (.within (Occurrence.give d ⟨key, raw⟩),
        { problems := (Occurrence.problem? ⟨key, raw⟩).toList }) := by
  cases key with
  | label => exact absurd rfl h
  | shape => rfl
  | x | y | width | height | endX | endY => exact assignNumber_eq rfl d raw
  | source => exact assignReference_eq (.inl rfl) d raw
  | target => exact assignReference_eq (.inr (.inl rfl)) d raw
  | ident => exact assignReference_eq (.inr (.inr rfl)) d raw

/-! ### Labels -/

theorem restOfLabel_cons (t : Text) (ts : List Text) :
    restOfLabel (t :: ts) = if t.getLast? = some '"' then [t] else t :: restOfLabel ts := by
  unfold restOfLabel
  rw [List.findIdx_cons]
  by_cases closed : t.getLast? = some '"' <;> simp [closed]

/-- A label takes the tokens up to its closing quote, or to the end of the statement. -/
theorem run_label_append_terminator {ts : List Text} (h : terminator ∉ ts) (d : Draft)
    (text : Text) :
    run (.label d text) (ts ++ [terminator]) =
      run (.within (d.set .label (some (.text
        (((restOfLabel ts).map unquoted).foldl extendLabel text)))))
        (ts.drop (restOfLabel ts).length ++ [terminator]) := by
  induction ts generalizing text with
  -- no quote closed the label, so the terminator does
  | nil => simp [restOfLabel, step]
  | cons t ts ih =>
    obtain ⟨mark, rest⟩ := List.ne_and_not_mem_of_not_mem_cons h
    rw [restOfLabel_cons, List.cons_append, run]
    by_cases closed : t.getLast? = some '"'
    · have piece : t.dropLast? '"' = some t.dropLast := if_pos closed
      rw [if_pos closed]
      simp [step, mark.symm, unquoted, piece]
    · have piece : t.dropLast? '"' = none := if_neg closed
      rw [if_neg closed]
      simp [step, mark.symm, unquoted, piece, ih rest]

/-- Pieces of a label that are empty do not matter. -/
theorem foldl_extendLabel_eq_joined (text : Text) (pieces : List Text) :
    pieces.foldl extendLabel text = joined (text :: pieces) := by
  -- only pieces that are not empty are set off by spaces
  have filled : pieces.foldl extendLabel text =
      (pieces.filter (· ≠ [])).foldl extendLabel text := by
    induction pieces generalizing text with
    | nil => rfl
    | cons piece pieces ih =>
      rw [List.foldl_cons, ih]
      cases piece with
      | nil => simp [extendLabel]
      | cons c piece => simp
  rw [filled, foldl_extendLabel (by simp), joined]
  cases text <;> simp [Token.ofWord]

/-- A label is one occurrence of its key, with all the tokens that belong to it. -/
theorem run_assignLabel {ts : List Text} (h : terminator ∉ ts) (d : Draft) (raw : Text) :
    run (assignLabel d raw) (ts ++ [terminator]) =
      run (.within (Occurrence.give d ⟨.label, (labelOf ts raw).1⟩))
        (ts.drop (labelOf ts raw).2 ++ [terminator]) := by
  unfold assignLabel
  split
  case h_1 inner =>
    cases closed : Text.dropLast? '"' inner with
    | some text =>
      simp only [labelOf, closed]
      rfl
    | none =>
      simp only [labelOf, closed, run_label_append_terminator h, foldl_extendLabel_eq_joined]
      rfl
  case h_2 bare =>
    have whole : labelOf ts raw = (raw, 0) := by
      unfold labelOf
      split
      · exact (bare _ rfl).elim
      · rfl
    rw [whole]
    rfl

/-! ### Many tokens -/

/-- A token of a statement gives what it is the occurrence of, if it is one. -/
theorem run_cons_of_inert {t : Text} (inert : Inert t) {ts : List Text} (h : terminator ∉ ts)
    (d : Draft) :
    run (.within d) (t :: (ts ++ [terminator])) =
      match occurrence? t ts with
      | none => run (.within d) (ts ++ [terminator])
      | some (o, taken) =>
        let rest := run (.within (Occurrence.give d o)) (ts.drop taken ++ [terminator])
        (rest.1, { problems := o.problem?.toList } ++ rest.2) := by
  rw [run, step_of_inert inert, scan_eq, occurrence?]
  cases keyed? t with
  | none => rfl
  | some field =>
    obtain ⟨key, raw⟩ := field
    by_cases label : key = .label
    · subst label
      have rest := run_assignLabel h d raw
      simp only [Option.map_some, if_true, assign, rest]
      rfl
    · simp only [Option.map_some, if_neg label, assign_of_ne_label label]
      rfl

/-- What the reader makes of the rest of a statement. -/
theorem run_append_terminator_eq {ts : List Text} (inert : ∀ t ∈ ts, Inert t) (skip : Nat)
    (d : Draft) :
    run (.within d) (ts.drop skip ++ [terminator]) =
      (.idle, { problems := (occurrencesFrom skip ts).filterMap Occurrence.problem? } ++
        ((occurrencesFrom skip ts).foldl Occurrence.give d).commit) := by
  -- a label takes more than one token, so how many are behind it differs in the induction
  induction ts generalizing skip d with
  | nil => simp [occurrencesFrom, step]
  | cons t ts ih =>
    obtain ⟨first, rest⟩ := List.forall_mem_cons.mp inert
    cases skip with
    | succ skip => exact ih rest skip d
    | zero =>
      have free : terminator ∉ ts := fun mem => (rest terminator mem).1 rfl
      rw [List.drop_zero, List.cons_append, run_cons_of_inert first free, occurrencesFrom]
      cases occurrence? t ts with
      | none => exact ih rest 0 d
      | some found =>
        obtain ⟨o, taken⟩ := found
        dsimp only
        rw [ih rest taken, List.filterMap_cons, List.foldl_cons]
        cases o.problem? <;> rfl

/-- Among occurrences, the last one of a key counts. -/
theorem get_foldl_give (occurrences : List Occurrence) (d : Draft) (key : Key) :
    (occurrences.foldl Occurrence.give d).params.get key =
      match (occurrences.filter (·.key = key)).getLast? with
      | none => d.params.get key
      | some o => o.value? := by
  induction occurrences using List.reverseRecOn with
  | nil => rfl
  | append_singleton front o ih =>
    rw [List.foldl_append, List.filter_append]
    by_cases same : o.key = key
    · subst same
      simp [Occurrence.give, Draft.set]
    · have other : (d.params.set o.key o.value?).get key = d.params.get key :=
        Params.get_set_of_ne _ (Ne.symm same) _
      simp [Occurrence.give, Draft.set, same, Params.get_set_of_ne _ (Ne.symm same), ih]

theorem action_foldl_give (occurrences : List Occurrence) (d : Draft) :
    (occurrences.foldl Occurrence.give d).action = d.action := by
  induction occurrences generalizing d with
  | nil => rfl
  | cons o occurrences ih => exact ih _

end Statement

/-! ### Statements -/

/-- What a key is given by the tokens of a statement: the value of its last occurrence, if there is
one and it can be read. -/
def Statement.meaning (ts : List Text) (key : Key) : Option Value :=
  ((occurrences ts).filter (·.key = key)).getLast?.bind Occurrence.value?

/-- **The meaning of one statement.** A token asks for a creation behind its first `action:`, and no
token behind it holds `action:` or is a terminator. Then up to a terminator these tokens are one
command. It gives each key the value of its last occurrence behind the first token, and none if the
key does not occur there or its last occurrence cannot be read. The problems are the occurrences
that cannot be read, in their order. -/
theorem Sequence.parse_statement {first name : Text} {rest : List Text} {explicit : Bool}
    (action : first.after? Draft.actionKey = some name) (create : name.lower = "create".toList)
    (one : ∀ t ∈ rest, t ≠ terminator ∧ ¬ Draft.actionKey <:+: t)
    (noComment : explicit = true → ¬ Statement.comment <+: first) (closed : Bool) :
    ∃ params : Params,
      Sequence.parse ⟨first :: rest ++ [terminator], explicit, closed⟩ =
        { commands := [⟨.create, params⟩]
          problems := (Statement.occurrences rest).filterMap Statement.Occurrence.problem? } ∧
      ∀ key, params.get key = Statement.meaning rest key := by
  have opens : Draft.opens first = true := by rw [Draft.opens, action]; rfl
  have draft : Draft.ofToken first = ⟨some .create, {}⟩ := by
    have read : Action.read? name = some .create := if_pos create
    rw [Draft.ofToken, action, Option.bind_some, read]
  have inert : ∀ t ∈ rest, Statement.Inert t := fun t ht =>
    ⟨(one t ht).1, Bool.eq_false_iff.mpr fun h => (one t ht).2 (Draft.opens_iff.mp h)⟩
  have opened : Statement.step (if explicit then .start else .idle) first =
      (.within ⟨some .create, {}⟩, {}) := by
    have mark := Draft.ne_terminator_of_opens opens
    cases explicit with
    | false => simp [Statement.step, mark, opens, draft]
    | true =>
      have bare : Statement.comment.isPrefixOf first = false := by
        rw [Bool.eq_false_iff, ne_eq, List.isPrefixOf_iff_prefix]
        exact noComment rfl
      simp [Statement.step, mark, opens, draft, bare]
  have read := Statement.run_append_terminator_eq inert 0 ⟨some .create, {}⟩
  have kept := Statement.action_foldl_give (Statement.occurrencesFrom 0 rest) ⟨some .create, {}⟩
  refine ⟨((Statement.occurrences rest).foldl Statement.Occurrence.give ⟨some .create, {}⟩).params,
    ?_, fun key => ?_⟩
  · rw [List.drop_zero, Draft.commit, kept] at read
    simp only [Sequence.parse, List.cons_append, Statement.run, opened, read]
    exact Parsed.ext rfl (List.append_nil _)
  · rw [Statement.get_foldl_give, Statement.meaning, Params.get_empty]
    cases ((Statement.occurrences rest).filter (·.key = key)).getLast? <;> rfl

/-- In the statement `action:Create x:1 label:"two y:9 words" x:wide from:shape3 please` the label
takes the `y`, and the second `x` takes the value of the first. -/
theorem Sequence.parse_statement_label :
    let first : Text := "action:Create".toList
    let rest : List Text := ["x:1".toList, "label:\"two".toList, "y:9".toList, "words\"".toList,
      "x:wide".toList, "from:shape3".toList, "please".toList]
    first.after? Draft.actionKey = some "Create".toList ∧
      (∀ t ∈ rest, t ≠ terminator ∧ ¬ Draft.actionKey <:+: t) ∧
      ¬ Statement.comment <+: first ∧
      ∃ params : Params,
        Sequence.parse ⟨first :: rest ++ [terminator], true, true⟩ =
          ⟨[⟨.create, params⟩], [.unreadableNumber .x "wide".toList]⟩ ∧
        params.get .x = none ∧ params.get .y = none ∧
        params.get .label = some (.text "two y:9 words".toList) ∧
        params.get .source = some (.reference ⟨3⟩) := by
  intro first rest
  have action : first.after? Draft.actionKey = some "Create".toList := by decide
  have one : ∀ t ∈ rest, t ≠ terminator ∧ ¬ Draft.actionKey <:+: t := by
    simp only [← Draft.opens_iff]
    decide
  have noComment : ¬ Statement.comment <+: first := by decide
  have problems : (Statement.occurrences rest).filterMap Statement.Occurrence.problem? =
      [.unreadableNumber .x "wide".toList] := by decide
  obtain ⟨params, same, meant⟩ :=
    Sequence.parse_statement action (by decide) one (fun _ => noComment) true
  refine ⟨action, one, noComment, params, ?_, ?_, ?_, ?_, ?_⟩
  · rw [same, problems]
  · exact (meant .x).trans (by decide)
  · exact (meant .y).trans (by decide)
  · exact (meant .label).trans (by decide)
  · exact (meant .source).trans (by decide)

/-- What the first token says before its `action:` is no value of the statement, even if it has the
form of one: `id:7action:create` names no shape. -/
theorem Sequence.parse_statement_first_ne :
    let first : Text := "id:7action:create".toList
    let rest : List Text := ["shape:circle".toList, "x:1".toList, "y:2".toList]
    first.after? Draft.actionKey = some "create".toList ∧
      (∀ t ∈ first :: rest, t ≠ [] ∧ t ≠ terminator) ∧ (∀ t ∈ rest, ¬ Draft.actionKey <:+: t) ∧
      ¬ ∃ params : Params,
        Sequence.parse ⟨first :: rest ++ [terminator], false, false⟩ =
          { commands := [⟨.create, params⟩]
            problems :=
              (Statement.occurrences (first :: rest)).filterMap Statement.Occurrence.problem? } ∧
        ∀ key, params.get key = Statement.meaning (first :: rest) key := by
  refine ⟨by decide, by decide, by simp only [← Draft.opens_iff]; decide, ?_⟩
  rintro ⟨params, same, meant⟩
  have unnamed : (Sequence.parse ⟨["id:7action:create".toList, "shape:circle".toList, "x:1".toList,
      "y:2".toList] ++ [terminator], false, false⟩).commands.map (·.params.get .ident) = [none] := by
    decide
  rw [same, List.map_singleton, List.singleton_inj, meant] at unnamed
  exact absurd unnamed (by decide)

end Whiteboard
