import Whiteboard.Proofs.Fields

/-!
# Tokens that a statement ignores

In an open statement, outside the quotes of a label, a token that is a bare word or has a key of its
own changes nothing. Whether a token opens a statement is asked first, and of the whole of it. So a
token with `action:` in it is not ignored, whatever its key: it ends the statement that is open, just
as a terminator in front of it would.
-/

namespace Whiteboard

namespace Text

/-- A text is cut at the first occurrence of the character. -/
theorem cut?_eq_some_iff {c : Char} {s before after : Text} :
    cut? c s = some (before, after) ↔ s = before ++ c :: after ∧ c ∉ before := by
  constructor
  · intro h
    induction s generalizing before with
    | nil => cases h
    | cons d s ih =>
      rw [cut?] at h
      by_cases here : d = c
      · rw [if_pos here] at h
        cases h
        exact ⟨by rw [here, List.nil_append], List.not_mem_nil⟩
      · rw [if_neg here] at h
        obtain ⟨⟨before', after'⟩, found, same⟩ := Option.map_eq_some_iff.mp h
        cases same
        obtain ⟨parts, free⟩ := ih found
        refine ⟨by rw [parts, List.cons_append], ?_⟩
        exact List.not_mem_cons_of_ne_of_not_mem (Ne.symm here) free
  · rintro ⟨rfl, free⟩
    exact cut?_append_cons free after

end Text

namespace Statement

/-- Behind some tokens of a sequence a statement is open, and no label in it. -/
def IsOpen (explicit : Bool) (front : List Text) : Prop :=
  ∃ d, (run (if explicit then .start else .idle) front).1 = .within d

/-- A token whose key is none that statements have: there is no colon in it, or what stands before
the first one is neither `action` nor the name of a key. -/
def Foreign (token : Text) : Prop :=
  ∀ name raw, token = name ++ ':' :: raw → ':' ∉ name →
    name ≠ "action".toList ∧ ∀ key : Key, name ≠ key.name

instance (explicit : Bool) (front : List Text) : Decidable (IsOpen explicit front) :=
  match h : (run (if explicit then .start else .idle) front).1 with
  | .within d => isTrue ⟨d, h⟩
  | .idle => isFalse fun ⟨_, found⟩ => State.noConfusion (h.symm.trans found)
  | .start => isFalse fun ⟨_, found⟩ => State.noConfusion (h.symm.trans found)
  | .label _ _ => isFalse fun ⟨_, found⟩ => State.noConfusion (h.symm.trans found)

/-- It is enough to look at what stands before the first colon. -/
theorem foreign_iff {token : Text} : Foreign token ↔
    ∀ field ∈ token.cut? ':', field.1 ≠ "action".toList ∧ ∀ key ∈ Key.all, field.1 ≠ key.name := by
  constructor
  · rintro foreign ⟨name, raw⟩ found
    obtain ⟨parts, free⟩ := Text.cut?_eq_some_iff.mp found
    obtain ⟨action, keys⟩ := foreign name raw parts free
    exact ⟨action, fun key _ => keys key⟩
  · intro h name raw parts free
    obtain ⟨action, keys⟩ := h (name, raw) (Text.cut?_eq_some_iff.mpr ⟨parts, free⟩)
    exact ⟨action, fun key => keys key (Key.mem_all key)⟩

instance (token : Text) : Decidable (Foreign token) := decidable_of_iff _ foreign_iff.symm

/-- A token with a key of its own gives no value to a statement. -/
theorem scan_of_foreign {token : Text} (h : Foreign token) (d : Draft) :
    scan d token = (.within d, {}) := by
  unfold scan
  cases found : token.cut? ':' with
  | none => rfl
  | some parts =>
    obtain ⟨name, raw⟩ := parts
    obtain ⟨parts, free⟩ := Text.cut?_eq_some_iff.mp found
    have unknown : Key.ofName? name = none := by
      rw [Option.eq_none_iff_forall_ne_some]
      intro key known
      exact (h name raw parts free).2 key (Key.name_eq_of_ofName? known).symm
    simp only [unknown]

/-- In a statement nothing becomes of such a token, unless it opens another one. -/
theorem step_of_foreign {token : Text} (hterm : token ≠ terminator)
    (hopens : Draft.opens token = false) (h : Foreign token) (d : Draft) :
    step (.within d) token = (.within d, {}) := by
  simpa [step, hterm, hopens] using scan_of_foreign h d

/-- A token that opens a statement ends the open one as a terminator in front of it does. -/
theorem run_of_opens {token : Text} (hopens : Draft.opens token = true) (d : Draft)
    (back : List Text) :
    run (.within d) (token :: back) = run (.within d) (terminator :: token :: back) := by
  have hterm := Draft.ne_terminator_of_opens hopens
  simp [run, step, hterm, hopens]

end Statement

/-- What stands behind an open statement is read from there. -/
theorem Sequence.parse_append_of_run {front : List Text} {explicit : Bool} {state : Statement.State}
    (h : (Statement.run (if explicit then .start else .idle) front).1 = state) (back : List Text)
    (closed : Bool) :
    Sequence.parse ⟨front ++ back, explicit, closed⟩ =
      (Statement.run (if explicit then .start else .idle) front).2 ++
        (Statement.run state back).2 := by
  rw [Sequence.parse, Statement.run_append, h]

/-- **Unknown keys and bare words are ignored.** A token whose key is none that statements have is
put into an open statement, outside the quotes of a label. If there is no `action:` in it, the
sequence is read as it was. And if there is, the sequence is read as if the statement ended in front
of the token. -/
theorem Sequence.parse_insert_foreign {front : List Text} {explicit : Bool}
    (isOpen : Statement.IsOpen explicit front) {token : Text} (hterm : token ≠ terminator)
    (foreign : Statement.Foreign token) (back : List Text) (closed : Bool) :
    let inserted := Sequence.parse ⟨front ++ token :: back, explicit, closed⟩
    (¬ Draft.actionKey <:+: token →
      inserted = Sequence.parse ⟨front ++ back, explicit, closed⟩) ∧
    (Draft.actionKey <:+: token →
      inserted = Sequence.parse ⟨front ++ terminator :: token :: back, explicit, closed⟩) := by
  obtain ⟨d, within⟩ := isOpen
  simp only [Sequence.parse_append_of_run within]
  refine ⟨fun free => ?_, fun action => ?_⟩
  · have hopens : Draft.opens token = false :=
      Bool.eq_false_iff.mpr fun opens => free (Draft.opens_iff.mp opens)
    rw [Statement.run, Statement.step_of_foreign hterm hopens foreign]
    simp
  · rw [Statement.run_of_opens (Draft.opens_iff.mpr action)]

/-- A color and a bare word leave a circle as it is. -/
theorem Sequence.parse_insert_foreign_color :
    let front := ["action:CREATE".toList, "shape:circle".toList]
    let back := ["please".toList, "x:1".toList, "y:2".toList, terminator]
    let circle := Sequence.parse ⟨front ++ back, true, false⟩
    circle.commands.length = 1 ∧
      Sequence.parse ⟨front ++ "color:red".toList :: back, true, false⟩ = circle :=
  ⟨by decide, (parse_insert_foreign (by decide) (by decide) (by decide) _ _).1
    (by rw [← Draft.opens_iff]; decide)⟩

/-- A token that has a key of its own is not ignored if there is `action:` behind the key: it makes
two commands out of one. -/
theorem Sequence.parse_insert_action_ne :
    let front := ["action:CREATE".toList, "shape:circle".toList, "x:1".toList, "y:2".toList]
    let token := "note:action:CREATE".toList
    Statement.IsOpen false front ∧ token ≠ [] ∧ token ≠ terminator ∧ Statement.Foreign token ∧
      Sequence.parse ⟨front ++ token :: [terminator], false, false⟩ ≠
        Sequence.parse ⟨front ++ [terminator], false, false⟩ := by
  decide

end Whiteboard
