import Mathlib.Data.List.Basic
import Mathlib.Data.List.Induction
import Whiteboard.Script.Snapshot

/-!
# What a token can do

Only the terminator and a token that opens the next statement make a statement yield its command.
Any other token is inert. Whether a token opens a statement is a matter of its characters up to its
last colon, so more characters behind it do not change that.
-/

namespace Whiteboard

/-- Something follows a pattern in a text if the pattern stands in it. -/
theorem Text.isSome_after?_iff {s pattern : Text} :
    (s.after? pattern).isSome ↔ pattern <:+: s := by
  induction s with
  | nil => cases pattern <;> simp [Text.after?]
  | cons c s ih =>
    -- the pattern stands at the front or further on
    rw [Text.after?, List.infix_cons_iff]
    cases found : pattern.isPrefixOf? (c :: s) with
    | some rest =>
      have front := List.isPrefixOf?_eq_some_iff_append_eq.mp found
      simpa using .inl ⟨rest, front⟩
    | none =>
      have not_front : ¬ pattern <+: c :: s := by
        rintro ⟨rest, front⟩
        simp [List.isPrefixOf?_eq_some_iff_append_eq.mpr front] at found
      simpa [not_front] using ih

namespace Draft

/-- A token opens a statement if `action:` stands somewhere in it. -/
theorem opens_iff {token : Text} : opens token = true ↔ actionKey <:+: token :=
  Text.isSome_after?_iff

theorem colon_mem_of_opens {token : Text} (h : opens token = true) : ':' ∈ token :=
  (opens_iff.mp h).subset (by decide)

/-- More characters behind a token that opens a statement leave it one. -/
theorem opens_append {token : Text} (h : opens token = true) (more : Text) :
    opens (token ++ more) = true :=
  opens_iff.mpr ((opens_iff.mp h).trans (List.prefix_append _ _).isInfix)

/-- Characters other than the colon do not make a token open a statement. -/
theorem opens_of_opens_append {token more : Text} (hmore : ':' ∉ more)
    (h : opens (token ++ more) = true) : opens token = true := by
  obtain ⟨front, back, parts⟩ := opens_iff.mp h
  rcases List.append_eq_append_iff.mp parts with ⟨back', rfl, -⟩ | ⟨key, split, rfl⟩
  · exact opens_iff.mpr ⟨front, back', by simp⟩
  · -- what of `action:` the token does not hold would bring the colon into the rest
    cases key using List.reverseRecOn with
    | nil => exact opens_iff.mpr ⟨front, [], by simpa using split⟩
    | append_singleton key c =>
      have last : actionKey.getLast? = some ':' := by decide
      have colon : (front ++ actionKey).getLast? = some ':' := by
        rw [List.getLast?_append, last, Option.some_or]
      rw [split, ← List.append_assoc, List.getLast?_concat, Option.some_inj] at colon
      simp [colon] at hmore

theorem ne_terminator_of_opens {token : Text} (h : opens token = true) : token ≠ terminator := by
  rintro rfl
  revert h
  decide

end Draft

namespace Statement

/-- A token that neither ends a statement nor opens one. -/
def Inert (token : Text) : Prop := token ≠ terminator ∧ Draft.opens token = false

/-- A token without terminators and colons is inert. -/
theorem inert_of_not_mem {token : Text} (hterm : ';' ∉ token) (hcolon : ':' ∉ token) :
    Inert token := by
  refine ⟨?_, Bool.eq_false_iff.mpr fun h => hcolon (Draft.colon_mem_of_opens h)⟩
  rintro rfl
  exact hterm (by decide)

/-- Giving a value to a key yields no command. -/
theorem commands_assign (d : Draft) (key : Key) (raw : Text) :
    (assign d key raw).2.commands = [] := by
  have number : (assignNumber d key raw).2.commands = [] := by
    unfold assignNumber
    split <;> rfl
  have reference : (assignReference d key raw).2.commands = [] := by
    unfold assignReference
    split <;> rfl
  cases key <;> first | rfl | exact number | exact reference

theorem commands_scan (d : Draft) (token : Text) : (scan d token).2.commands = [] := by
  unfold scan
  split
  · rfl
  · split
    · rfl
    · exact commands_assign _ _ _

/-- An inert token yields no command. -/
theorem commands_step_of_inert {token : Text} (h : Inert token) (state : State) :
    (step state token).2.commands = [] := by
  obtain ⟨hterm, hopens⟩ := h
  cases state with
  | idle => simp [step, hterm]
  | start => simp [step, hterm]
  | within d => simpa [step, hterm, hopens] using commands_scan d token
  | label d text =>
    simp only [step, hterm, if_false]
    split <;> rfl

/-- Any two tokens that open a statement yield the same command: that of the statement before. -/
theorem commands_step_of_opens {t u : Text} (ht : Draft.opens t = true)
    (hu : Draft.opens u = true) (state : State) :
    (step state t).2.commands = (step state u).2.commands := by
  have ht' := Draft.ne_terminator_of_opens ht
  have hu' := Draft.ne_terminator_of_opens hu
  -- what the token is matters only to the statement that it opens
  cases state with
  | idle => simp [step, ht', hu']
  | start => simp [step, ht', hu']
  | within d => simp [step, ht', hu', ht, hu]
  | label d text =>
    simp only [step, ht', hu', if_false]
    split <;> split <;> rfl

/-- The terminator ends whatever is open, and nothing of it is left. -/
theorem step_terminator (state : State) : (step state terminator).1 = .idle := by
  cases state <;> simp [step]

/-- What stands behind a terminator is read as if nothing stood before it. -/
theorem run_append_terminator (state : State) (ts us : List Text) :
    run state (ts ++ [terminator] ++ us) =
      ((run .idle us).1, (run state (ts ++ [terminator])).2 ++ (run .idle us).2) := by
  have ended : (run state (ts ++ [terminator])).1 = .idle := by
    rw [run_append]
    exact step_terminator _
  rw [run_append, ended]

end Statement

/-- **Statements do not disturb each other.** What stands up to a terminator and what stands behind
it are read each for itself. So whatever stands between two terminators, what is read before it and
behind it is what is read without it. -/
theorem Sequence.parse_append_terminator (ts us : List Text) (explicit closed : Bool) :
    let before := Sequence.parse ⟨ts ++ [terminator], explicit, false⟩
    let behind := Sequence.parse ⟨us, false, closed⟩
    Sequence.parse ⟨ts ++ [terminator] ++ us, explicit, closed⟩ = before ++ behind ∧
      ∀ garbage : List Text,
        Sequence.parse ⟨ts ++ [terminator] ++ garbage ++ [terminator] ++ us, explicit, closed⟩ =
          before ++ Sequence.parse ⟨garbage ++ [terminator], false, false⟩ ++ behind := by
  intro before behind
  refine ⟨congrArg Prod.snd (Statement.run_append_terminator _ ts us), fun garbage => ?_⟩
  have last := Statement.run_append_terminator (if explicit then .start else .idle)
    (ts ++ [terminator] ++ garbage) us
  have first := Statement.run_append_terminator (if explicit then .start else .idle) ts
    (garbage ++ [terminator])
  rw [← List.append_assoc] at first
  rw [first] at last
  exact congrArg Prod.snd last

end Whiteboard
