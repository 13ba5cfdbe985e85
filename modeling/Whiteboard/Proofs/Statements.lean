import Whiteboard.Proofs.Fields
import Whiteboard.Script.Snapshot

/-!
# Statements as they are written

A statement is written as `action:CREATE`, then its fields, each behind some white space, then the
terminator. Its tokens are the words of its parts, and it is read as one command that has the values
of its fields. A script of statements, bare or between two markers, is one sequence.
-/

namespace Whiteboard

/-- White space, or nothing. -/
structure Gap where
  text : Text
  isBlank : ∀ c ∈ text, Text.isBlank c = true

/-- White space. -/
structure Separator extends Gap where
  ne_nil : text ≠ []

/-- No white space. -/
def Gap.empty : Gap := ⟨[], List.forall_mem_nil _⟩

/-- One space. -/
def Separator.space : Separator :=
  ⟨⟨[' '], List.forall_mem_singleton.mpr (by decide)⟩, List.cons_ne_nil _ _⟩

namespace Statement

/-- The token that opens the statements that are written. -/
def createToken : Text := Draft.actionKey ++ Action.create.name

/-- Fields as they are written, each behind some white space. -/
def writtenFields (fields : List (Separator × Field)) : Text :=
  fields.flatMap fun (separator, field) => separator.text ++ field.text

/-- A statement as it is written. -/
def written (before : Gap) (fields : List (Separator × Field)) (after : Gap) : Text :=
  before.text ++ (createToken ++ (writtenFields fields ++ (after.text ++ terminator)))

/-- The tokens of a statement that is written. -/
def writtenTokens (fields : List Field) : List Text :=
  createToken :: fields.flatMap (fun field => field.text.words Text.isBlank) ++ [terminator]

end Statement

namespace Markers

open Statement

theorem avoids_isBlank : ({} : Markers).Avoids Text.isBlank := by decide

/-- Fields that are written have their words for tokens. -/
theorem tokens_writtenFields (s : Text) (fields : List (Separator × Field)) :
    ({} : Markers).tokens (s ++ writtenFields fields) =
      ({} : Markers).tokens s ++
        (fields.map Prod.snd).flatMap fun field => field.text.words Text.isBlank := by
  induction fields generalizing s with
  | nil => simp [writtenFields]
  | cons field fields ih =>
    obtain ⟨separator, field⟩ := field
    have first := tokens_append_gap_append avoids_isBlank s separator.ne_nil separator.isBlank
      field.text
    have split : s ++ writtenFields ((separator, field) :: fields) =
        s ++ (separator.text ++ field.text) ++ writtenFields fields := by
      simp [writtenFields]
    rw [split, ih, first, field.tokens_text, List.map_cons, List.flatMap_cons, List.append_assoc]

/-- The tokens of a statement that is written, and of what follows it. -/
theorem tokens_written (before : Gap) (fields : List (Separator × Field)) (after : Gap)
    (rest : Text) :
    ({} : Markers).tokens (written before fields after ++ rest) =
      writtenTokens (fields.map Prod.snd) ++ ({} : Markers).tokens rest := by
  have semicolons : ({} : Markers).Avoids (· = ';') := by decide
  have create : ({} : Markers).tokens createToken = [createToken] := by decide +kernel
  have split : written before fields after ++ rest =
      before.text ++ (createToken ++ writtenFields fields ++ after.text) ++ ';' :: rest := by
    simp [written, terminator]
  rw [split, tokens_append_terminator avoids_isBlank semicolons,
    tokens_gap_append avoids_isBlank before.isBlank,
    tokens_append_gap avoids_isBlank _ after.isBlank, tokens_writtenFields, create]
  simp [writtenTokens]

end Markers

/-! ### Parameters from fields -/

namespace Params

/-- A key has the value of some pair with it, or is as it was. -/
theorem get_foldl_set (pairs : List (Key × Value)) (p : Params) (key : Key) :
    let q := pairs.foldl (fun p (key, v) => p.set key (some v)) p
    (∃ v, (key, v) ∈ pairs ∧ q.get key = some v) ∨
      (∀ v, (key, v) ∉ pairs) ∧ q.get key = p.get key := by
  induction pairs generalizing p with
  | nil => simp
  | cons pair pairs ih =>
    obtain ⟨other, v⟩ := pair
    rcases ih (p.set other (some v)) with ⟨w, inside, got⟩ | ⟨outside, got⟩
    · exact .inl ⟨w, List.mem_cons_of_mem _ inside, got⟩
    · by_cases same : key = other
      · subst same
        exact .inl ⟨v, List.mem_cons_self, by simpa using got⟩
      · rw [get_set_of_ne p same] at got
        exact .inr ⟨by simp [same, outside], got⟩

/-- Parameters are built from any pairs that list their keys with the values, in whatever order. -/
theorem ofList_eq {pairs : List (Key × Value)} {p : Params}
    (h : ∀ key v, (key, v) ∈ pairs ↔ p.get key = some v) : ofList pairs = p := by
  ext1 key
  rcases get_foldl_set pairs {} key with ⟨v, inside, got⟩ | ⟨outside, got⟩
  · exact got.trans ((h key v).mp inside).symm
  · -- a key in no pair is as it was at the start, without a value
    have absent : p.get key = none :=
      Option.eq_none_iff_forall_ne_some.mpr fun v same => outside v ((h key v).mpr same)
    rw [absent]
    exact got.trans (get_empty key)

end Params

namespace Statement

/-- The parameters that fields give. -/
def paramsOf (fields : List Field) : Params :=
  .ofList (fields.map fun field => (field.key, field.value))

/-- Fields that are written are read back, one after the other. -/
theorem run_fields {fields : List Field} (h : ∀ field ∈ fields, field.IsSafe) (d : Draft) :
    run (.within d) (fields.flatMap fun field => field.text.words Text.isBlank) =
      (.within ⟨d.action, (fields.map fun field => (field.key, field.value)).foldl
        (fun p (key, v) => p.set key (some v)) d.params⟩, {}) := by
  induction fields generalizing d with
  | nil => rfl
  | cons field fields ih =>
    have rest := ih (fun f hf => h f (List.mem_cons_of_mem _ hf))
      (d.set field.key (some field.value))
    rw [List.flatMap_cons, run_append, field.run_words (h field List.mem_cons_self), rest]
    rfl

theorem step_createToken {state : State} (hstate : state = .idle ∨ state = .start) :
    step state createToken = (.within ⟨some .create, {}⟩, {}) := by
  rcases hstate with rfl | rfl <;> decide +kernel

/-- A statement that is written is one command. -/
theorem run_writtenTokens {fields : List Field} (h : ∀ field ∈ fields, field.IsSafe) {state : State}
    (hstate : state = .idle ∨ state = .start) :
    run state (writtenTokens fields) =
      (.idle, { commands := [⟨.create, paramsOf fields⟩] }) := by
  have inside : run state (createToken :: fields.flatMap fun f => f.text.words Text.isBlank) =
      (.within ⟨some .create, paramsOf fields⟩, {}) := by
    rw [run, step_createToken hstate]
    simp only [run_fields h]
    rfl
  rw [writtenTokens, run_append, inside, run_singleton]
  simp [step, Draft.commit]

/-- No marker is among the tokens of a statement that is written. -/
theorem ne_marker_of_mem_writtenTokens {fields : List Field} {t : Text}
    (ht : t ∈ writtenTokens fields) :
    t ≠ ({} : Markers).opening ∧ t ≠ ({} : Markers).closing := by
  apply Markers.Unmarked.ne_marker
  rcases List.mem_append.mp ht with ht | ht
  · rcases List.mem_cons.mp ht with rfl | ht
    · exact Markers.unmarked_of_not_mem (by decide)
    · obtain ⟨field, -, hword⟩ := List.mem_flatMap.mp ht
      exact field.unmarked_text.of_infix (Text.isInfix_of_mem_words _ hword)
  · rw [List.mem_singleton.mp ht]
    exact Markers.unmarked_of_not_mem (by decide)

end Statement

/-! ### Scripts with one sequence -/

namespace Markers

variable {m : Markers}

/-- Tokens that are no markers belong to the sequence that is open. -/
theorem segmentFrom_append {ts : List Text} (h : ∀ t ∈ ts, t ≠ m.opening ∧ t ≠ m.closing)
    (inside : Bool) (run rest : List Text) :
    m.segmentFrom inside run (ts ++ rest) = m.segmentFrom inside (run ++ ts) rest := by
  induction ts generalizing run with
  | nil => rw [List.nil_append, List.append_nil]
  | cons t ts ih =>
    obtain ⟨opening, closing⟩ := h t List.mem_cons_self
    rw [List.cons_append, segmentFrom, if_neg opening, if_neg closing,
      ih fun u hu => h u (List.mem_cons_of_mem _ hu), List.append_assoc, List.singleton_append]

/-- A script that is one sequence, and has no problem with markers, is read as the sequence. -/
theorem parse_of_sequences {text : Text} {q : Sequence}
    (hsequences : (m.segment (m.tokens text)).sequences = [q])
    (hproblems : (m.segment (m.tokens text)).problems = []) : m.parse text = q.parse := by
  simp only [parse, hsequences, hproblems]
  exact Parsed.ext (by simp [Sequence.parseAll]) (by simp [Sequence.parseAll])

/-- Statements without markers around them are read from outside any statement. -/
theorem parse_bare {text : Text} {ts : List Text} (htokens : m.tokens text = ts)
    (h : ∀ t ∈ ts, t ≠ m.opening ∧ t ≠ m.closing) (hts : ts = [] ∨ terminator ∈ ts) :
    m.parse text = (Statement.run .idle ts).2 := by
  have segments : m.segment ts = .ofRun ts false false ++ {} := by
    have all := segmentFrom_append h false [] []
    rw [List.append_nil, List.nil_append] at all
    simp [segment, all, segmentFrom]
  rcases hts with rfl | hterm
  · -- nothing is left of a loose run without a terminator
    simp only [parse, htokens, segments]
    rfl
  · have q : Segmentation.ofRun ts false false = { sequences := [⟨ts, false, false⟩] } := by
      simp [Segmentation.ofRun, hterm]
    exact parse_of_sequences (q := ⟨ts, false, false⟩) (by simp [htokens, segments, q])
      (by simp [htokens, segments, q])

/-- Statements between two markers are read from the start of a sequence. -/
theorem parse_marked {text : Text} {ts : List Text} (hne : m.closing ≠ m.opening)
    (htokens : m.tokens text = m.opening :: (ts ++ [m.closing]))
    (h : ∀ t ∈ ts, t ≠ m.opening ∧ t ≠ m.closing) :
    m.parse text = (Statement.run .start ts).2 := by
  have all := segmentFrom_append h true [] [m.closing]
  have q : Segmentation.ofRun ts true true = { sequences := [⟨ts, true, true⟩] } := by
    simp [Segmentation.ofRun]
  -- nothing stands in front of the first marker or behind the second
  have none : Segmentation.ofRun [] false false = {} := rfl
  have segments : m.segment (m.tokens text) =
      ({} ++ {}) ++ ({ sequences := [⟨ts, true, true⟩] } ++ {} ++ ({} ++ {})) := by
    rw [htokens, segment, segmentFrom, if_pos rfl, all, segmentFrom, if_neg hne, if_pos rfl]
    simp only [List.nil_append, q, none, segmentFrom, if_true, Bool.false_eq_true, if_false]
  exact parse_of_sequences (q := ⟨ts, true, true⟩) (by simp [segments]) (by simp [segments])

end Markers

end Whiteboard
