import Whiteboard.Proofs.Statements

/-!
# Tokens divided at the markers

A list of tokens is a run of free tokens, then markers, each with the run of free tokens behind it.
The segmentation of the list can be read off this division without any state: what becomes of a run
depends on the markers on either side of it, and what is wrong with a marker depends on the marker
before it.

## Main definitions

* `Division` — a run of tokens, then boundaries with a run behind each
* `Division.stretches` — the runs with their neighbours
* `Stretch.sequence?` — the sequence that a run is
* `Division.problems` — what is wrong with the boundaries
* `Markers.divide` — the division of a list of tokens

## Main results

* `Markers.tokens_divide`, `Division.divide_tokens` — a list of tokens has one division
* `Division.segmentFrom_tokens` — segmentation is the division, also from inside a sequence
* `Markers.segment_eq_division` — the segmentation of a list of tokens
-/

namespace Whiteboard

/-- Which of the two markers stands at a place. -/
inductive Boundary
  | opening
  | closing
  deriving DecidableEq

/-- The text of a boundary. -/
def Markers.marker (m : Markers) : Boundary → Text
  | .opening => m.opening
  | .closing => m.closing

/-- A token that is neither marker. -/
def Markers.IsFree (m : Markers) (t : Text) : Prop := t ≠ m.opening ∧ t ≠ m.closing

instance (m : Markers) (t : Text) : Decidable (m.IsFree t) :=
  inferInstanceAs (Decidable (_ ∧ _))

/-! ### Runs and their neighbours -/

/-- A run of tokens with the boundaries on either side of it. At an end of the list there is
none. -/
structure Stretch where
  before : Option Boundary
  run : List Text
  after : Option Boundary
  deriving DecidableEq

namespace Stretch

/-- Behind an opening marker everything is kept, elsewhere a terminator is needed. -/
def IsKept (s : Stretch) : Prop := s.before = some .opening ∨ terminator ∈ s.run

instance (s : Stretch) : Decidable s.IsKept := inferInstanceAs (Decidable (_ ∨ _))

/-- The sequence that a run is. It is explicit behind an opening marker, and closed if a closing one
comes next. -/
def sequence? (s : Stretch) : Option Sequence :=
  if s.before = some .opening then some ⟨s.run, true, s.after = some .closing⟩
  else if terminator ∈ s.run then some ⟨s.run, false, false⟩
  else none

/-- A run is a sequence, of its own tokens, if it is kept. -/
theorem map_tokens_sequence? (s : Stretch) :
    s.sequence?.map Sequence.tokens = if s.IsKept then some s.run else none := by
  unfold sequence? IsKept
  by_cases opening : s.before = some .opening
  · simp [opening]
  · by_cases ended : terminator ∈ s.run <;> simp [opening, ended]

/-- The runs that are sequences are the ones that are kept. -/
theorem map_tokens_filterMap (stretches : List Stretch) :
    (stretches.filterMap sequence?).map Sequence.tokens =
      (stretches.filter (·.IsKept)).map run := by
  rw [List.map_filterMap, ← List.filterMap_eq_map, ← List.filterMap_eq_filter,
    List.filterMap_filterMap]
  congr 1
  funext s
  rw [map_tokens_sequence?]
  by_cases kept : s.IsKept <;> simp [kept, Option.guard]

end Stretch

/-- A run of tokens, then boundaries with the run behind each. -/
@[ext] structure Division where
  front : List Text
  parts : List (Boundary × List Text)
  deriving DecidableEq

namespace Division

/-- The boundaries, in order. -/
def boundaries (d : Division) : List Boundary := d.parts.map Prod.fst

/-- The runs, in order. There is one more of them than there are boundaries. -/
def runs (d : Division) : List (List Text) := d.front :: d.parts.map Prod.snd

/-- The tokens that are divided. -/
def tokens (m : Markers) (d : Division) : List Text :=
  d.front ++ d.parts.flatMap fun (b, run) => m.marker b :: run

/-- No marker stands in a run. -/
def IsFree (m : Markers) (d : Division) : Prop := ∀ run ∈ d.runs, ∀ t ∈ run, m.IsFree t

instance (m : Markers) (d : Division) : Decidable (d.IsFree m) :=
  inferInstanceAs (Decidable (∀ run ∈ d.runs, ∀ t ∈ run, m.IsFree t))

/-- The runs with their neighbours, when `before` stands before the first one. -/
def stretches (before : Option Boundary) (d : Division) : List Stretch :=
  List.zipWith3 Stretch.mk (before :: d.boundaries.map some) d.runs
    (d.boundaries.map some ++ [none])

/-- What is wrong with a boundary that has `before` for the one before it. -/
def mismatches (m : Markers) (before : Option Boundary) : Boundary → List Problem
  | .opening => if before = some .opening then [.unpaired m.opening .nestedOpening] else []
  | .closing => if before = some .opening then [] else [.unpaired m.closing .closingWithoutOpening]

/-- What is wrong with the boundaries, when `before` stands before the first one: each of them may
not fit the one before it, and nothing closes an opening one at the end. -/
def problems (m : Markers) (before : Option Boundary) (d : Division) : List Problem :=
  (List.zipWith (mismatches m) (before :: d.boundaries.map some) d.boundaries).flatten ++
    if (before :: d.boundaries.map some).getLast? = some (some .opening)
    then [.unpaired m.opening .unterminated] else []

/-! ### One boundary more -/

section Cons

variable (m : Markers) (before : Option Boundary) (front : List Text) (b : Boundary)
  (run : List Text) (parts : List (Boundary × List Text))

theorem tokens_cons :
    tokens m ⟨front, (b, run) :: parts⟩ = front ++ m.marker b :: tokens m ⟨run, parts⟩ := by
  simp [tokens]

theorem stretches_cons :
    stretches before ⟨front, (b, run) :: parts⟩ =
      ⟨before, front, some b⟩ :: stretches (some b) ⟨run, parts⟩ := rfl

theorem problems_cons :
    problems m before ⟨front, (b, run) :: parts⟩ =
      mismatches m before b ++ problems m (some b) ⟨run, parts⟩ := by
  unfold problems boundaries
  rw [List.map_cons, List.map_cons, List.getLast?_cons_cons, List.zipWith_cons_cons,
    List.flatten_cons, List.append_assoc]

variable {m front b run parts}

theorem isFree_cons :
    IsFree m ⟨front, (b, run) :: parts⟩ ↔ (∀ t ∈ front, m.IsFree t) ∧ IsFree m ⟨run, parts⟩ :=
  List.forall_mem_cons

end Cons

/-- The runs are the runs of the stretches. -/
theorem map_run_stretches (before : Option Boundary) (d : Division) :
    (d.stretches before).map Stretch.run = d.runs := by
  obtain ⟨front, parts⟩ := d
  induction parts generalizing before front with
  | nil => rfl
  | cons part parts ih =>
    obtain ⟨b, run⟩ := part
    rw [stretches_cons, List.map_cons, ih]
    rfl

/-- The tokens that are no markers are those of the runs. -/
theorem filter_tokens {m : Markers} {d : Division} (free : d.IsFree m) :
    (d.tokens m).filter (m.IsFree ·) = d.runs.flatten := by
  obtain ⟨front, parts⟩ := d
  have all : ∀ {run : List Text}, (∀ t ∈ run, m.IsFree t) → run.filter (m.IsFree ·) = run :=
    fun h => List.filter_eq_self.mpr fun t ht => decide_eq_true (h t ht)
  induction parts generalizing front with
  | nil => simp [tokens, runs, all (free front List.mem_cons_self)]
  | cons part parts ih =>
    obtain ⟨b, run⟩ := part
    obtain ⟨first, rest⟩ := isFree_cons.mp free
    -- a marker is not free, so it falls out between two runs
    have dropped : ¬ m.IsFree (m.marker b) := by cases b <;> simp [Markers.IsFree, Markers.marker]
    rw [tokens_cons, List.filter_append, List.filter_cons_of_neg (by simpa using dropped),
      ih run rest, all first]
    rfl

/-- The runs that are kept stand in the list in their order, each once. -/
theorem kept_sublist (m : Markers) (before : Option Boundary) (d : Division) :
    (((d.stretches before).filter (·.IsKept)).flatMap Stretch.run).Sublist (d.tokens m) := by
  obtain ⟨front, parts⟩ := d
  -- a stretch adds its run or nothing, and never the marker behind it
  have one : ∀ s : Stretch, (([s].filter (·.IsKept)).flatMap Stretch.run).Sublist s.run := by
    intro s
    by_cases kept : s.IsKept <;> simp [kept]
  induction parts generalizing before front with
  | nil =>
    rw [tokens, List.flatMap_nil, List.append_nil]
    exact one ⟨before, front, none⟩
  | cons part parts ih =>
    obtain ⟨b, run⟩ := part
    rw [stretches_cons, tokens_cons, ← List.singleton_append, List.filter_append,
      List.flatMap_append]
    exact (one ⟨before, front, some b⟩).append ((ih (some b) run).cons _)

end Division

/-! ### Every list has one division -/

namespace Markers

/-- The division of a list of tokens at the markers in it. -/
def divide (m : Markers) : List Text → Division
  | [] => ⟨[], []⟩
  | t :: ts =>
    let d := divide m ts
    if t = m.opening then ⟨[], (.opening, d.front) :: d.parts⟩
    else if t = m.closing then ⟨[], (.closing, d.front) :: d.parts⟩
    else ⟨t :: d.front, d.parts⟩

variable {m : Markers}

theorem divide_cons_of_isFree {t : Text} (free : m.IsFree t) (ts : List Text) :
    m.divide (t :: ts) = ⟨t :: (m.divide ts).front, (m.divide ts).parts⟩ := by
  rw [divide, if_neg free.1, if_neg free.2]

theorem divide_cons_marker (distinct : m.opening ≠ m.closing) (b : Boundary) (ts : List Text) :
    m.divide (m.marker b :: ts) = ⟨[], (b, (m.divide ts).front) :: (m.divide ts).parts⟩ := by
  cases b with
  | opening => rw [divide, marker, if_pos rfl]
  | closing => rw [divide, marker, if_neg distinct.symm, if_pos rfl]

/-- A token is free or one of the markers. -/
theorem isFree_or_eq_marker (m : Markers) (t : Text) : m.IsFree t ∨ ∃ b, t = m.marker b := by
  by_cases opening : t = m.opening
  · exact .inr ⟨.opening, opening⟩
  · by_cases closing : t = m.closing
    · exact .inr ⟨.closing, closing⟩
    · exact .inl ⟨opening, closing⟩

/-- The division of a list of tokens is one of these tokens. -/
theorem tokens_divide (distinct : m.opening ≠ m.closing) (ts : List Text) :
    (m.divide ts).tokens m = ts := by
  induction ts with
  | nil => rfl
  | cons t ts ih =>
    rcases m.isFree_or_eq_marker t with free | ⟨b, rfl⟩
    · rw [divide_cons_of_isFree free]
      exact congrArg (t :: ·) ih
    · rw [divide_cons_marker distinct, Division.tokens_cons]
      exact congrArg (m.marker b :: ·) ih

/-- The division of a list of tokens leaves no marker in a run. -/
theorem isFree_divide (distinct : m.opening ≠ m.closing) (ts : List Text) :
    (m.divide ts).IsFree m := by
  induction ts with
  | nil => simp [divide, Division.IsFree, Division.runs]
  | cons t ts ih =>
    obtain ⟨front, rest⟩ := List.forall_mem_cons.mp ih
    rcases m.isFree_or_eq_marker t with free | ⟨b, rfl⟩
    · rw [divide_cons_of_isFree free]
      exact List.forall_mem_cons.mpr ⟨List.forall_mem_cons.mpr ⟨free, front⟩, rest⟩
    · rw [divide_cons_marker distinct]
      exact Division.isFree_cons.mpr ⟨List.forall_mem_nil _, ih⟩

/-- Free tokens go to the front of the division. -/
theorem divide_append {run : List Text} (free : ∀ t ∈ run, m.IsFree t) (ts : List Text) :
    m.divide (run ++ ts) = ⟨run ++ (m.divide ts).front, (m.divide ts).parts⟩ := by
  induction run with
  | nil => rfl
  | cons t run ih =>
    obtain ⟨first, rest⟩ := List.forall_mem_cons.mp free
    rw [List.cons_append, divide_cons_of_isFree first, ih rest]
    rfl

end Markers

namespace Division

variable {m : Markers}

/-- A division that leaves no marker in a run is the division of its tokens. -/
theorem divide_tokens (distinct : m.opening ≠ m.closing) {d : Division} (free : d.IsFree m) :
    m.divide (d.tokens m) = d := by
  obtain ⟨front, parts⟩ := d
  induction parts generalizing front with
  | nil =>
    have all := Markers.divide_append (free front List.mem_cons_self) []
    simpa [tokens, Markers.divide] using all
  | cons part parts ih =>
    obtain ⟨b, run⟩ := part
    obtain ⟨first, rest⟩ := isFree_cons.mp free
    rw [tokens_cons, Markers.divide_append first, Markers.divide_cons_marker distinct, ih run rest,
      List.append_nil]

end Division

/-! ### Segmentation is division -/

namespace Markers

variable {m : Markers}

/-- The end of a run adds the sequence that the run is. -/
theorem ofRun_eq_sequence? {before after : Option Boundary} {closed : Bool} (run : List Text)
    (h : closed = true ↔ before = some .opening ∧ after = some .closing) :
    Segmentation.ofRun run (before = some .opening) closed =
      { sequences := (Stretch.sequence? ⟨before, run, after⟩).toList } := by
  have same : closed = decide (before = some .opening ∧ after = some .closing) := by
    rw [Bool.eq_iff_iff, h, decide_eq_true_iff]
  unfold Segmentation.ofRun Stretch.sequence?
  by_cases opening : before = some .opening
  · simp [opening, same]
  · by_cases ended : terminator ∈ run <;> simp [opening, ended, same]

theorem sequences_append_problems (qs : List Sequence) (ps : List Problem) :
    ({ sequences := qs } ++ { problems := ps } : Segmentation) = ⟨qs, ps⟩ :=
  congrArg (Segmentation.mk · ps) (List.append_nil qs)

/-- A marker adds the run before it, and what is wrong with the marker itself. -/
theorem segmentFrom_marker (distinct : m.opening ≠ m.closing) (before : Option Boundary)
    (run : List Text) (b : Boundary) (ts : List Text) :
    m.segmentFrom (before = some .opening) run (m.marker b :: ts) =
      ⟨(Stretch.sequence? ⟨before, run, some b⟩).toList, Division.mismatches m before b⟩ ++
        m.segmentFrom (some b = some .opening) [] ts := by
  cases b with
  | opening =>
    have wrong : (if decide (before = some .opening) then
        Segmentation.ofMismatch m.opening .nestedOpening else {}) =
          { problems := Division.mismatches m before .opening } := by
      by_cases inside : before = some .opening <;>
        simp [inside, Segmentation.ofMismatch, Division.mismatches]
    have ended : Segmentation.ofRun run (before = some .opening) false =
        { sequences := (Stretch.sequence? ⟨before, run, some .opening⟩).toList } :=
      ofRun_eq_sequence? run (by simp)
    rw [segmentFrom, marker, if_pos rfl, wrong, ended, sequences_append_problems]
    rfl
  | closing =>
    have wrong : (if decide (before = some .opening) then {} else
        Segmentation.ofMismatch m.closing .closingWithoutOpening) =
          { problems := Division.mismatches m before .closing } := by
      by_cases inside : before = some .opening <;>
        simp [inside, Segmentation.ofMismatch, Division.mismatches]
    have ended : Segmentation.ofRun run (before = some .opening) (before = some .opening) =
        { sequences := (Stretch.sequence? ⟨before, run, some .closing⟩).toList } :=
      ofRun_eq_sequence? run (by simp)
    rw [segmentFrom, marker, if_neg distinct.symm, if_pos rfl, wrong, ended,
      sequences_append_problems]
    rfl

/-- The end of the list adds the last run, and the opening marker that nothing closes. -/
theorem segmentFrom_nil (before : Option Boundary) (run : List Text) :
    m.segmentFrom (before = some .opening) run [] =
      ⟨(Stretch.sequence? ⟨before, run, none⟩).toList, Division.problems m before ⟨run, []⟩⟩ := by
  have wrong : (if decide (before = some .opening) then
      Segmentation.ofMismatch m.opening .unterminated else {}) =
        { problems := Division.problems m before ⟨run, []⟩ } := by
    by_cases inside : before = some .opening <;>
      simp [inside, Segmentation.ofMismatch, Division.problems, Division.boundaries]
  have ended : Segmentation.ofRun run (before = some .opening) false =
      { sequences := (Stretch.sequence? ⟨before, run, none⟩).toList } :=
    ofRun_eq_sequence? run (by simp)
  rw [segmentFrom, wrong, ended, sequences_append_problems]

/-- Segmentation is division. Here `before` is the boundary before the tokens, so that it says
whether they stand in a sequence. -/
theorem segmentFrom_tokens (distinct : m.opening ≠ m.closing) (before : Option Boundary)
    {d : Division} (free : d.IsFree m) :
    m.segmentFrom (before = some .opening) [] (d.tokens m) =
      ⟨(d.stretches before).filterMap Stretch.sequence?, d.problems m before⟩ := by
  obtain ⟨front, parts⟩ := d
  -- the boundary that a step passes stands before the rest, so it differs in the induction
  induction parts generalizing before front with
  | nil =>
    have all := segmentFrom_append (free front List.mem_cons_self) (before = some .opening) [] []
    rw [List.nil_append] at all
    rw [Division.tokens, List.flatMap_nil, all, segmentFrom_nil]
    rfl
  | cons part parts ih =>
    obtain ⟨b, run⟩ := part
    obtain ⟨first, rest⟩ := Division.isFree_cons.mp free
    rw [Division.tokens_cons, segmentFrom_append first, List.nil_append,
      segmentFrom_marker distinct, ih (some b) run rest, Division.problems_cons,
      Division.stretches_cons, List.filterMap_cons]
    cases (Stretch.sequence? ⟨before, front, some b⟩) <;> rfl

/-- **A list of tokens is segmented as its markers divide it.** It is divided in one way into runs
without markers. Behind an opening marker the run is an explicit sequence, closed if a closing
marker comes next; elsewhere the run is a loose sequence if it holds a terminator. A boundary is a
problem if it opens behind an opening one, closes behind none or a closing one, or is the last and
opens. No token is taken twice or out of its order, and only loose runs without a terminator, and
the markers, are not taken. -/
theorem segment_eq_division (distinct : m.opening ≠ m.closing) (ts : List Text) :
    ∃ d : Division,
      (∀ e : Division, e.IsFree m ∧ e.tokens m = ts ↔ e = d) ∧
      m.segment ts =
        ⟨(d.stretches none).filterMap Stretch.sequence?, d.problems m none⟩ ∧
      ts.filter (m.IsFree ·) = (d.stretches none).flatMap Stretch.run ∧
      (m.segment ts).sequences.map Sequence.tokens =
        ((d.stretches none).filter (·.IsKept)).map Stretch.run ∧
      ((m.segment ts).sequences.flatMap Sequence.tokens).Sublist ts := by
  have free := isFree_divide distinct ts
  have whole := tokens_divide distinct ts
  have division := segmentFrom_tokens distinct none free
  rw [whole] at division
  have same : m.segment ts =
      ⟨((m.divide ts).stretches none).filterMap Stretch.sequence?, (m.divide ts).problems m none⟩ :=
    division
  have kept : (m.segment ts).sequences.map Sequence.tokens =
      (((m.divide ts).stretches none).filter (·.IsKept)).map Stretch.run := by
    rw [same, Stretch.map_tokens_filterMap]
  refine ⟨m.divide ts, fun e => ⟨?_, ?_⟩, same, ?_, kept, ?_⟩
  · rintro ⟨efree, rfl⟩
    exact (Division.divide_tokens distinct efree).symm
  · rintro rfl
    exact ⟨free, whole⟩
  · have runs := Division.filter_tokens free
    rw [whole] at runs
    rw [runs, List.flatMap_def, Division.map_run_stretches]
  · have sublist := Division.kept_sublist m none (m.divide ts)
    rw [whole] at sublist
    rw [List.flatMap_def, kept, ← List.flatMap_def]
    exact sublist

/-- The tokens `a < b < ; > c > d ; < e` have one problem of each kind, and `a` and `c` are
dropped. -/
theorem segment_eq_division_unpaired :
    (['<'] : Text) ≠ ['>'] ∧
      (⟨['<'], ['>']⟩ : Markers).segment
          [['a'], ['<'], ['b'], ['<'], [';'], ['>'], ['c'], ['>'], ['d'], [';'], ['<'], ['e']] =
        ⟨[⟨[['b']], true, false⟩, ⟨[[';']], true, true⟩, ⟨[['d'], [';']], false, false⟩,
            ⟨[['e']], true, false⟩],
          [.unpaired ['<'] .nestedOpening, .unpaired ['>'] .closingWithoutOpening,
            .unpaired ['<'] .unterminated]⟩ := by
  have distinct : (['<'] : Text) ≠ ['>'] := by decide
  obtain ⟨d, unique, same, -⟩ := segment_eq_division (m := ⟨['<'], ['>']⟩) distinct
    [['a'], ['<'], ['b'], ['<'], [';'], ['>'], ['c'], ['>'], ['d'], [';'], ['<'], ['e']]
  have division : (⟨[['a']], [(.opening, [['b']]), (.opening, [[';']]), (.closing, [['c']]),
      (.closing, [['d'], [';']]), (.opening, [['e']])]⟩ : Division) = d :=
    (unique _).mp (by decide)
  subst division
  exact ⟨distinct, same.trans (by decide)⟩

end Markers

end Whiteboard
