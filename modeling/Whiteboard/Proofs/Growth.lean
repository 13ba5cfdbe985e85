import Mathlib.Algebra.Order.Group.Multiset
import Whiteboard.Proofs.Extension
import Whiteboard.Proofs.Separators
import Whiteboard.Session.Basic

/-!
# Texts that grow by whole tokens

Where more text only adds tokens, the problems of a text stay as well as its commands, each as often
as before, though not in the same order. Only that a sequence is still open is a problem that passes.
-/

namespace Whiteboard

/-! ### Problems that last -/

/-- The problems that do not pass when a text grows, each as often as it was found: all but a
sequence that is open. -/
def Parsed.lasting (parsed : Parsed) : Multiset Problem :=
  Session.countedProblems .more parsed.problems

namespace Parsed

@[simp] theorem lasting_append (a b : Parsed) : (a ++ b).lasting = a.lasting + b.lasting := by
  simp [lasting, Session.countedProblems]

theorem lasting_le (parsed : Parsed) : parsed.lasting ≤ parsed.problems :=
  Multiset.coe_le.mpr List.filter_sublist.subperm

theorem not_isUnterminated_of_mem_lasting {parsed : Parsed} {problem : Problem}
    (h : problem ∈ parsed.lasting) : problem.isUnterminated = false := by
  simpa using (List.mem_filter.mp h).2

/-- A problem that lasts was found as often as there are problems of that sort. -/
theorem count_lasting {problem : Problem} (h : problem.isUnterminated = false) (parsed : Parsed) :
    parsed.lasting.count problem = parsed.problems.count problem := by
  rw [lasting, Multiset.coe_count]
  exact List.count_filter (by simp [h])

end Parsed

namespace Segmentation

/-- What is read of the sequences of a script, with the problems of its markers in front. -/
def read (s : Segmentation) : Parsed := { problems := s.problems } ++ Sequence.parseAll s.sequences

theorem lasting_read_append (a b : Segmentation) :
    (a ++ b).read.lasting = a.read.lasting + b.read.lasting := by
  have both : Sequence.parseAll (a ++ b).sequences =
      Sequence.parseAll a.sequences ++ Sequence.parseAll b.sequences :=
    Parsed.ext (by simp [Sequence.parseAll]) (by simp [Sequence.parseAll])
  have marked : ({ problems := (a ++ b).problems } : Parsed) =
      { problems := a.problems } ++ { problems := b.problems } := rfl
  simp only [read, both, marked, Parsed.lasting_append]
  exact add_add_add_comm _ _ _ _

/-- Of a run without its markers its statements are read, unless it is dropped. -/
theorem read_ofRun (run : List Text) (inside closed : Bool) :
    (ofRun run inside closed).read =
      if inside || run.contains terminator then
        (Statement.run (if inside then .start else .idle) run).2
      else {} := by
  unfold ofRun
  split <;> simp [read, Sequence.parseAll, Sequence.parse]

/-- A run that goes on keeps its problems. -/
theorem lasting_ofRun_le (run more : List Text) (inside closed closed' : Bool) :
    (ofRun run inside closed).read.lasting ≤ (ofRun (run ++ more) inside closed').read.lasting := by
  rw [read_ofRun, read_ofRun]
  by_cases kept : (inside || run.contains terminator) = true
  · have longer : (inside || (run ++ more).contains terminator) = true := by
      simp only [Bool.or_eq_true, List.contains_iff_mem, List.mem_append] at kept ⊢
      tauto
    rw [if_pos kept, if_pos longer, Statement.run_append, Parsed.lasting_append]
    exact Multiset.le_add_right _ _
  · rw [if_neg kept]
    exact Multiset.zero_le _

end Segmentation

namespace Markers

variable {m : Markers} {p q : Text}

theorem parse_eq_read (m : Markers) (text : Text) :
    m.parse text = (m.segment (m.tokens text)).read := rfl

/-- A boundary ends the run, whatever follows it; any other token goes on with the run. -/
theorem segmentFrom_cons_cases (m : Markers) (inside : Bool) (run : List Text) (t : Text) :
    (∃ ended inside', (Segmentation.ofRun run inside false).read.lasting ≤ ended.read.lasting ∧
      ∀ tokens, m.segmentFrom inside run (t :: tokens) = ended ++ m.segmentFrom inside' [] tokens) ∨
    ∀ tokens, m.segmentFrom inside run (t :: tokens) = m.segmentFrom inside (run ++ [t]) tokens := by
  -- a run that a boundary ends tells no less than one that the text breaks off
  have kept : ∀ closed rest, (Segmentation.ofRun run inside false).read.lasting ≤
      (Segmentation.ofRun run inside closed ++ rest).read.lasting := by
    intro closed rest
    have same := Segmentation.lasting_ofRun_le run [] inside false closed
    rw [List.append_nil] at same
    rw [Segmentation.lasting_read_append]
    exact same.trans (Multiset.le_add_right _ _)
  by_cases opening : t = m.opening
  · have ended := kept false (if inside then .ofMismatch t .nestedOpening else {})
    refine .inl ⟨_, true, ended, fun tokens => ?_⟩
    rw [segmentFrom, if_pos opening]
  · by_cases closing : t = m.closing
    · have ended := kept inside (if inside then {} else .ofMismatch t .closingWithoutOpening)
      refine .inl ⟨_, false, ended, fun tokens => ?_⟩
      rw [segmentFrom, if_neg opening, if_pos closing]
    · refine .inr fun tokens => ?_
      rw [segmentFrom, if_neg opening, if_neg closing]

/-- Whatever follows a run, its problems are there. -/
theorem lasting_ofRun_le_segmentFrom (m : Markers) (inside : Bool) (run tokens : List Text) :
    (Segmentation.ofRun run inside false).read.lasting ≤
      (m.segmentFrom inside run tokens).read.lasting := by
  induction tokens generalizing run with
  | nil =>
    rw [segmentFrom, Segmentation.lasting_read_append]
    exact Multiset.le_add_right _ _
  | cons t tokens ih =>
    rcases m.segmentFrom_cons_cases inside run t with ⟨ended, inside', kept, same⟩ | same
    · rw [same, Segmentation.lasting_read_append]
      exact kept.trans (Multiset.le_add_right _ _)
    · rw [same]
      exact (Segmentation.lasting_ofRun_le run [t] inside false false).trans (ih (run ++ [t]))

/-- More tokens keep the problems of the tokens before them. -/
theorem lasting_segmentFrom_le (m : Markers) (inside : Bool) (run tokens more : List Text) :
    (m.segmentFrom inside run tokens).read.lasting ≤
      (m.segmentFrom inside run (tokens ++ more)).read.lasting := by
  induction tokens generalizing inside run with
  | nil =>
    have last : (m.segmentFrom inside run []).read.lasting =
        (Segmentation.ofRun run inside false).read.lasting := by
      rw [segmentFrom, Segmentation.lasting_read_append]
      cases inside <;> exact add_zero _
    rw [last]
    exact lasting_ofRun_le_segmentFrom m inside run more
  | cons t tokens ih =>
    rw [List.cons_append]
    rcases m.segmentFrom_cons_cases inside run t with ⟨ended, inside', -, same⟩ | same
    · rw [same, same, Segmentation.lasting_read_append, Segmentation.lasting_read_append]
      gcongr
      exact ih inside' []
    · rw [same, same]
      exact ih inside (run ++ [t])

/-- More tokens keep the commands of the tokens before them. -/
theorem commandsFrom_isPrefix_append (m : Markers) (inside : Bool) (run tokens more : List Text) :
    m.commandsFrom inside run tokens <+: m.commandsFrom inside run (tokens ++ more) := by
  induction tokens generalizing inside run with
  | nil =>
    rw [commandsFrom_nil, List.nil_append]
    exact runCommands_isPrefix_commandsFrom m inside run more
  | cons t tokens ih =>
    rw [List.cons_append, commandsFrom_cons, commandsFrom_cons]
    split_ifs
    · exact (List.prefix_append_right_inj _).mpr (ih true [])
    · exact (List.prefix_append_right_inj _).mpr (ih false [])
    · exact ih inside (run ++ [t])

/-- A longer text keeps the commands of a text that is divided from the rest. -/
theorem Divides.commands_isPrefix (divides : m.Divides p) (h : p <+: q) :
    (m.parse p).commands <+: (m.parse q).commands := by
  obtain ⟨s, rfl⟩ := h
  rw [commands_parse, commands_parse, divides s]
  exact commandsFrom_isPrefix_append m false [] _ _

/-- A longer text keeps the lasting problems of a text that is divided from the rest. -/
theorem Divides.lasting_le (divides : m.Divides p) (h : p <+: q) :
    (m.parse p).lasting ≤ (m.parse q).lasting := by
  obtain ⟨s, rfl⟩ := h
  rw [parse_eq_read, parse_eq_read, divides s]
  exact lasting_segmentFrom_le m false [] _ _

end Markers

end Whiteboard
