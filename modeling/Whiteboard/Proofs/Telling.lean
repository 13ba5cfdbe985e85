import Mathlib.Algebra.Order.Sub.Basic
import Mathlib.Data.List.Infix
import Mathlib.Data.Multiset.OrderedMonoid
import Whiteboard.Proofs.Configuration
import Whiteboard.Proofs.Difference
import Whiteboard.Proofs.Growth
import Whiteboard.Proofs.Snapshots

/-!
# How often a problem is told

A snapshot tells the problems that the known one did not have. So if the snapshots of a text grow,
and each ends between two tokens, every problem of the text is told once.

If they arrive in any order, that is not so. The known snapshot is the last one that has all commands
of the longest. Where a statement is still open at the end of the longest one, a shorter snapshot may
have all its commands and lack some of its problems. Then what it lacks is forgotten, and the next
snapshot that has it tells it again. This is the only way in which a problem is told too often.

## Main definitions

* `Session.told` — the problems of scripts that the reports of a run tell
* `Markers.lastFull` — the last of some snapshots that has all commands of the longest
* `Markers.NoneForgotten` — no snapshot has a problem that was forgotten

## Main results

* `Session.stream_handleAll` — what is known behind snapshots in any order
* `Session.told_concat` — what one more snapshot tells
* `Session.told_once_iff` — when snapshots in any order tell no problem too often
* `Session.told_finish_perm` — snapshots that grow tell each problem once
-/

namespace Whiteboard

/-! ### Problems in reports -/

/-- The problem of the script that a diagnostic tells. -/
def Diagnostic.problem? : Diagnostic → Option Problem
  | .script problem => some problem
  | _ => none

/-- The problems of the script that a report tells are the new ones. -/
theorem BatchReport.filterMap_problem?_diagnostics (report : BatchReport) :
    report.diagnostics.filterMap Diagnostic.problem? = report.problems := by
  have drawing : report.fates.diagnostics.filterMap Diagnostic.problem? = [] := by
    rw [List.filterMap_eq_nil_iff]
    intro diagnostic mem
    obtain ⟨fate, -, mem⟩ := List.mem_flatMap.mp mem
    -- a fate tells of dangling ends and of the surface only
    have dangling : ∀ resolution ends, diagnostic ∈ Fate.tell resolution ends →
        diagnostic.problem? = none := by
      intro resolution ends mem
      obtain ⟨_, -, rfl⟩ := List.mem_map.mp mem
      rfl
    cases fate with
    | drawn call ends answer =>
      cases answer with
      | created id => exact dangling _ _ mem
      | failed error =>
        rcases List.mem_append.mp mem with mem | mem
        · exact dangling _ _ mem
        · rw [List.mem_singleton.mp mem]
          rfl
    | skipped spec ends => exact dangling _ _ mem
    | deferred spec => cases mem
  simp [diagnostics, drawing, List.filterMap_map, Function.comp_def, Diagnostic.problem?]

namespace Session

variable {Board : Type} (S : Surface Board)

/-- The problems of scripts that the reports of a run tell. -/
def told (reports : List BatchReport) : List Problem :=
  reports.flatMap fun report => report.diagnostics.filterMap Diagnostic.problem?

@[simp] theorem told_append (a b : List BatchReport) : told (a ++ b) = told a ++ told b :=
  List.flatMap_append

@[simp] theorem told_singleton (report : BatchReport) : told [report] = report.problems := by
  rw [told, List.flatMap_singleton, BatchReport.filterMap_problem?_diagnostics]

/-- A snapshot tells the problems that it has beyond those that are known. -/
theorem coe_problems_process (s : Session) (finality : Finality) (text : Text) (board : Board) :
    ((s.process S finality text board).1.problems : Multiset Problem) =
      (countedProblems finality (s.config.markers.parse text).problems : Multiset Problem) -
        s.stream.problems := by
  rw [process_eq]
  exact coe_unseen _ _

/-- That a sequence is open is not told of a text that may still grow. -/
theorem not_isUnterminated_of_mem_told (s : Session) (texts : List Text) (board : Board) :
    ∀ problem ∈ told (s.handleAll S (texts.map .submit) board).1,
      problem.isUnterminated = false := by
  induction texts generalizing s board with
  | nil => exact List.forall_mem_nil _
  | cons t texts ih =>
    rw [List.map_cons, handleAll_cons, handle_submit]
    intro problem mem
    simp only [Option.toList_some, told_append, told_singleton, List.mem_append] at mem
    rcases mem with mem | mem
    · have lasting : problem ∈ (s.config.markers.parse t).lasting := by
        refine Multiset.mem_of_le ?_ (Multiset.mem_coe.mpr mem)
        rw [coe_problems_process]
        exact tsub_le_self
      exact Parsed.not_isUnterminated_of_mem_lasting lasting
    · exact ih _ _ problem mem

end Session

/-! ### What is known -/

namespace Text

/-- The longest of some texts is one of them, or empty. -/
theorem longest_mem (texts : List Text) : longest texts ∈ texts ∨ longest texts = [] := by
  induction texts using List.reverseRecOn with
  | nil => exact .inr rfl
  | append_singleton texts t ih =>
    rw [longest_concat, longer]
    split
    · exact .inl (List.mem_append_right _ List.mem_cons_self)
    · exact ih.imp_left (List.mem_append_left _)

/-- All beginnings of one text are beginnings of the longest of them. -/
theorem isPrefix_longest {T t : Text} {texts : List Text} (h : ∀ t ∈ texts, t <+: T)
    (mem : t ∈ texts) : t <+: longest texts := by
  induction texts using List.reverseRecOn with
  | nil => cases mem
  | append_singleton texts u ih =>
    have before : ∀ t' ∈ texts, t' <+: T := fun t' mem => h t' (List.mem_append_left _ mem)
    rw [longest_concat]
    rcases longer_cases (longest_comparable h) with ⟨longer, front⟩ | ⟨longer, front⟩
    · rw [longer]
      rcases List.mem_append.mp mem with mem | mem
      · exact (ih before mem).trans front
      · exact List.mem_singleton.mp mem ▸ List.prefix_rfl
    · rw [longer]
      rcases List.mem_append.mp mem with mem | mem
      · exact ih before mem
      · exact List.mem_singleton.mp mem ▸ front

end Text

namespace Markers

variable {m : Markers} {T t : Text} {texts : List Text}

/-- What is known of a stream behind a snapshot that did not come late. -/
def known (m : Markers) (t : Text) : Stream :=
  ⟨(m.parse t).commands, Session.countedProblems .more (m.parse t).problems⟩

theorem known_nil (m : Markers) : m.known [] = {} := by
  simp [known, parse, segment, segmentFrom, Segmentation.ofRun, Sequence.parseAll,
    Session.countedProblems]

/-- A snapshot becomes the known one unless its commands are fewer. -/
theorem next_known (m : Markers) (l t : Text) :
    (m.known l).next .more (m.known t).commands (m.known t).problems =
      if (m.parse t).commands <+: (m.parse l).commands ∧
          (m.parse t).commands ≠ (m.parse l).commands then m.known l
      else m.known t := by
  unfold Stream.next
  simp only [Stream.isStale_iff]
  rfl

/-- The last of some snapshots that has all commands of the longest one. -/
def lastFull (m : Markers) (texts : List Text) : Text :=
  (texts.filter fun t => (m.parse t).commands = (m.parse (Text.longest texts)).commands).getLastD []

/-- Some snapshot has all commands of the longest one, if there are any. -/
theorem lastFull_cases (m : Markers) (texts : List Text) :
    m.lastFull texts ∈ texts ∧
        (m.parse (m.lastFull texts)).commands = (m.parse (Text.longest texts)).commands ∨
      m.lastFull texts = [] ∧ Text.longest texts = [] := by
  unfold lastFull
  rcases List.eq_nil_or_concat (texts.filter fun t =>
    (m.parse t).commands = (m.parse (Text.longest texts)).commands) with none | ⟨full, t, some⟩
  · refine .inr ⟨by rw [none]; rfl, ?_⟩
    -- the longest snapshot would be one of them
    refine (Text.longest_mem texts).resolve_left fun mem => ?_
    simpa using List.filter_eq_nil_iff.mp none _ mem
  · left
    rw [some, List.concat_eq_append, List.getLastD_concat]
    have mem : t ∈ texts.filter fun t =>
        (m.parse t).commands = (m.parse (Text.longest texts)).commands := by
      simp [some]
    simpa using List.mem_filter.mp mem

theorem commands_lastFull (m : Markers) (texts : List Text) :
    (m.parse (m.lastFull texts)).commands = (m.parse (Text.longest texts)).commands := by
  rcases m.lastFull_cases texts with ⟨-, same⟩ | ⟨none, none'⟩
  · exact same
  · rw [none, none']

section Cut

variable (h : ∀ t ∈ texts, t <+: T ∧ m.Divides t)

include h

theorem divides_longest : m.Divides (Text.longest texts) := by
  rcases Text.longest_mem texts with mem | none
  · exact (h _ mem).2
  · exact none ▸ m.divides_nil

theorem divides_lastFull : m.Divides (m.lastFull texts) := by
  rcases m.lastFull_cases texts with ⟨mem, -⟩ | ⟨none, -⟩
  · exact (h _ mem).2
  · exact none ▸ m.divides_nil

theorem lastFull_isPrefix_longest : m.lastFull texts <+: Text.longest texts := by
  rcases m.lastFull_cases texts with ⟨mem, -⟩ | ⟨none, -⟩
  · exact Text.isPrefix_longest (fun t mem => (h t mem).1) mem
  · exact none ▸ List.nil_prefix

end Cut

/-- No snapshot meets a problem that was forgotten: it has no problem beyond those of the last full
one before it, or that has all problems of the longest one before it. -/
def NoneForgotten (m : Markers) (texts : List Text) : Prop :=
  ∀ front t, front ++ [t] <+: texts →
    (m.parse t).lasting ≤ (m.parse (m.lastFull front)).lasting ∨
      (m.parse (Text.longest front)).lasting ≤ (m.parse (m.lastFull front)).lasting

theorem noneForgotten_nil (m : Markers) : m.NoneForgotten [] := fun front t cut => by
  simpa using List.prefix_nil.mp cut

theorem noneForgotten_concat :
    m.NoneForgotten (texts ++ [t]) ↔ m.NoneForgotten texts ∧
      ((m.parse t).lasting ≤ (m.parse (m.lastFull texts)).lasting ∨
        (m.parse (Text.longest texts)).lasting ≤ (m.parse (m.lastFull texts)).lasting) := by
  constructor
  · intro all
    refine ⟨fun front t' cut => ?_, all texts t List.prefix_rfl⟩
    exact all front t' (cut.trans (List.prefix_append _ _))
  · rintro ⟨earlier, last⟩ front t' cut
    rcases List.prefix_concat_iff.mp cut with whole | cut
    · obtain ⟨rfl, same⟩ := List.append_inj' whole rfl
      obtain rfl := List.singleton_inj.mp same
      exact last
    · exact earlier front t' cut

/-- The next snapshot is the last full one, unless its commands are fewer than those before it. -/
theorem lastFull_concat (h : ∀ t' ∈ texts ++ [t], t' <+: T ∧ m.Divides t') :
    m.lastFull (texts ++ [t]) =
      if (m.parse t).commands <+: (m.parse (m.lastFull texts)).commands ∧
          (m.parse t).commands ≠ (m.parse (m.lastFull texts)).commands then m.lastFull texts
      else t := by
  have divides : m.Divides (Text.longest texts) :=
    divides_longest fun t' mem => h t' (List.mem_append_left _ mem)
  have full : ∀ l, Text.longest (texts ++ [t]) = l →
      (m.parse t).commands = (m.parse l).commands → m.lastFull (texts ++ [t]) = t := by
    intro l longest same
    simp [lastFull, longest, List.filter_append, same]
  rw [commands_lastFull]
  rcases Text.longer_cases (Text.longest_comparable fun t' mem => (h t' mem).1) with
    ⟨longer, front⟩ | ⟨longer, front⟩
  · -- a snapshot that goes on has all commands there are
    rw [← Text.longest_concat] at longer
    have more := divides.commands_isPrefix front
    rw [if_neg fun late => late.2 (late.1.eq_of_length_le more.length_le)]
    exact full t longer rfl
  · rw [← Text.longest_concat] at longer
    have fewer := (h t (by simp)).2.commands_isPrefix front
    by_cases same : (m.parse t).commands = (m.parse (Text.longest texts)).commands
    · rw [if_neg fun late => late.2 same]
      exact full _ longer same
    · rw [if_pos ⟨fewer, same⟩]
      simp [lastFull, longer, List.filter_append, same]

/-- If snapshots grow, the last full one is the longest one. -/
theorem lastFull_of_growing (h : ∀ t ∈ texts, t <+: T ∧ m.Divides t)
    (growing : texts.Pairwise (· <+: ·)) : m.lastFull texts = Text.longest texts := by
  induction texts using List.reverseRecOn with
  | nil => rfl
  | append_singleton texts t ih =>
    have before : ∀ t' ∈ texts, t' <+: T ∧ m.Divides t' := fun t' mem =>
      h t' (List.mem_append_left _ mem)
    obtain ⟨growing, -, above⟩ := List.pairwise_append.mp growing
    have front : Text.longest texts <+: t :=
      Text.longest_isPrefix fun t' mem => above t' mem t List.mem_cons_self
    -- its commands go on from those of the longest one before it
    have more := (divides_longest before).commands_isPrefix front
    rw [lastFull_concat h, ih before growing, Text.longest_concat, Text.longer_of_isPrefix front,
      if_neg fun late => late.2 (late.1.eq_of_length_le more.length_le)]

/-- If snapshots grow, no problem is forgotten. -/
theorem noneForgotten_of_growing (h : ∀ t ∈ texts, t <+: T ∧ m.Divides t)
    (growing : texts.Pairwise (· <+: ·)) : m.NoneForgotten texts := by
  intro front t cut
  have part : front <+: texts := (List.prefix_append _ _).trans cut
  have longest := lastFull_of_growing (fun t mem => h t (part.subset mem))
    (growing.sublist part.sublist)
  exact .inr (by rw [longest])

end Markers

namespace Session

variable {Board : Type} (S : Surface Board) {start : Session} {T t : Text} {texts : List Text}

theorem BeginsStream.stream_eq_empty {s : Session} (begins : s.BeginsStream) : s.stream = {} := by
  cases begins <;> rfl

/-- Behind snapshots in any order, what is known is the last full one. -/
theorem stream_handleAll (begins : start.BeginsStream)
    (h : ∀ t ∈ texts, t <+: T ∧ start.config.markers.Divides t) (board : Board) :
    (start.handleAll S (texts.map .submit) board).2.1.stream =
      start.config.markers.known (start.config.markers.lastFull texts) := by
  induction texts using List.reverseRecOn with
  | nil => exact begins.stream_eq_empty.trans (Markers.known_nil _).symm
  | append_singleton texts t ih =>
    have before := ih fun t' mem => h t' (List.mem_append_left _ mem)
    rw [List.map_append, List.map_singleton, Markers.lastFull_concat h]
    simp only [handleAll_concat, handle_submit, process_eq, config_handleAll, before]
    refine (Markers.next_known _ _ t).trans ?_
    split <;> rfl

/-- One more snapshot tells the lasting problems that it has beyond those of the last full one. -/
theorem told_concat (begins : start.BeginsStream)
    (h : ∀ t ∈ texts, t <+: T ∧ start.config.markers.Divides t) (t : Text) (board : Board) :
    (told (start.handleAll S ((texts ++ [t]).map .submit) board).1 : Multiset Problem) =
      told (start.handleAll S (texts.map .submit) board).1 +
        ((start.config.markers.parse t).lasting -
          (start.config.markers.parse (start.config.markers.lastFull texts)).lasting) := by
  rw [List.map_append, List.map_singleton]
  simp only [handleAll_concat, handle_submit, Option.toList_some, told_append, told_singleton,
    ← Multiset.coe_add]
  rw [coe_problems_process, stream_handleAll S begins h, config_handleAll]
  rfl

/-! ### Snapshots in any order -/

/-- A total that is no less than the largest part so far is no more than it either if it was so
before, and the next part brings nothing to what is known, or that is the largest already. -/
theorem add_sub_le_iff {α : Type} [DecidableEq α] {total largest known next largest' : Multiset α}
    (enough : largest ≤ total) (below : known ≤ largest)
    (grown : largest' = next ∧ largest ≤ next ∨ largest' = largest ∧ next ≤ largest) :
    total + (next - known) ≤ largest' ↔ total ≤ largest ∧ (next ≤ known ∨ largest ≤ known) := by
  constructor
  · intro bound
    rcases grown with ⟨rfl, more⟩ | ⟨rfl, fewer⟩
    · -- what was new came on top of the total, so the total was no more than what was known
      have parts : largest' = known + (largest' - known) :=
        (add_tsub_cancel_of_le (below.trans more)).symm
      have total_le : total ≤ known := by
        rw [parts, add_tsub_cancel_left] at bound
        exact le_of_add_le_add_right bound
      exact ⟨total_le.trans below, .inr (enough.trans total_le)⟩
    · have total_le : total ≤ largest' := le_self_add.trans bound
      have nothing : next - known ≤ 0 :=
        le_of_add_le_add_left (bound.trans (enough.trans (add_zero total).ge))
      exact ⟨total_le, .inl (tsub_nonpos.mp nothing)⟩
  · rintro ⟨bound, old | full⟩
    · rw [tsub_eq_zero_of_le old, add_zero]
      rcases grown with ⟨rfl, more⟩ | ⟨rfl, -⟩
      · exact bound.trans more
      · exact bound
    · rw [below.antisymm full]
      rcases grown with ⟨rfl, more⟩ | ⟨rfl, fewer⟩
      · calc
          total + (largest' - largest) ≤ largest + (largest' - largest) := by gcongr
          _ = largest' := add_tsub_cancel_of_le more
      · rw [tsub_eq_zero_of_le fewer, add_zero]
        exact bound

/-- Behind snapshots in any order, each lasting problem of the longest one has been told. -/
theorem lasting_longest_le_told (begins : start.BeginsStream)
    (h : ∀ t ∈ texts, t <+: T ∧ start.config.markers.Divides t) (board : Board) :
    (start.config.markers.parse (Text.longest texts)).lasting ≤
      told (start.handleAll S (texts.map .submit) board).1 := by
  induction texts using List.reverseRecOn with
  | nil =>
    have none := congrArg Stream.problems start.config.markers.known_nil
    exact (congrArg _ none).le
  | append_singleton texts t ih =>
    have before : ∀ t' ∈ texts, t' <+: T ∧ start.config.markers.Divides t' := fun t' mem =>
      h t' (List.mem_append_left _ mem)
    rw [told_concat S begins before, Text.longest_concat]
    rcases Text.longer_cases (Text.longest_comparable fun t' mem => (h t' mem).1) with
      ⟨longer, -⟩ | ⟨longer, -⟩
    · -- what is known has been told, and what is not known is told now
      rw [longer]
      have known := (Markers.divides_lastFull before).lasting_le
        (Markers.lastFull_isPrefix_longest before)
      calc
        (start.config.markers.parse t).lasting ≤ _ := le_add_tsub
        _ ≤ _ := by
          gcongr
          exact known.trans (ih before)
    · rw [longer]
      exact (ih before).trans le_self_add

/-- Snapshots in any order tell no lasting problem too often just if none is forgotten. -/
theorem told_le_lasting_iff (begins : start.BeginsStream)
    (h : ∀ t ∈ texts, t <+: T ∧ start.config.markers.Divides t) (board : Board) :
    (told (start.handleAll S (texts.map .submit) board).1 : Multiset Problem) ≤
        (start.config.markers.parse (Text.longest texts)).lasting ↔
      start.config.markers.NoneForgotten texts := by
  induction texts using List.reverseRecOn with
  | nil => exact ⟨fun _ => Markers.noneForgotten_nil _, fun _ => Multiset.zero_le _⟩
  | append_singleton texts t ih =>
    have before : ∀ t' ∈ texts, t' <+: T ∧ start.config.markers.Divides t' := fun t' mem =>
      h t' (List.mem_append_left _ mem)
    have known := (Markers.divides_lastFull before).lasting_le
      (Markers.lastFull_isPrefix_longest before)
    -- the longest snapshot is this one or the one of before, and has the more problems
    have grown : let m := start.config.markers
        (m.parse (Text.longest (texts ++ [t]))).lasting = (m.parse t).lasting ∧
            (m.parse (Text.longest texts)).lasting ≤ (m.parse t).lasting ∨
          (m.parse (Text.longest (texts ++ [t]))).lasting =
              (m.parse (Text.longest texts)).lasting ∧
            (m.parse t).lasting ≤ (m.parse (Text.longest texts)).lasting := by
      rw [Text.longest_concat]
      rcases Text.longer_cases (Text.longest_comparable fun t' mem => (h t' mem).1) with
        ⟨longer, front⟩ | ⟨longer, front⟩
      · exact .inl ⟨by rw [longer], (Markers.divides_longest before).lasting_le front⟩
      · exact .inr ⟨by rw [longer], (h t (by simp)).2.lasting_le front⟩
    rw [told_concat S begins before, Markers.noneForgotten_concat, ← ih before]
    exact add_sub_le_iff (lasting_longest_le_told S begins before board) known grown

/-- **When a problem is told again.** A stream begins, and snapshots of one text arrive in any order,
each ending in white space or in a terminator. Unless a problem is forgotten, the reports together
tell none more often than it is in the longest snapshot; and if one is, they do. -/
theorem told_once_iff {s : Session} (begins : s.BeginsStream) {lookup : Text → Option Text}
    (accepted : Config.ofLookup lookup = .ok s.config)
    (h : ∀ t ∈ texts, t <+: T ∧ t.EndsInGap) (board : Board) :
    (∀ problem, (told (s.handleAll S (texts.map .submit) board).1).count problem ≤
        (s.config.markers.parse (Text.longest texts)).problems.count problem) ↔
      s.config.markers.NoneForgotten texts := by
  obtain ⟨blank, mark⟩ := Config.avoids_of_ofLookup accepted
  have cut : ∀ t ∈ texts, t <+: T ∧ s.config.markers.Divides t := fun t mem =>
    ⟨(h t mem).1, Markers.divides_of_endsInGap blank mark (h t mem).2⟩
  rw [← told_le_lasting_iff S begins cut board, Multiset.le_iff_count]
  refine forall_congr' fun problem => ?_
  rw [Multiset.coe_count]
  -- that a sequence is open is never told, and any other problem lasts
  cases sort : problem.isUnterminated with
  | true =>
    have never : (told (s.handleAll S (texts.map .submit) board).1).count problem = 0 :=
      List.count_eq_zero.mpr fun mem => by
        simpa [sort] using not_isUnterminated_of_mem_told S s texts board problem mem
    simp [never]
  | false => rw [Parsed.count_lasting sort]

/-- A snapshot, one that came late, and the first one again. No command ends in them. -/
def resentSnapshots : List Text :=
  ["START_SEQUENCE action:create shape:circle x:no ".toList,
   "START_SEQUENCE action:create shape:circle ".toList,
   "START_SEQUENCE action:create shape:circle x:no ".toList]

/-- The late snapshot has all commands of the first one, of which there are none, so its problem is
forgotten, and told again with the last one. -/
theorem told_once_iff_resent :
    let told := told (handleAll (Instant.surface SurfaceId.mk) { config := {} }
      (resentSnapshots.map .submit) {}).1
    let problem := Problem.unreadableNumber .x "no".toList
    (∀ t ∈ resentSnapshots, t <+: Text.longest resentSnapshots ∧ t.EndsInGap) ∧
      told.count problem = 2 ∧
      (({} : Markers).parse (Text.longest resentSnapshots)).problems.count problem = 1 ∧
      ¬ ({} : Markers).NoneForgotten resentSnapshots := by
  have accepted : Config.ofLookup (fun _ => none) = .ok {} := rfl
  intro told problem
  have cut : ∀ t ∈ resentSnapshots, t <+: Text.longest resentSnapshots ∧ t.EndsInGap := by decide
  have twice : told.count problem = 2 := by decide +kernel
  have once : (({} : Markers).parse (Text.longest resentSnapshots)).problems.count problem = 1 := by
    decide +kernel
  refine ⟨cut, twice, once, fun remembered => ?_⟩
  have bound := (told_once_iff (Instant.surface SurfaceId.mk) (.new {}) accepted cut {}).mpr
    remembered problem
  have : told.count problem ≤ 1 := once ▸ bound
  omega

/-! ### Snapshots that grow -/

/-- Behind snapshots that grow, each lasting problem of the longest one has been told. -/
theorem told_of_growing (begins : start.BeginsStream)
    (h : ∀ t ∈ texts, t <+: T ∧ start.config.markers.Divides t)
    (growing : texts.Pairwise (· <+: ·)) (board : Board) :
    (told (start.handleAll S (texts.map .submit) board).1 : Multiset Problem) =
      (start.config.markers.parse (Text.longest texts)).lasting :=
  le_antisymm
    ((told_le_lasting_iff S begins h board).mpr (Markers.noneForgotten_of_growing h growing))
    (lasting_longest_le_told S begins h board)

/-- **Each problem is told once.** A stream begins, its snapshots grow, and each ends in white space
or in a terminator. Then all reports up to the last one together tell each problem of the text as
often as it is in the text, and that a sequence is open is told by the last one only. -/
theorem told_finish_perm {s : Session} (begins : s.BeginsStream) {lookup : Text → Option Text}
    (accepted : Config.ofLookup lookup = .ok s.config)
    (growing : (texts ++ [T]).IsChain (· <+: ·)) (gaps : ∀ t ∈ texts, t.EndsInGap)
    (board : Board) :
    ∃ reports last,
      (s.handleAll S (texts.map .submit ++ [.finish T]) board).1 = reports ++ [last] ∧
      reports.length = texts.length ∧
      (told (reports ++ [last])).Perm (s.config.markers.parse T).problems ∧
      ∀ problem ∈ told reports, problem.isUnterminated = false := by
  obtain ⟨blank, mark⟩ := Config.avoids_of_ofLookup accepted
  obtain ⟨growing, -, above⟩ := List.pairwise_append.mp (List.isChain_iff_pairwise.mp growing)
  have cut : ∀ t ∈ texts, t <+: T ∧ s.config.markers.Divides t := fun t mem =>
    ⟨above t mem T List.mem_cons_self, Markers.divides_of_endsInGap blank mark (gaps t mem)⟩
  have front : Text.longest texts <+: T := Text.longest_isPrefix fun t mem => (cut t mem).1
  have streamed := told_of_growing S begins cut growing board
  have full := Markers.lastFull_of_growing cut growing
  have known := stream_handleAll S begins cut board
  let before := s.handleAll S (texts.map .submit) board
  refine ⟨before.1, (before.2.1.process S .last T before.2.2).1, ?_,
    length_handleAll_submit S s texts board, ?_, not_isUnterminated_of_mem_told S s texts board⟩
  · rw [handleAll_concat]
    rfl
  -- the last report tells what the text has beyond what has been told
  have lasting : (s.config.markers.parse (Text.longest texts)).lasting ≤
      ((s.config.markers.parse T).problems : Multiset Problem) :=
    ((Markers.divides_longest cut).lasting_le front).trans (Parsed.lasting_le _)
  rw [← Multiset.coe_eq_coe, told_append, ← Multiset.coe_add, streamed, told_singleton,
    coe_problems_process, known, full, config_handleAll]
  exact add_tsub_cancel_of_le lasting

/-- A text that begins a sequence and does not end it, with a snapshot in front of the terminator
and one behind it. -/
def unendedSnapshots : List Text :=
  ["START_SEQUENCE action:create shape:circle x:no ".toList,
   "START_SEQUENCE action:create shape:circle x:no y:1;".toList]

/-- The value that is no number is told with the first snapshot, the reference that is none with the
last text, and with that too that the sequence is open. -/
theorem told_finish_perm_unended :
    let T := unendedSnapshots.getLastD [] ++ " action:create id:x".toList
    let problems := (({} : Markers).parse T).problems
    (unendedSnapshots ++ [T]).IsChain (· <+: ·) ∧ (∀ t ∈ unendedSnapshots, t.EndsInGap) ∧
      problems = [.unpaired "START_SEQUENCE".toList .unterminated,
        .unreadableNumber .x "no".toList, .unreadableReference .ident "x".toList] ∧
      ∃ reports last,
        (handleAll (Instant.surface SurfaceId.mk) { config := {} }
          (unendedSnapshots.map .submit ++ [.finish T]) {}).1 = reports ++ [last] ∧
        reports.length = unendedSnapshots.length ∧ (told (reports ++ [last])).Perm problems ∧
        ∀ problem ∈ told reports, problem.isUnterminated = false := by
  have accepted : Config.ofLookup (fun _ => none) = .ok {} := rfl
  intro T problems
  have growing : (unendedSnapshots ++ [T]).IsChain (· <+: ·) := by decide
  have gaps : ∀ t ∈ unendedSnapshots, t.EndsInGap := by decide
  exact ⟨growing, gaps, by decide +kernel,
    told_finish_perm (Instant.surface SurfaceId.mk) (.new {}) accepted growing gaps {}⟩

end Session

end Whiteboard
