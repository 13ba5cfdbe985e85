import Mathlib.Data.List.Basic
import Whiteboard.Session.Stream

/-!
# What is known of a growing text

A snapshot whose commands go on from the known ones adds the rest and becomes the known one. A
snapshot whose commands end earlier adds nothing, and the known one stays. Any other snapshot adds
what stands behind its common prefix with the known one, and takes its place.
-/

namespace Whiteboard

/-- The longest list that two lists begin with. -/
structure IsLongestCommonPrefix {α : Type} (p as bs : List α) : Prop where
  left : p <+: as
  right : p <+: bs
  longest : ∀ q, q <+: as → q <+: bs → q <+: p

variable {α : Type} [DecidableEq α]

/-- Two lists agree as far as their common prefix goes. -/
theorem take_commonPrefix (as bs : List α) :
    as.take (commonPrefix as bs) = bs.take (commonPrefix as bs) := by
  induction as, bs using commonPrefix.induct with
  | case1 a as bs ih => simp [commonPrefix, ih]
  | case2 a as b bs differ => simp [commonPrefix, differ]
  | case3 as bs short => simp [commonPrefix]

theorem commonPrefix_le_length (as bs : List α) : commonPrefix as bs ≤ bs.length := by
  induction as, bs using commonPrefix.induct with
  | case1 a as bs ih => simpa [commonPrefix] using ih
  | case2 a as b bs differ => simp [commonPrefix, differ]
  | case3 as bs short => simp [commonPrefix]

/-- Two lists agree no further than their common prefix goes. -/
theorem length_le_commonPrefix {q as bs : List α} (left : q <+: as) (right : q <+: bs) :
    q.length ≤ commonPrefix as bs := by
  induction as, bs using commonPrefix.induct generalizing q with
  | case1 a as bs ih =>
    cases q with
    | nil => exact Nat.zero_le _
    | cons c q =>
      have shorter := ih (List.cons_prefix_cons.mp left).2 (List.cons_prefix_cons.mp right).2
      simpa [commonPrefix] using shorter
  | case2 a as b bs differ =>
    cases q with
    | nil => exact Nat.zero_le _
    | cons c q =>
      have same := (List.cons_prefix_cons.mp left).1.symm.trans (List.cons_prefix_cons.mp right).1
      exact absurd same differ
  | case3 as bs short =>
    -- one of the lists is empty, and so is whatever begins both
    cases as with
    | nil => simp [List.prefix_nil.mp left]
    | cons a as =>
      cases bs with
      | nil => simp [List.prefix_nil.mp right]
      | cons b bs => exact absurd rfl (short a as b bs rfl)

/-- Two lists agree just as far as their common prefix goes. -/
theorem isLongestCommonPrefix_take (as bs : List α) :
    IsLongestCommonPrefix (bs.take (commonPrefix as bs)) as bs where
  left := by
    rw [← take_commonPrefix]
    exact List.take_prefix _ _
  right := List.take_prefix _ _
  longest q left right :=
    List.prefix_take_iff.mpr ⟨right, length_le_commonPrefix left right⟩

theorem commonPrefix_of_isPrefix {as bs : List α} (h : as <+: bs) :
    commonPrefix as bs = as.length := by
  obtain ⟨rest, rfl⟩ := h
  induction as with
  | nil => cases rest <;> rfl
  | cons a as ih => simp [commonPrefix, ih]

theorem commonPrefix_comm (as bs : List α) : commonPrefix as bs = commonPrefix bs as := by
  induction as generalizing bs with
  | nil => cases bs <;> rfl
  | cons a as ih =>
    cases bs with
    | nil => rfl
    | cons b bs =>
      by_cases same : a = b
      · simp [commonPrefix, same, ih]
      · simp [commonPrefix, same, Ne.symm same]

theorem commonPrefix_of_isPrefix_right {as bs : List α} (h : bs <+: as) :
    commonPrefix as bs = bs.length := by
  rw [commonPrefix_comm, commonPrefix_of_isPrefix h]

namespace Stream

variable {stream : Stream} {commands : List Command}

/-- The new commands of a snapshot that goes on are what stands behind the known ones. -/
theorem append_fresh (h : stream.commands <+: commands) :
    stream.commands ++ stream.fresh commands = commands := by
  rw [fresh, shared, commonPrefix_of_isPrefix h]
  exact List.prefix_iff_eq_append.mp h

/-- A snapshot that goes on becomes the known one. -/
theorem commands_next_of_isPrefix (h : stream.commands <+: commands) (problems : List Problem) :
    (stream.next .more commands problems).commands = commands := by
  have current : stream.isStale commands = false := by
    rw [isStale, shared, commonPrefix_of_isPrefix h]
    simp
  simp [next, current]

/-- A snapshot that came late has nothing new. -/
theorem fresh_of_isPrefix (h : commands <+: stream.commands) : stream.fresh commands = [] := by
  rw [fresh, shared, commonPrefix_of_isPrefix_right h, List.drop_length]

/-- The commands that are known and those that are new make up the snapshot. -/
theorem take_append_fresh (stream : Stream) (commands : List Command) :
    stream.commands.take (stream.shared commands) ++ stream.fresh commands = commands := by
  rw [shared, take_commonPrefix]
  exact List.take_append_drop _ _

/-- A snapshot came late if its commands are a strict prefix of the known ones. -/
theorem isStale_iff : stream.isStale commands = true ↔
    commands <+: stream.commands ∧ commands ≠ stream.commands := by
  have agree := take_commonPrefix stream.commands commands
  rw [isStale, Bool.and_eq_true, decide_eq_true_eq, decide_eq_true_eq, shared]
  constructor
  · rintro ⟨all, fewer⟩
    rw [all, List.take_length] at agree
    refine ⟨agree ▸ List.take_prefix _ _, fun same => ?_⟩
    rw [← same] at all fewer
    omega
  · rintro ⟨front, differ⟩
    rw [commonPrefix_of_isPrefix_right front]
    refine ⟨rfl, Nat.lt_of_le_of_ne front.length_le fun same => ?_⟩
    exact differ (front.eq_of_length same)

/-- A snapshot becomes the known one, unless it came late. -/
theorem commands_next_more (problems : List Problem) :
    (stream.next .more commands problems).commands =
      if commands <+: stream.commands ∧ commands ≠ stream.commands then stream.commands
      else commands := by
  unfold next
  simp only [isStale_iff]
  split <;> rfl

/-- A snapshot that came late leaves the known commands. -/
theorem commands_next_of_late (h : commands <+: stream.commands) (problems : List Problem) :
    (stream.next .more commands problems).commands = stream.commands := by
  rw [commands_next_more]
  by_cases same : commands = stream.commands
  · -- no command is missing, so it is the known snapshot again
    rw [if_neg fun late => late.2 same, same]
  · rw [if_pos ⟨h, same⟩]

end Stream

end Whiteboard
