import Whiteboard.Proofs.Extension
import Whiteboard.Proofs.Run
import Whiteboard.Surface.Instant
import Whiteboard.Surface.Scripted

/-!
# Snapshots in any order

Snapshots of one text may arrive in any order and more than once. What a session knows is then what
stands in the longest of them: a longer snapshot adds what is new in it, and any other adds nothing.
So each command is logged once and each shape drawn once, whatever the surface answers.
-/

namespace Whiteboard

/-! ### The longest text -/

namespace Text

/-- The longer of two texts, the first one if they are equally long. -/
def longer (l t : Text) : Text := if l.length < t.length then t else l

/-- The longest of some texts, the first one if several are. -/
def longest (texts : List Text) : Text := texts.foldl longer []

@[simp] theorem longest_nil : longest [] = [] := rfl

@[simp] theorem longest_concat (texts : List Text) (t : Text) :
    longest (texts ++ [t]) = longer (longest texts) t := by
  simp [longest]

/-- If one of two texts begins the other, the longer one is the one that goes on. -/
theorem longer_cases {l t : Text} (h : l <+: t ∨ t <+: l) :
    longer l t = t ∧ l <+: t ∨ longer l t = l ∧ t <+: l := by
  unfold longer
  by_cases lt : l.length < t.length
  · rcases h with h | h
    · exact .inl ⟨if_pos lt, h⟩
    · exact absurd h.length_le (by omega)
  · rcases h with h | h
    · obtain rfl := h.eq_of_length_le (by omega)
      exact .inr ⟨if_neg lt, List.prefix_refl l⟩
    · exact .inr ⟨if_neg lt, h⟩

theorem longer_of_isPrefix {l t : Text} (h : l <+: t) : longer l t = t := by
  rcases longer_cases (.inl h) with ⟨longer, -⟩ | ⟨longer, h'⟩
  · exact longer
  · rw [longer]
    exact h.eq_of_length_le h'.length_le

/-- The longest of some beginnings of a text is a beginning of it. -/
theorem longest_isPrefix {T : Text} {texts : List Text} (h : ∀ t ∈ texts, t <+: T) :
    longest texts <+: T := by
  induction texts using List.reverseRecOn with
  | nil => exact List.nil_prefix
  | append_singleton texts t ih =>
    have before := ih fun t' mem => h t' (by simp [mem])
    have last := h t (by simp)
    rw [longest_concat, longer]
    split
    · exact last
    · exact before

/-- Of the longest text so far and the next one, one begins the other. -/
theorem longest_comparable {T t : Text} {texts : List Text} (h : ∀ t' ∈ texts ++ [t], t' <+: T) :
    longest texts <+: t ∨ t <+: longest texts := by
  have before : ∀ t' ∈ texts, t' <+: T := fun t' mem => h t' (List.mem_append_left _ mem)
  have last : t <+: T := h t (by simp)
  exact List.prefix_or_prefix_of_prefix (longest_isPrefix before) last

end Text

/-! ### What a snapshot adds -/

namespace Stream

variable {m : Markers} {stream : Stream} {l t : Text}

/-- What was known and what is new are together what stands in the longer text. -/
theorem append_fresh_longer (hm : m.IsPlain) (known : stream.commands = (m.parse l).commands)
    (h : l <+: t ∨ t <+: l) :
    stream.commands ++ stream.fresh (m.parse t).commands =
      (m.parse (Text.longer l t)).commands := by
  -- a snapshot that goes on keeps what was known; one that came late holds no more than that
  rcases Text.longer_cases h with ⟨longer, h⟩ | ⟨longer, h⟩
  · rw [longer]
    exact append_fresh (known ▸ Markers.commands_isPrefix hm h)
  · rw [longer, fresh_of_isPrefix (known ▸ Markers.commands_isPrefix hm h), List.append_nil, known]

/-- What stands in the longer text is known afterwards. -/
theorem commands_next_longer (hm : m.IsPlain) (known : stream.commands = (m.parse l).commands)
    (h : l <+: t ∨ t <+: l) (problems : List Problem) :
    (stream.next .more (m.parse t).commands problems).commands =
      (m.parse (Text.longer l t)).commands := by
  rcases Text.longer_cases h with ⟨longer, h⟩ | ⟨longer, h⟩
  · rw [longer]
    exact commands_next_of_isPrefix (known ▸ Markers.commands_isPrefix hm h) problems
  · rw [longer, commands_next_of_late (known ▸ Markers.commands_isPrefix hm h), known]

end Stream

/-! ### Following a text -/

namespace Session

variable {Board : Type}

/-- A session that knows nothing of a stream yet: it is new, or has just been reset, or has just
been told the last snapshot of another stream. -/
inductive BeginsStream : Session → Prop
  | new (config : Config) : BeginsStream { config }
  | reset (s : Session) : BeginsStream s.reset
  | finished {Board : Type} (S : Surface Board) (s : Session) (text : Text) (board : Board) :
      BeginsStream (s.handle S (.finish text) board).2.1

/-- Where a session stands that began a stream as `start` and has heard of some commands. -/
structure Follows (start s : Session) (commands : List Command) : Prop where
  config : s.config = start.config
  known : s.stream.commands = commands
  log : s.commands = start.commands ++ commands
  waiting : ∀ spec ∈ s.pending, spec.isArrow = true

theorem BeginsStream.follows {s : Session} (h : s.BeginsStream) : s.Follows s [] := by
  cases h with
  | new config => exact ⟨rfl, rfl, rfl, by simp⟩
  | reset s => exact ⟨rfl, rfl, rfl, by simp [Session.reset]⟩
  | finished S s text board =>
    -- the last snapshot settled every arrow and ended its stream, but the log stays
    have settled : (s.process S .last text board).2.1.pending = [] :=
      S.deferred_drawBatch_last s.config.policy (s.batch text) s.ids board
    exact ⟨rfl, rfl, (List.append_nil _).symm, by simp [settled]⟩

section Step

variable {start s : Session} {l t : Text}

/-- The new commands of a snapshot, behind the known ones, are those of the longer text. -/
theorem Follows.append_fresh (hm : start.config.markers.IsPlain)
    (follows : start.Follows s (start.config.markers.parse l).commands) (h : l <+: t ∨ t <+: l) :
    (start.config.markers.parse l).commands ++ s.fresh t =
      (start.config.markers.parse (Text.longer l t)).commands := by
  have both := Stream.append_fresh_longer hm follows.known h
  rwa [follows.known, ← follows.config, ← fresh, follows.config] at both

/-- A snapshot takes a session from the known text to the longer one. -/
theorem Follows.process (S : Surface Board) (hm : start.config.markers.IsPlain)
    (follows : start.Follows s (start.config.markers.parse l).commands) (h : l <+: t ∨ t <+: l)
    (board : Board) :
    start.Follows (s.process S .more t board).2.1
      (start.config.markers.parse (Text.longer l t)).commands where
  config := follows.config
  known := by
    rw [process_eq, follows.config]
    exact Stream.commands_next_longer hm follows.known h _
  log := by
    rw [process_eq, ← follows.append_fresh hm h, ← List.append_assoc, ← follows.log]
  waiting := isArrow_pending_process S .more t board follows.waiting

end Step

/-- Where a session stands after snapshots of one text, in any order. -/
theorem follows_handleAll (S : Surface Board) {start : Session} (begins : start.BeginsStream)
    (hm : start.config.markers.IsPlain) {T : Text} {texts : List Text}
    (h : ∀ t ∈ texts, t <+: T) (board : Board) :
    start.Follows (start.handleAll S (texts.map .submit) board).2.1
      (start.config.markers.parse (Text.longest texts)).commands := by
  induction texts using List.reverseRecOn with
  | nil =>
    rw [Text.longest_nil, Markers.commands_parse_nil]
    exact begins.follows
  | append_singleton texts t ih =>
    have before := ih fun t' mem => h t' (List.mem_append_left _ mem)
    rw [List.map_append, List.map_singleton, handleAll_concat, Text.longest_concat]
    exact before.process S hm (Text.longest_comparable h) _

/-- A session answers each snapshot with one report. -/
theorem length_handleAll_submit (S : Surface Board) (s : Session) (texts : List Text)
    (board : Board) : (s.handleAll S (texts.map .submit) board).1.length = texts.length := by
  induction texts generalizing s board with
  | nil => rfl
  | cons t texts ih =>
    rw [List.map_cons, handleAll_cons, handle_submit]
    simp [ih]

/-- The report of a snapshot is made by the session that the snapshots before it left. -/
theorem getElem?_handleAll_submit (S : Surface Board) (s : Session) {texts : List Text} {k : Nat}
    (hk : k < texts.length) (board : Board) :
    let before := (s.handleAll S ((texts.take k).map .submit) board).2
    (s.handleAll S (texts.map .submit) board).1[k]? =
      some (before.1.process S .more texts[k] before.2).1 := by
  intro before
  -- the run is cut in front of the snapshot, and each snapshot before it has one report
  have split : texts = texts.take k ++ texts[k] :: texts.drop (k + 1) := by simp
  have there := length_handleAll_submit S s (texts.take k) board
  rw [List.length_take_of_le (by omega)] at there
  conv_lhs => rw [split, List.map_append, List.map_cons, handleAll_append]
  simp only [handleAll_cons, handle_submit, Option.toList_some]
  rw [List.getElem?_append_right (by omega), there, Nat.sub_self]
  rfl

/-- Snapshots of one text ask for each shape in the longest of them once, in order. -/
theorem ofShapes_calls_handleAll (S : Surface Board) {start : Session}
    (begins : start.BeginsStream) (hm : start.config.markers.IsPlain) {T : Text}
    {texts : List Text} (h : ∀ t ∈ texts, t <+: T) (board : Board) :
    ShapeCall.ofShapes (calls (start.handleAll S (texts.map .submit) board).1) =
      (Command.shapes (start.config.markers.parse (Text.longest texts)).commands).map
        fun spec => ⟨spec, none, none⟩ := by
  induction texts using List.reverseRecOn with
  | nil => simp [handleAll, calls, ShapeCall.ofShapes, Command.shapes, Command.specs]
  | append_singleton texts t ih =>
    have before : ∀ t' ∈ texts, t' <+: T := fun t' mem => h t' (List.mem_append_left _ mem)
    have follows := follows_handleAll S begins hm before board
    -- the shapes of the longer text are those that are known, and those of the new commands
    rw [List.map_append, List.map_singleton, handleAll_concat, Text.longest_concat,
      ← follows.append_fresh hm (Text.longest_comparable h), Command.shapes_append,
      List.map_append, ← ih before]
    simp only [calls_append, ShapeCall.ofShapes_append]
    have new := ofShapes_calls_process S .more t
      (start.handleAll S (texts.map .submit) board).2.2 follows.waiting
    rw [← new]
    simp [calls]

/-- **Once each.** A stream begins, and snapshots of one text arrive in any order. What was logged
since is what stands in the longest of them, each report counts what that came to be more, and each
shape in it was asked for once, in the order of the text. Whatever follows the last snapshot here
can be said after each of them, since the snapshots up to it are such a list too. -/
theorem commands_once (S : Surface Board) {s : Session} (begins : s.BeginsStream)
    (hm : s.config.markers.IsPlain) {T : Text} {texts : List Text} (h : ∀ t ∈ texts, t <+: T)
    (board : Board) :
    let run := s.handleAll S.recorded (texts.map .submit) ⟨board, []⟩
    let known := fun texts => (s.config.markers.parse (Text.longest texts)).commands
    run.2.1.commands = s.commands ++ known texts ∧
      run.1.length = texts.length ∧
      (∀ k < texts.length, ∃ report, run.1[k]? = some report ∧
        (known (texts.take k)).length + report.newCommands =
          (known (texts.take (k + 1))).length) ∧
      ShapeCall.ofShapes (run.2.2.events.filterMap Event.call?) =
        (Command.shapes (known texts)).map fun spec => ⟨spec, none, none⟩ := by
  intro run known
  refine ⟨(follows_handleAll S.recorded begins hm h _).log, length_handleAll_submit .., ?_, ?_⟩
  · intro k hk
    have before : ∀ t' ∈ texts.take k, t' <+: T := fun t' mem => h t' (List.mem_of_mem_take mem)
    have upto : ∀ t' ∈ texts.take k ++ [texts[k]], t' <+: T := by
      rw [← List.take_succ_eq_append_getElem hk]
      exact fun t' mem => h t' (List.mem_of_mem_take mem)
    refine ⟨_, getElem?_handleAll_submit S.recorded s hk _, ?_⟩
    -- the session that reads this snapshot follows the text up to the longest one before
    have follows := follows_handleAll S.recorded begins hm before ⟨board, []⟩
    have grown := follows.append_fresh hm (Text.longest_comparable upto)
    rw [List.take_succ_eq_append_getElem hk]
    simp only [known, Text.longest_concat]
    rw [← grown, List.length_append]
    rfl
  · rw [← ofShapes_calls_handleAll S.recorded begins hm h ⟨board, []⟩]
    exact congrArg ShapeCall.ofShapes (adds_handleAll S (texts.map .submit) ⟨board, []⟩).calls_eq

/-- A snapshot, a longer one, and one that came late. -/
def lateSnapshots : List Text :=
  ["action:create shape:circle x:0 y:0 label:a; action:create shape".toList,
   "action:create shape:circle x:0 y:0 label:a; action:create shape:square x:0 y:0 label:b;".toList,
   "action:create".toList]

/-- Both shapes are asked for once, although a snapshot came late and the surface refuses one of
them. -/
theorem commands_once_late_snapshot :
    let run := handleAll
      ((Instant.surface SurfaceId.mk).scripted
        (fun label => if label = "b".toList then some .reject else none) SurfaceId.mk).recorded
      { config := {} } (lateSnapshots.map .submit) ⟨⟨{}, 0⟩, []⟩
    let commands := (({} : Markers).parse (Text.longest lateSnapshots)).commands
    commands.length = 2 ∧ run.2.1.commands = commands ∧
      ShapeCall.ofShapes (run.2.2.events.filterMap Event.call?) =
        (Command.shapes commands).map fun spec => ⟨spec, none, none⟩ := by
  have prefixes : ∀ t ∈ lateSnapshots, t <+: Text.longest lateSnapshots := by decide
  have once := commands_once
    ((Instant.surface SurfaceId.mk).scripted
      (fun label => if label = "b".toList then some .reject else none) SurfaceId.mk)
    (.new {}) (by decide) prefixes ⟨{}, 0⟩
  exact ⟨by decide +kernel, once.1, once.2.2.2⟩

end Session

end Whiteboard
