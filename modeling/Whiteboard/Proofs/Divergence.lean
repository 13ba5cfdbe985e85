import Mathlib.Data.List.DropRight
import Whiteboard.Proofs.Run

/-!
# Snapshots that diverge

The snapshots of one stream need have nothing to do with each other. Whatever stands in the last
one that did not come late is in the log, in its order, though commands of other snapshots may stand
between. So the next snapshot loses nothing either: the beginning that it shares with that one is in
the log, and the rest of it is logged behind.
-/

namespace Whiteboard

/-! ### The current stream -/

namespace Request

/-- The request that a snapshot makes. -/
def snapshot : Finality → Text → Request
  | .more, text => .submit text
  | .last, text => .finish text

/-- Whether a request is a snapshot of a text that may still grow. -/
def isSubmit : Request → Bool
  | .submit _ => true
  | .finish _ | .reset => false

/-- The requests before the current stream began: up to the last one that ended a stream or forgot
everything, and with it. -/
def beforeStream (requests : List Request) : List Request := requests.rdropWhile isSubmit

/-- What is known of a stream behind one more request. A snapshot becomes the known one unless it
came late, which is to say that its commands are a strict prefix of the known ones. Any other
request begins a stream, and nothing is known of that. -/
def knownAfter (m : Markers) (known : List Command) : Request → List Command
  | .submit text =>
    let commands := (m.parse text).commands
    if commands <+: known ∧ commands ≠ known then known else commands
  | .finish _ | .reset => []

/-- What is known of the current stream: the commands of its last snapshot that did not come late,
and none at its start. -/
def known (m : Markers) (requests : List Request) : List Command :=
  requests.foldl (knownAfter m) []

end Request

namespace Session

variable {Board : Type} (S : Surface Board)

theorem handle_snapshot (s : Session) (finality : Finality) (text : Text) (board : Board) :
    s.handle S (.snapshot finality text) board =
      (some (s.process S finality text board).1, (s.process S finality text board).2) := by
  cases finality <;> rfl

theorem known_handle (s : Session) (request : Request) (board : Board) :
    (s.handle S request board).2.1.stream.commands =
      request.knownAfter s.config.markers s.stream.commands := by
  cases request with
  | submit text => exact Stream.commands_next_more _
  | finish text => rfl
  | reset => rfl

/-- A session knows of its stream what the requests tell. -/
theorem known_handleAll (s : Session) (requests : List Request) (board : Board) :
    (s.handleAll S requests board).2.1.stream.commands =
      requests.foldl (Request.knownAfter s.config.markers) s.stream.commands := by
  induction requests generalizing s board with
  | nil => rfl
  | cons request requests ih =>
    rw [handleAll_cons, List.foldl_cons, ← known_handle S s request board]
    exact (ih _ _).trans (by rw [config_handle])

/-! ### What the log has gained -/

/-- The log went on from some commands, and what is known of the stream stands in what it has gained
since, in order. -/
def KeepsKnown (s : Session) (log : List Command) : Prop :=
  ∃ gained, s.commands = log ++ gained ∧ s.stream.commands.Sublist gained

section Step

variable {s : Session} {log : List Command}

/-- With a snapshot the log gains whatever it lacks: the whole snapshot stands in it then, and what
was known still does. -/
theorem KeepsKnown.sublist (keeps : s.KeepsKnown log) (finality : Finality) (text : Text)
    (board : Board) :
    ∃ gained, (s.process S finality text board).2.1.commands = log ++ gained ∧
      s.stream.commands.Sublist gained ∧
      (s.config.markers.parse text).commands.Sublist gained := by
  obtain ⟨gained, logged, known⟩ := keeps
  refine ⟨gained ++ s.fresh text, ?_, known.trans (List.sublist_append_left _ _), ?_⟩
  · rw [process_eq, logged, List.append_assoc]
  · -- what is not new of the snapshot is known, so it stands in the log already
    rw [← s.stream.take_append_fresh (s.config.markers.parse text).commands]
    exact ((List.take_sublist _ _).trans known).append (.refl _)

/-- A snapshot of a text that may still grow keeps what is known, be it late or not. -/
theorem KeepsKnown.process (keeps : s.KeepsKnown log) (text : Text) (board : Board) :
    (s.process S .more text board).2.1.KeepsKnown log := by
  obtain ⟨gained, logged, known, snapshot⟩ := keeps.sublist S .more text board
  refine ⟨gained, logged, ?_⟩
  rw [process_eq]
  simp only [Stream.commands_next_more]
  split
  · exact known
  · exact snapshot

end Step

/-- Nothing is known at the start of a stream, so that stands anywhere. -/
theorem keepsKnown_of_stream_eq_empty {s : Session} (h : s.stream = {}) :
    s.KeepsKnown s.commands :=
  ⟨[], (List.append_nil _).symm, by simp [h]⟩

/-- Behind any list of requests, what is known of the current stream stands in what the log has
gained since that stream began. -/
theorem keepsKnown_handleAll (config : Config) (requests : List Request) (board : Board) :
    (handleAll S { config } requests board).2.1.KeepsKnown
      (handleAll S { config } (Request.beforeStream requests) board).2.1.commands := by
  induction requests using List.reverseRecOn with
  | nil => exact keepsKnown_of_stream_eq_empty rfl
  | append_singleton requests last ih =>
    -- a snapshot goes on with the stream that there is, and any other request begins one
    cases goesOn : last.isSubmit with
    | true =>
      have same : Request.beforeStream (requests ++ [last]) = Request.beforeStream requests :=
        List.rdropWhile_concat_pos _ _ _ goesOn
      rw [same, handleAll_concat]
      cases last with
      | submit text => exact ih.process S text _
      | finish text => cases goesOn
      | reset => cases goesOn
    | false =>
      have whole : Request.beforeStream (requests ++ [last]) = requests ++ [last] :=
        List.rdropWhile_concat_neg _ _ _ (by simp [goesOn])
      rw [whole, handleAll_concat]
      cases last with
      | submit text => cases goesOn
      | finish text => exact keepsKnown_of_stream_eq_empty rfl
      | reset => exact keepsKnown_of_stream_eq_empty rfl

/-- **Nothing is lost.** A session is asked for anything, in any order, and then told a snapshot,
be it the last one of its stream or not. All commands of the snapshot stand in what the log has
gained since the stream began, in their order, and the log of before goes on. What the report counts
as new are the commands behind the longest prefix that the snapshot shares with what was known. -/
theorem snapshot_sublist_gained (config : Config) (requests : List Request) (finality : Finality)
    (text : Text) (board : Board) :
    let start := handleAll S { config } (Request.beforeStream requests) board
    let before := handleAll S { config } requests board
    let after := before.2.1.handle S (.snapshot finality text) before.2.2
    let commands := (config.markers.parse text).commands
    ∃ report gained shared,
      after.1 = some report ∧
      after.2.1.commands = start.2.1.commands ++ gained ∧
      commands.Sublist gained ∧
      before.2.1.commands <+: after.2.1.commands ∧
      IsLongestCommonPrefix shared (Request.known config.markers requests) commands ∧
      report.newCommands = commands.length - shared.length := by
  intro start before after commands
  have same : before.2.1.config = config := config_handleAll S requests
  have known : before.2.1.stream.commands = Request.known config.markers requests :=
    known_handleAll S { config } requests board
  have keeps : before.2.1.KeepsKnown start.2.1.commands :=
    keepsKnown_handleAll S config requests board
  obtain ⟨gained, logged, -, snapshot⟩ := keeps.sublist S finality text before.2.2
  rw [same] at snapshot
  simp only [after, handle_snapshot]
  refine ⟨_, gained, commands.take (before.2.1.stream.shared commands), rfl, logged, snapshot,
    ?_, ?_, ?_⟩
  · rw [process_eq]
    exact List.prefix_append _ _
  · rw [← known]
    exact isLongestCommonPrefix_take _ _
  · have fewer : before.2.1.stream.shared commands ≤ commands.length :=
      commonPrefix_le_length _ _
    have new : before.2.1.fresh text = before.2.1.stream.fresh commands := by rw [fresh, same]
    rw [process_eq, List.length_take_of_le fewer]
    simp only [new]
    exact List.length_drop

end Session

end Whiteboard
