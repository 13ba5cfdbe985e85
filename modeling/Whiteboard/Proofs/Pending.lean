import Mathlib.Data.List.Induction
import Whiteboard.Proofs.Replay
import Whiteboard.Session.Shared

/-!
# Arrows that wait

Several sessions draw on one memory surface. Names are bound behind the settling that follows a
creation, and the arrows of a snapshot are looked at behind its shapes, those that waited first. So
an arrow waits only for a reference that means nothing, and is drawn as soon as all mean something.
-/

namespace Whiteboard

/-- The references of an arrow, that of its tail first. -/
def ShapeSpec.refs (spec : ShapeSpec) : List ShapeRef := spec.source.toList ++ spec.target.toList

namespace Bindings

variable {ids : Bindings} {spec : ShapeSpec}

/-- Whether all references of an arrow are bound. -/
def binds (ids : Bindings) (spec : ShapeSpec) : Bool :=
  spec.refs.all fun r => (ids.resolve? r).isSome

/-- The arrows that wait behind a snapshot: none if it is the last one, and else those with a
reference that is not bound. -/
def waiting (ids : Bindings) (finality : Finality) (arrows : List ShapeSpec) : List ShapeSpec :=
  match finality with
  | .more => arrows.filter fun spec => !ids.binds spec
  | .last => []

/-- An end dangles if it has a reference that is not bound. -/
theorem isNone_missing?_endpoint (ids : Bindings) (ref : Option ShapeRef) :
    (ids.endpoint ref).missing?.isNone = ref.toList.all fun r => (ids.resolve? r).isSome := by
  cases ref with
  | none => rfl
  | some r => cases found : ids.resolve? r <;> simp [endpoint, found, Endpoint.missing?]

/-- No end of an arrow dangles if all its references are bound. -/
theorem settles_eq_binds : ids.settles = ids.binds := by
  funext spec
  rw [binds, ShapeSpec.refs, List.all_append, ← isNone_missing?_endpoint,
    ← isNone_missing?_endpoint, settles, dangling, Endpoint.dangling]
  cases (ids.endpoint spec.source).missing? <;> cases (ids.endpoint spec.target).missing? <;> rfl

theorem binds_eq_false_iff : ids.binds spec = false ↔ ∃ r ∈ spec.refs, ids.resolve? r = none := by
  simp [binds]

/-- An arrow that waits has a reference that is not bound. -/
theorem mem_of_mem_waiting {finality : Finality} {arrows : List ShapeSpec}
    (h : spec ∈ ids.waiting finality arrows) : spec ∈ arrows ∧ ids.binds spec = false := by
  cases finality with
  | more => simpa [waiting] using h
  | last => cases h

/-- What the verdicts defer is what waits. -/
theorem filter_verdict_eq_defer (policy : Policy) (finality : Finality)
    (arrows : List ShapeSpec) :
    arrows.filter (fun spec => ids.verdict policy finality spec = .defer) =
      ids.waiting finality arrows := by
  cases finality with
  | more =>
    simp only [verdict_more_eq_defer, settles_eq_binds]
    rfl
  | last =>
    apply List.filter_eq_nil_iff.mpr
    intro spec _
    have settled : ids.verdict policy .last spec ≠ .defer :=
      Endpoint.verdict_last_ne_defer policy spec _ _
    simpa using settled

end Bindings

/-! ### One session -/

namespace Session

variable {s : Session} {board board' : Memory}

/-- A session whose names mean shapes on a board that has settled, and whose arrows wait for names
that mean nothing. -/
structure Steady (s : Session) (board : Memory) : Prop where
  carries : board.Carries s.ids
  waits : ∀ spec ∈ s.pending, spec.isArrow = true ∧ s.ids.binds spec = false

theorem steady_new (config : Config) (settled : board.pending = []) :
    Steady { config } board :=
  ⟨⟨settled, fun _ _ found => by cases found⟩, List.forall_mem_nil _⟩

/-- Whatever else is drawn on the board, a session remains as it is. -/
theorem Steady.grows (steady : s.Steady board) (grows : board.Grows board') : s.Steady board' :=
  ⟨steady.carries.grows grows, steady.waits⟩

variable (supply : Nat → SurfaceId)

/-- What a snapshot comes to. Of the arrows that waited and of its own it draws those whose
references are all bound behind its shapes; the others wait if more text may come. -/
theorem Steady.process (steady : s.Steady board) (finality : Finality) (text : Text) :
    let out := s.process (Memory.surface supply) finality text board
    let arrows := s.pending ++ Command.arrows (s.fresh text)
    out.2.1.Steady out.2.2 ∧ board.Grows out.2.2 ∧
      ((arrows.filter out.2.1.ids.binds).map out.2.1.ids.call).Sublist
        (out.1.created.map Created.call) ∧
      out.2.1.pending = out.2.1.ids.waiting finality arrows := by
  intro out arrows
  have sorted := isSorted_batch (fun spec mem => (steady.waits spec mem).1) text
  have outcome := steady.carries.drawBatch supply s.config.policy finality sorted
  have pending : out.2.1.pending = out.2.1.ids.waiting finality arrows :=
    outcome.deferred.trans (Bindings.filter_verdict_eq_defer _ _ _)
  refine ⟨⟨outcome.carries, fun spec mem => ?_⟩, outcome.grows, ?_, pending⟩
  · rw [pending] at mem
    obtain ⟨given, unbound⟩ := Bindings.mem_of_mem_waiting mem
    exact ⟨sorted.arrows spec given, unbound⟩
  · -- the arrows with all references bound are among those that are drawn, whatever the policy
    have drawn : ∀ spec, out.2.1.ids.binds spec = true →
        decide (out.2.1.ids.verdict s.config.policy finality spec = .draw) = true := by
      intro spec bound
      rw [← Bindings.settles_eq_binds] at bound
      exact decide_eq_true (Bindings.verdict_of_settles bound)
    have among := (List.monotone_filter_right arrows drawn).map out.2.1.ids.call
    have created : (Created.arrows out.1.created).map Created.call =
        (arrows.filter fun spec => out.2.1.ids.verdict s.config.policy finality spec = .draw).map
          out.2.1.ids.call := outcome.arrows
    rw [← created] at among
    exact among.trans (List.filter_sublist.map _)

/-- A request leaves a session steady, and the board has only grown. -/
theorem Steady.handle (steady : s.Steady board) (request : Request) :
    let out := s.handle (Memory.surface supply) request board
    out.2.1.Steady out.2.2 ∧ board.Grows out.2.2 := by
  cases request with
  | submit text =>
    obtain ⟨steady', grows, -⟩ := steady.process supply .more text
    exact ⟨steady', grows⟩
  | finish text =>
    obtain ⟨steady', grows, -⟩ := steady.process supply .last text
    exact ⟨steady', grows⟩
  | reset => exact ⟨steady_new s.config steady.carries.pending, .refl steady.carries.pending⟩

/-- Behind the last text no arrow waits. -/
theorem pending_handle_finish {Board : Type} (S : Surface Board) (s : Session) (text : Text)
    (board : Board) : (s.handle S (.finish text) board).2.1.pending = [] :=
  S.deferred_drawBatch_last s.config.policy (s.batch text) s.ids board

end Session

/-! ### Sessions on one board -/

namespace Shared

/-- Sessions that begin, each with its configuration. -/
def start {Board : Type} (configs : List Config) (board : Board) : Shared Board :=
  ⟨configs.map fun config => { config }, board⟩

/-- The last request to one of the sessions. -/
def lastTo (index : Nat) (requests : List (Nat × Request)) : Option Request :=
  ((requests.filter fun r => r.1 = index).map Prod.snd).getLast?

theorem lastTo_concat (index : Nat) (requests : List (Nat × Request)) (r : Nat × Request) :
    lastTo index (requests ++ [r]) = if r.1 = index then some r.2 else lastTo index requests := by
  by_cases here : r.1 = index <;> simp [lastTo, here]

section Run

variable {Board : Type} (S : Surface Board) {w : Shared Board} {index other : Nat}

/-- A request goes to the session with its index, and the others stay as they are. -/
theorem handle_eq {s : Session} (h : w.sessions[index]? = some s) (request : Request) :
    w.handle S index request =
      ((s.handle S request w.board).1,
        ⟨w.sessions.set index (s.handle S request w.board).2.1,
          (s.handle S request w.board).2.2⟩) := by
  simp [handle, h]

theorem handle_of_none (h : w.sessions[index]? = none) (request : Request) :
    w.handle S index request = (none, w) := by
  simp [handle, h]

theorem getElem?_handle_of_ne (h : other ≠ index) (request : Request) :
    (w.handle S index request).2.sessions[other]? = w.sessions[other]? := by
  cases found : w.sessions[index]? with
  | none => rw [handle_of_none S found]
  | some s => rw [handle_eq S found, List.getElem?_set_ne h.symm]

/-- The last of a list of requests is handled behind the others. -/
theorem handleAll_concat (w : Shared Board) (requests : List (Nat × Request))
    (r : Nat × Request) :
    (w.handleAll S (requests ++ [r])).2 = ((w.handleAll S requests).2.handle S r.1 r.2).2 := by
  induction requests generalizing w with
  | nil => rfl
  | cons r' requests ih => exact ih (w.handle S r'.1 r'.2).2

/-- If the last request to a session ended its text, no arrow waits in it. -/
theorem pending_of_lastTo {requests : List (Nat × Request)} {text : Text}
    (last : lastTo index requests = some (.finish text)) {s : Session}
    (h : (w.handleAll S requests).2.sessions[index]? = some s) : s.pending = [] := by
  induction requests using List.reverseRecOn with
  | nil => cases last
  | append_singleton requests r ih =>
    rw [handleAll_concat] at h
    rw [lastTo_concat] at last
    by_cases here : r.1 = index
    · obtain rfl := here
      cases found : (w.handleAll S requests).2.sessions[r.1]? with
      | none => simp [handle_of_none S found, found] at h
      | some s' =>
        rw [if_pos rfl, Option.some_inj] at last
        have there : r.1 < (w.handleAll S requests).2.sessions.length :=
          (List.getElem?_eq_some_iff.mp found).1
        rw [handle_eq S found, last, List.getElem?_set_self there, Option.some_inj] at h
        rw [← h]
        exact Session.pending_handle_finish S s' text _
    · rw [if_neg here] at last
      rw [getElem?_handle_of_ne S (Ne.symm here)] at h
      exact ih last h

end Run

variable {w : Shared Memory} (supply : Nat → SurfaceId)

/-- Sessions that are all steady on the board that they share. -/
structure Steady (w : Shared Memory) : Prop where
  settled : w.board.pending = []
  sessions : ∀ s ∈ w.sessions, s.Steady w.board

theorem steady_start (configs : List Config) : (start configs {}).Steady where
  settled := rfl
  sessions s mem := by
    obtain ⟨config, -, rfl⟩ := List.mem_map.mp mem
    exact Session.steady_new config rfl

/-- A request to one of the sessions leaves all of them steady. -/
theorem Steady.handle (steady : w.Steady) (index : Nat) (request : Request) :
    (w.handle (Memory.surface supply) index request).2.Steady := by
  cases found : w.sessions[index]? with
  | none =>
    rw [handle_of_none _ found]
    exact steady
  | some s =>
    obtain ⟨steady', grows⟩ :=
      (steady.sessions s (List.mem_of_getElem? found)).handle supply request
    rw [handle_eq _ found]
    refine ⟨grows.pending, fun s' mem => ?_⟩
    rcases List.mem_or_eq_of_mem_set mem with mem | rfl
    · exact (steady.sessions s' mem).grows grows
    · exact steady'

/-- Requests to some of the sessions leave all of them steady. -/
theorem Steady.handleAll (steady : w.Steady) (requests : List (Nat × Request)) :
    (w.handleAll (Memory.surface supply) requests).2.Steady := by
  induction requests generalizing w with
  | nil => exact steady
  | cons r requests ih => exact ih (steady.handle supply r.1 r.2)

/-- **Only what cannot be resolved waits.** Sessions share a memory surface, and are asked for
anything in any order. Then the surface has nothing pending and holds whatever a name means in one
of them. An arrow waits in a session only if one of its references means nothing there, and none
waits behind a last snapshot. The next snapshot draws those of the arrows that waited, and of its
own, whose references all mean something behind it, bound to what they mean. -/
theorem pending_unresolvable (configs : List Config) (requests : List (Nat × Request)) :
    let S := Memory.surface supply
    let w := ((start configs {}).handleAll S requests).2
    w.board.pending = [] ∧
    ∀ (index : Nat) (s : Session), w.sessions[index]? = some s →
      (∀ r id, s.ids.resolve? r = some id → w.board.contains id = true) ∧
      (∀ spec ∈ s.pending, ∃ r ∈ spec.refs, s.ids.resolve? r = none) ∧
      (∀ text, lastTo index requests = some (.finish text) → s.pending = []) ∧
      ∀ (finality : Finality) (text : Text),
        let out := s.process S finality text w.board
        let arrows := s.pending ++ Command.arrows (s.fresh text)
        ((arrows.filter out.2.1.ids.binds).map out.2.1.ids.call).Sublist
            (out.1.created.map Created.call) ∧
          out.2.1.pending = out.2.1.ids.waiting finality arrows := by
  intro S w
  have steady : w.Steady := (steady_start configs).handleAll supply requests
  refine ⟨steady.settled, fun index s found => ?_⟩
  have here := steady.sessions s (List.mem_of_getElem? found)
  refine ⟨here.carries.held, fun spec mem => ?_, fun text last => ?_, fun finality text => ?_⟩
  · exact Bindings.binds_eq_false_iff.mp (here.waits spec mem).2
  · exact pending_of_lastTo S last found
  · exact (here.process supply finality text).2.2

/-- A name has its meaning in one session only: that another one has drawn a shape of that name does
not help an arrow that waits. -/
example :
    let arrow := "action:create shape:arrow x:0 y:0 from:1 to:1;".toList
    let circle := "action:create shape:circle x:0 y:0 id:1;".toList
    let w := ((start [{}, {}] {}).handleAll (Memory.surface SurfaceId.mk)
      [(1, .submit arrow), (0, .submit circle)]).2
    w.sessions.map (·.pending.length) = [0, 1] ∧ w.board.committed.length = 1 := by
  decide +kernel

end Shared

end Whiteboard
