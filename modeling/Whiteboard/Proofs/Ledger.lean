import Mathlib.Data.List.DropRight
import Whiteboard.Proofs.Run

/-!
# The ledger of a session

Since a session began anew, whatever the surface answered, its books agree. The shapes that were
asked for are those of the log of commands, once each and in its order. Every arrow of the log was
asked for once, or was dropped by a last snapshot that told so, or still waits; and only one of
these.
-/

namespace Whiteboard

/-! ### Arrows that were dropped -/

/-- Whether a diagnostic tells that an arrow was dropped. -/
def Diagnostic.isSkip : Diagnostic → Bool
  | .unresolved _ _ .skipped => true
  | _ => false

theorem Fate.filter_isSkip_tell_unbound (dangling : List Dangling) :
    (tell .unbound dangling).filter Diagnostic.isSkip = [] := by
  simp [tell, Diagnostic.isSkip]

theorem Fate.filter_isSkip_tell_skipped (dangling : List Dangling) :
    (tell .skipped dangling).filter Diagnostic.isSkip = tell .skipped dangling := by
  simp [tell, Diagnostic.isSkip]

/-- What is told about dropped arrows: each of their dangling ends. -/
theorem Fates.filter_isSkip_diagnostics (fates : Fates) :
    fates.diagnostics.filter Diagnostic.isSkip =
      fates.skipped.flatMap fun drop => Fate.tell .skipped drop.2 := by
  induction fates with
  | nil => rfl
  | cons fate fates ih =>
    have both : diagnostics (fate :: fates) = fate.diagnostics ++ diagnostics fates := rfl
    rw [both, List.filter_append, ih]
    cases fate with
    | drawn call dangling answer =>
      cases answer <;>
        simp [Fate.diagnostics, Fate.filter_isSkip_tell_unbound, Diagnostic.isSkip, skipped,
          List.filterMap_cons, Fate.skipped?]
    | skipped spec dangling =>
      simp [Fate.diagnostics, Fate.filter_isSkip_tell_skipped, skipped, Fate.skipped?]
    | deferred spec => simp [Fate.diagnostics, skipped, List.filterMap_cons, Fate.skipped?]

/-- A report tells which arrows were dropped, and why. -/
structure BatchReport.ExplainsDrops (report : BatchReport) : Prop where
  /-- The diagnostics about dropped arrows are those of their dangling ends. -/
  told : report.diagnostics.filter Diagnostic.isSkip =
    report.fates.skipped.flatMap fun drop => Fate.tell .skipped drop.2
  /-- Each of the arrows has a dangling end, and the reference there is its own. -/
  dangling : ∀ drop ∈ report.fates.skipped,
    drop.2 ≠ [] ∧ ∀ d ∈ drop.2, drop.1.refAt d.arrowEnd = some d.ref

namespace Session

variable {Board : Type} (S : Surface Board)

theorem explainsDrops_process (s : Session) (finality : Finality) (text : Text) (board : Board) :
    (s.process S finality text board).1.ExplainsDrops where
  told := by
    rw [BatchReport.filter_diagnostics _ (fun _ => rfl) (fun _ => rfl),
      Fates.filter_isSkip_diagnostics]
  dangling drop h :=
    S.dangling_of_mem_skipped s.config.policy finality (s.batch text) s.ids board h

/-- Every report of a run tells which arrows were dropped. -/
theorem explainsDrops_handleAll (requests : List Request) (s : Session) (board : Board) :
    ∀ report ∈ (s.handleAll S requests board).1, report.ExplainsDrops := by
  induction requests generalizing s board with
  | nil => simp [handleAll]
  | cons request requests ih =>
    intro report h
    rw [handleAll_cons] at h
    rcases List.mem_append.mp h with h | h
    · cases request with
      | submit text =>
        obtain rfl : report = _ := by simpa using h
        exact explainsDrops_process S s .more text board
      | finish text =>
        obtain rfl : report = _ := by simpa using h
        exact explainsDrops_process S s .last text board
      | reset => simp at h
    · exact ih _ _ report h

end Session

/-! ### Requests since the last reset -/

namespace Request

/-- The requests behind the last reset. -/
def sinceReset (requests : List Request) : List Request :=
  requests.rtakeWhile fun request => request ≠ .reset

/-- The requests up to the last reset, and with it. -/
def untilReset (requests : List Request) : List Request :=
  requests.rdropWhile fun request => request ≠ .reset

/-- The arrows that a request dropped, with its report: only a last snapshot drops any. -/
def dropped : Request → BatchReport → List ShapeSpec
  | .finish _, report => report.fates.skipped.map Prod.fst
  | .submit _, _ | .reset, _ => []

/-- The arrows that snapshots dropped, with their reports. -/
def allDropped (requests : List Request) (reports : List BatchReport) : List ShapeSpec :=
  (List.zipWith dropped requests reports).flatten

theorem untilReset_append_sinceReset (requests : List Request) :
    untilReset requests ++ sinceReset requests = requests :=
  List.rdropWhile_append_rtakeWhile

theorem ne_reset_of_mem_sinceReset (requests : List Request) :
    ∀ request ∈ sinceReset requests, request ≠ .reset := by
  intro request h
  simpa using List.mem_rtakeWhile_imp h

end Request

/-! ### The books -/

/-- The books of a session agree with the calls that were made and the arrows that were dropped. -/
structure Session.Ledger (s : Session) (calls : List ShapeCall) (dropped : List ShapeSpec) :
    Prop where
  /-- The shapes of the log of commands were asked for, once each and in its order. -/
  shapes : (ShapeCall.ofShapes calls).map ShapeCall.spec = Command.shapes s.commands
  /-- The log of arrows holds the arrows of the log of commands, in its order. -/
  arrows : s.arrows = Command.arrows s.commands
  /-- Each arrow of the log was asked for, was dropped or waits, and only one of these. -/
  fates : s.arrows.Perm
    ((ShapeCall.ofArrows calls).map ShapeCall.spec ++ dropped ++ s.pending)
  /-- The arrows that wait stand in the order of the log. -/
  pending : s.pending.Sublist s.arrows

namespace Session

variable {Board : Type} (S : Surface Board) {s : Session} {made : List ShapeCall}
  {dropped : List ShapeSpec}

theorem ledger_new (config : Config) : Ledger { config } [] [] := ⟨rfl, rfl, .nil, .slnil⟩

/-- The arrows that wait are arrows. -/
theorem Ledger.isArrow_pending (ledger : s.Ledger made dropped) :
    ∀ spec ∈ s.pending, spec.isArrow = true := by
  intro spec h
  have logged := ledger.pending.subset h
  rw [ledger.arrows] at logged
  exact Command.isArrow_of_mem_arrows logged

/-- A snapshot keeps the books. -/
theorem Ledger.process (ledger : s.Ledger made dropped) (finality : Finality) (text : Text)
    (board : Board) :
    let report := (s.process S finality text board).1
    (s.process S finality text board).2.1.Ledger (made ++ report.fates.calls)
      (dropped ++ report.fates.skipped.map Prod.fst) where
  shapes := by
    rw [ShapeCall.ofShapes_append, List.map_append, ledger.shapes,
      ofShapes_calls_process S finality text board ledger.isArrow_pending, process_eq]
    simp [Function.comp_def]
  arrows := by
    rw [process_eq, Command.arrows_append, ← ledger.arrows]
  fates := by
    -- the batch takes what waited and what is new, and gives back what was drawn, dropped or waits
    have batch := S.perm_drawBatch_arrows s.config.policy finality
      (isSorted_batch ledger.isArrow_pending text) s.ids board
    have before := ledger.fates
    rw [List.perm_iff_count] at batch before ⊢
    intro spec
    have batch := batch spec
    have before := before spec
    rw [process_eq]
    simp only [Session.batch, List.count_append, ShapeCall.ofArrows_append, List.map_append]
      at batch before ⊢
    omega
  pending := by
    have waiting := S.deferred_drawBatch_sublist s.config.policy finality (s.batch text) s.ids board
    rw [process_eq]
    exact waiting.trans (ledger.pending.append (.refl _))

/-- A list of requests in which nothing is reset keeps the books. -/
theorem Ledger.handleAll (ledger : s.Ledger made dropped) {requests : List Request}
    (h : ∀ request ∈ requests, request ≠ .reset) (board : Board) :
    (s.handleAll S requests board).2.1.Ledger
      (made ++ calls (s.handleAll S requests board).1)
      (dropped ++ Request.allDropped requests (s.handleAll S requests board).1) := by
  induction requests generalizing s made dropped board with
  | nil => simpa [Session.handleAll, calls, Request.allDropped] using ledger
  | cons request requests ih =>
    have later : ∀ request ∈ requests, request ≠ .reset := fun r mem =>
      h r (List.mem_cons_of_mem _ mem)
    rw [handleAll_cons]
    cases request with
    | submit text =>
      -- while more text may come nothing is dropped
      have none : (s.process S .more text board).1.fates.skipped = [] :=
        S.skipped_drawBatch_more s.config.policy (s.batch text) s.ids board
      have step := ih (ledger.process S .more text board) later
        (s.process S .more text board).2.2
      simpa [none, calls, Request.allDropped, Request.dropped] using step
    | finish text =>
      have step := ih (ledger.process S .last text board) later
        (s.process S .last text board).2.2
      simpa [calls, Request.allDropped, Request.dropped] using step
    | reset => exact absurd rfl (h .reset List.mem_cons_self)

/-- Up to the last reset, a new session has become a new session. -/
theorem handleAll_untilReset (config : Config) (requests : List Request) (board : Board) :
    (handleAll S { config } (Request.untilReset requests) board).2.1 = { config } := by
  induction requests using List.reverseRecOn with
  | nil => rfl
  | append_singleton requests last ih =>
    -- the list ends at its last request if that is a reset, and else where it ended before
    by_cases reset : last = .reset
    · have whole : Request.untilReset (requests ++ [last]) = requests ++ [last] :=
        List.rdropWhile_concat_neg _ _ _ (by simp [reset])
      rw [whole, handleAll_concat, reset]
      simp [Session.reset, config_handleAll]
    · have shorter : Request.untilReset (requests ++ [last]) = Request.untilReset requests :=
        List.rdropWhile_concat_pos _ _ _ (by simp [reset])
      rw [shorter]
      exact ih

/-- What a list of requests does to a new session is done, behind the last reset, to a new session. -/
theorem handleAll_sinceReset (config : Config) (requests : List Request) (board : Board) :
    handleAll S { config } requests board =
      let start := handleAll S { config } (Request.untilReset requests) board
      let rest := handleAll S { config } (Request.sinceReset requests) start.2.2
      (start.1 ++ rest.1, rest.2) := by
  have split := handleAll_append S { config } (Request.untilReset requests)
    (Request.sinceReset requests) board
  rw [Request.untilReset_append_sinceReset] at split
  simp only [split, handleAll_untilReset]

/-- **The ledger.** A session is asked for anything, in any order, and the surface answers whatever
it likes. Counted from the last reset, the books agree with the calls that the surface got and with
the arrows that last snapshots dropped, and every report told which arrows these were. -/
theorem ledger_since_reset (config : Config) (requests : List Request) (board : Board) :
    let start := handleAll S.recorded { config } (Request.untilReset requests) ⟨board, []⟩
    let run := handleAll S.recorded { config } requests ⟨board, []⟩
    let reports := run.1.drop start.1.length
    let events := run.2.2.events.drop start.2.2.events.length
    run.2.1.Ledger (events.filterMap Event.call?)
        (Request.allDropped (Request.sinceReset requests) reports) ∧
      ∀ report ∈ reports, report.ExplainsDrops := by
  dsimp only
  rw [handleAll_sinceReset]
  generalize handleAll S.recorded { config } (Request.untilReset requests) ⟨board, []⟩ = start
  dsimp only
  have recorded := adds_handleAll S (Request.sinceReset requests) start.2.2 (s := { config })
  have books := (ledger_new config).handleAll S.recorded
    (Request.ne_reset_of_mem_sinceReset requests) start.2.2
  rw [List.drop_left, recorded.calls_eq]
  exact ⟨by simpa using books, explainsDrops_handleAll S.recorded _ _ _⟩

end Session

end Whiteboard
