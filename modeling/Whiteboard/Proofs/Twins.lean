import Whiteboard.Proofs.Renaming
import Whiteboard.Proofs.Supply

/-!
# Twin runs

Two sessions on two memory surfaces are asked the same. They have read and drawn the same before,
only the ids differ, and perhaps the policy. Then they go on in the same way: what a snapshot brings
depends on the text and on the commands before, and what an arrow is bound to on what its references
mean. A board holds more shapes if it is shared, or if arrows were drawn with dangling ends; but no
name means these, so nothing depends on them.

A renaming is given for all that the runs create. So each lemma tells what two steps come to if the
renaming takes the ids that the first one gave to those that the second one gave.

## Main definitions

* `Policy.AsStrict` — a policy that draws no arrow which another one does not draw
* `Fate.Twins`, `BatchReport.Twins` — the same up to ids and arrows with dangling ends
* `Session.Twins` — two sessions that are the same up to ids and the policy

## Main results

* `Memory.Carries.twins_drawBatch` — a batch is drawn in the same way on both boards
* `BatchReport.exists_perm` — one permutation takes the ids of one run to those of another
* `Session.Twins.handle`, `Session.Twins.handleAll` — twins remain twins
-/

namespace Whiteboard

/-! ### Policies -/

/-- A policy that is as strict as another one, or stricter: it draws no arrow that the other does
not draw. -/
def Policy.AsStrict (policy policy' : Policy) : Prop := policy = .skip ∨ policy' = .unbind

theorem Policy.AsStrict.refl (policy : Policy) : policy.AsStrict policy := by
  cases policy
  · exact .inl rfl
  · exact .inr rfl

/-- Two policies agree, unless a last snapshot has an arrow with a dangling end that only one of
them draws. -/
theorem Endpoint.verdict_eq_or {policy policy' : Policy} (strict : policy.AsStrict policy')
    (finality : Finality) (spec : ShapeSpec) (tail head : Endpoint) :
    verdict policy' finality spec tail head = verdict policy finality spec tail head ∨
      (policy ≠ policy' ∧ finality = .last) ∧ dangling tail head ≠ [] ∧
        verdict policy finality spec tail head = .skip ∧
        verdict policy' finality spec tail head = .draw := by
  unfold verdict
  cases ends : dangling tail head with
  | nil => exact .inl rfl
  | cons d ds =>
    cases finality with
    | more => exact .inl rfl
    | last =>
      cases policy with
      | unbind =>
        obtain rfl : policy' = .unbind := strict.resolve_left (by decide)
        exact .inl rfl
      | skip =>
        cases policy' with
        | skip => exact .inl rfl
        | unbind =>
          -- a head without a place to point at is a matter of neither policy
          by_cases headless : (head.missing?.isSome && spec.endPoint?.isNone) = true
          · exact .inl (if_pos headless)
          · exact .inr ⟨⟨by decide, rfl⟩, List.cons_ne_nil d ds, rfl, if_neg headless⟩

/-! ### Twin fates -/

/-- An end that dangles has the reference that the arrow has there. -/
theorem Bindings.refAt_of_mem_dangling {ids : Bindings} {spec : ShapeSpec} {d : Dangling}
    (h : d ∈ ids.dangling spec) : spec.refAt d.arrowEnd = some d.ref := by
  have missing : ∀ {ref : Option ShapeRef} {r : ShapeRef},
      (ids.endpoint ref).missing? = some r → ref = some r := by
    intro ref r missing
    cases ref with
    | none => cases missing
    | some r' => cases found : ids.resolve? r' <;> simp_all [endpoint, Endpoint.missing?]
  rcases List.mem_append.mp h with h | h
  · obtain ⟨r, absent, rfl⟩ := Option.map_eq_some_iff.mp (Option.mem_toList.mp h)
    exact missing absent
  · obtain ⟨r, absent, rfl⟩ := Option.map_eq_some_iff.mp (Option.mem_toList.mp h)
    exact missing absent

/-- The call for an arrow some ends of which dangle. -/
structure ShapeCall.IsBare (call : ShapeCall) (dangling : List Dangling) : Prop where
  arrow : call.spec.isArrow = true
  dangles : dangling ≠ []
  refers : ∀ d ∈ dangling, call.spec.refAt d.arrowEnd = some d.ref

/-- What became of one specification in two runs: the same up to ids; or, where `bare` allows it,
an arrow with dangling ends was dropped in the first run and drawn in the second. -/
inductive Fate.Twins (f : Renaming) (bare : Prop) : Fate → Fate → Prop
  | same {fate fate' : Fate} (h : fate' = fate.rename f) : Twins f bare fate fate'
  | bare {call : ShapeCall} {dangling : List Dangling} {id : SurfaceId} (h : bare)
      (isBare : call.IsBare dangling) :
      Twins f bare (.skipped call.spec dangling) (.drawn call dangling (.created id))

namespace Fates

variable {f : Renaming} {bare : Prop} {fates fates' : Fates}

/-- The same arrows wait. -/
theorem deferred_of_twins (twins : List.Forall₂ (Fate.Twins f bare) fates fates') :
    fates'.deferred = fates.deferred := by
  induction twins with
  | nil => rfl
  | cons first _ ih =>
    rw [deferred_cons, deferred_cons, ih]
    cases first with
    | same h => rw [h, Fate.deferred?_rename]
    | bare h isBare => rfl

/-- Under one policy only the ids differ. -/
theorem eq_map_rename_of_twins (twins : List.Forall₂ (Fate.Twins f bare) fates fates')
    (h : ¬bare) : fates' = fates.map (Fate.rename f) := by
  induction twins with
  | nil => rfl
  | cons first _ ih =>
    rw [List.map_cons, ← ih]
    cases first with
    | same same => rw [same]
    | bare bared isBare => exact absurd bared h

end Fates

/-! ### Twin drawings -/

namespace Memory

variable {supply supply' : Nat → SurfaceId} {board board' : Memory} {ids : Bindings} {f : Renaming}

/-- Shapes are created and named in the same way. -/
theorem twins_drawShapes (settled : board.pending = []) (settled' : board'.pending = [])
    (shapes : List ShapeSpec) :
    let drawn := (surface supply).drawShapes shapes ids board
    let drawn' := (surface supply').drawShapes shapes (ids.rename f) board'
    f.Takes (Fates.idPairs drawn.1 drawn'.1) →
      drawn'.1 = drawn.1.map (Fate.rename f) ∧ drawn'.2.1 = drawn.2.1.rename f := by
  induction shapes generalizing board board' ids with
  | nil => exact fun _ => ⟨rfl, rfl⟩
  | cons spec shapes ih =>
    simp only [Surface.drawShapes_cons, draw_of_settled _ settled, draw_of_settled _ settled',
      Fates.idPairs_cons, Renaming.takes_append]
    rintro ⟨first, rest⟩
    have taken : f (supply board.size) = supply' board'.size := first (_, _) List.mem_cons_self
    have named := Bindings.bindAnswer_rename f ids spec (.created (supply board.size))
    rw [Answer.rename, taken] at named
    rw [named] at rest ⊢
    obtain ⟨fates, known⟩ := ih rfl rfl rest
    refine ⟨?_, known⟩
    rw [fates, List.map_cons, Fate.rename, Answer.rename, taken]
    rfl

variable {policy policy' : Policy} {finality : Finality}

/-- An arrow is drawn in the same way, or is dropped by the stricter policy. -/
theorem Carries.twins_drawArrow (carries : board.Carries ids)
    (carries' : board'.Carries (ids.rename f)) (strict : policy.AsStrict policy')
    {spec : ShapeSpec} (arrow : spec.isArrow = true) :
    let drawn := (surface supply).drawArrow policy finality ids spec board
    let drawn' := (surface supply').drawArrow policy' finality (ids.rename f) spec board'
    f.Takes (drawn.1.idPair? drawn'.1).toList →
      drawn.1.Twins f (policy ≠ policy' ∧ finality = .last) drawn'.1 := by
  intro drawn drawn' takes
  have fate : drawn.1 = _ := (carries.drawArrow supply policy finality spec).2
  have fate' : drawn'.1 = _ := (carries'.drawArrow supply' policy' finality spec).2
  rw [Bindings.verdict_rename, Bindings.call_rename, Bindings.dangling_rename] at fate'
  rw [fate, fate'] at takes ⊢
  -- both policies decide alike, or the first skips an arrow that the second draws bare
  rcases Endpoint.verdict_eq_or strict finality spec (ids.endpoint spec.source)
      (ids.endpoint spec.target) with same | ⟨bare, dangles, skip, draw⟩
  · have verdict : ids.verdict policy' finality spec = ids.verdict policy finality spec := same
    rw [verdict] at takes ⊢
    apply Fate.Twins.same
    cases found : ids.verdict policy finality spec with
    | draw =>
      rw [found] at takes
      have taken : f (supply board.size) = supply' board'.size := takes (_, _) List.mem_cons_self
      rw [Fate.rename, Answer.rename, taken]
    | skip => rfl
    | defer => rfl
  · have skipped : ids.verdict policy finality spec = .skip := skip
    have drawn : ids.verdict policy' finality spec = .draw := draw
    rw [skipped, drawn]
    have isBare : ((ids.call spec).rename f).IsBare (ids.dangling spec) :=
      ⟨arrow, dangles, fun d => Bindings.refAt_of_mem_dangling⟩
    exact .bare bare isBare

/-- Arrows are drawn in the same way, or are dropped by the stricter policy. -/
theorem Carries.twins_drawArrows (carries : board.Carries ids)
    (carries' : board'.Carries (ids.rename f)) (strict : policy.AsStrict policy')
    {arrows : List ShapeSpec} (h : ∀ spec ∈ arrows, spec.isArrow = true) :
    let drawn := (surface supply).drawArrows policy finality ids arrows board
    let drawn' := (surface supply').drawArrows policy' finality (ids.rename f) arrows board'
    f.Takes (Fates.idPairs drawn.1 drawn'.1) →
      List.Forall₂ (Fate.Twins f (policy ≠ policy' ∧ finality = .last)) drawn.1 drawn'.1 := by
  induction arrows generalizing board board' with
  | nil => exact fun _ => .nil
  | cons spec arrows ih =>
    simp only [Surface.drawArrows, Fates.idPairs_cons, Renaming.takes_append]
    rintro ⟨first, rest⟩
    obtain ⟨grows, -⟩ := carries.drawArrow supply policy finality spec
    obtain ⟨grows', -⟩ := carries'.drawArrow supply' policy' finality spec
    obtain ⟨arrow, later⟩ := List.forall_mem_cons.mp h
    exact .cons (carries.twins_drawArrow carries' strict arrow first)
      (ih (carries.grows grows) (carries'.grows grows') later rest)

/-- A batch is drawn in the same way, but for arrows that are dropped by the stricter policy. -/
theorem Carries.twins_drawBatch (carries : board.Carries ids)
    (carries' : board'.Carries (ids.rename f)) (strict : policy.AsStrict policy')
    {batch : Batch} (sorted : batch.IsSorted) :
    let drawn := (surface supply).drawBatch policy finality batch ids board
    let drawn' := (surface supply').drawBatch policy' finality batch (ids.rename f) board'
    f.Takes (Fates.idPairs drawn.1 drawn'.1) →
      List.Forall₂ (Fate.Twins f (policy ≠ policy' ∧ finality = .last)) drawn.1 drawn'.1 ∧
        drawn'.2.1 = drawn.2.1.rename f := by
  have places : ((surface supply).drawShapes batch.shapes ids board).1.length =
      ((surface supply').drawShapes batch.shapes (ids.rename f) board').1.length := by
    rw [← List.length_map Fate.spec, ← List.length_map Fate.spec, Surface.map_spec_drawShapes,
      Surface.map_spec_drawShapes]
  simp only [Surface.drawBatch_eq, Fates.idPairs_append _ _ places, Renaming.takes_append]
  rintro ⟨shapes, arrows⟩
  obtain ⟨same, known⟩ := twins_drawShapes carries.pending carries'.pending batch.shapes shapes
  obtain ⟨-, named, -⟩ := carries.drawShapes supply batch.shapes
  obtain ⟨-, named', -⟩ := carries'.drawShapes supply' batch.shapes
  rw [known] at named' arrows ⊢
  refine ⟨List.rel_append ?_ (named.twins_drawArrows named' strict sorted.arrows arrows), rfl⟩
  rw [same, List.forall₂_map_right_iff]
  exact List.forall₂_same.mpr fun fate _ => .same rfl

end Memory

/-! ### Twin reports -/

/-- Two lists whose members agree place by place, in what is asked of each, agree as a whole. -/
theorem map_eq_map_of_forall₂ {α β γ : Type} {g : α → γ} {g' : β → γ} {as : List α} {bs : List β}
    (h : List.Forall₂ (fun a b => g' b = g a) as bs) : bs.map g' = as.map g := by
  induction h with
  | nil => rfl
  | cons first _ ih => rw [List.map_cons, List.map_cons, first, ih]

namespace BatchReport

variable {f : Renaming} {report report' : BatchReport}

/-- What two runs tell about one snapshot: the same, but for twin fates. -/
structure Twins (f : Renaming) (bare : Prop) (report report' : BatchReport) : Prop where
  batch : report'.batch = report.batch
  newCommands : report'.newCommands = report.newCommands
  problems : report'.problems = report.problems
  rejections : report'.rejections = report.rejections
  fates : List.Forall₂ (Fate.Twins f bare) report.fates report'.fates

theorem Twins.imp {bare bare' : Prop} (h : bare → bare') (twins : report.Twins f bare report') :
    report.Twins f bare' report' where
  batch := twins.batch
  newCommands := twins.newCommands
  problems := twins.problems
  rejections := twins.rejections
  fates := by
    refine twins.fates.imp fun fate fate' first => ?_
    cases first with
    | same same => exact .same same
    | bare bared isBare => exact .bare (h bared) isBare

/-- Under one policy only the ids differ. -/
theorem Twins.eq_rename {bare : Prop} (twins : report.Twins f bare report') (h : ¬bare) :
    report' = report.rename f := by
  have fates := Fates.eq_map_rename_of_twins twins.fates h
  have ⟨batch, newCommands, problems, rejections, _⟩ := twins
  rw [rename, ← batch, ← newCommands, ← problems, ← rejections, ← fates]

variable {reports reports' more more' : List BatchReport}

theorem idPairs_singleton (report report' : BatchReport) :
    idPairs [report] [report'] = Fates.idPairs report.fates report'.fates := by
  simp [idPairs]

theorem idPairs_append (h : reports.length = reports'.length) :
    idPairs (reports ++ more) (reports' ++ more') =
      idPairs reports reports' ++ idPairs more more' := by
  rw [idPairs, List.zip_append h, List.flatMap_append]
  rfl

/-- Of longer runs there are more pairs. -/
theorem idPairs_subset (h : reports <+: more) (h' : reports' <+: more') :
    idPairs reports reports' ⊆ idPairs more more' := by
  -- what stands at a place of a list stands there in every list that goes on from it
  have stays : ∀ {a b : List BatchReport} {n : Nat} {r : BatchReport}, a <+: b →
      a[n]? = some r → b[n]? = some r := by
    intro a b n r goesOn found
    obtain ⟨there, rfl⟩ := List.getElem?_eq_some_iff.mp found
    exact List.prefix_iff_getElem?.mp goesOn n there
  intro p mem
  obtain ⟨r, there, given⟩ := List.mem_flatMap.mp mem
  obtain ⟨n, found⟩ := List.mem_iff_getElem?.mp there
  obtain ⟨left, right⟩ := List.getElem?_zip_eq_some.mp found
  have there' := List.getElem?_zip_eq_some.mpr ⟨stays h left, stays h' right⟩
  exact List.mem_flatMap.mpr ⟨r, List.mem_of_getElem? there', given⟩

/-- The first ids of the pairs were given in the first run, in this order. -/
theorem map_fst_idPairs_sublist (reports reports' : List BatchReport) :
    ((idPairs reports reports').map Prod.fst).Sublist
      ((Session.created reports).map Created.id) := by
  induction reports generalizing reports' with
  | nil => exact .slnil
  | cons report reports ih =>
    cases reports' with
    | nil => exact List.nil_sublist _
    | cons report' reports' =>
      have first := Fates.map_fst_idPairs_sublist report.fates report'.fates
      simpa [idPairs, Session.created, created] using first.append (ih reports')

/-- The pairs are the same seen from the other run. -/
theorem map_swap_idPairs (reports reports' : List BatchReport) :
    (idPairs reports reports').map Prod.swap = idPairs reports' reports := by
  rw [idPairs, idPairs, ← List.zip_swap, List.flatMap_map, List.map_flatMap]
  exact List.flatMap_congr fun r _ => Fates.map_swap_idPairs r.2.fates r.1.fates

/-- The second ids of the pairs were given in the second run, in this order. -/
theorem map_snd_idPairs_sublist (reports reports' : List BatchReport) :
    ((idPairs reports reports').map Prod.snd).Sublist
      ((Session.created reports').map Created.id) := by
  have swapped := map_fst_idPairs_sublist reports' reports
  rw [← map_swap_idPairs, List.map_map] at swapped
  exact swapped

/-- If neither run gives an id twice, one permutation of all ids takes those of the first run to
those of the second, and so it does for shorter runs. -/
theorem exists_perm (left : ((Session.created reports).map Created.id).Nodup)
    (right : ((Session.created reports').map Created.id).Nodup) :
    ∃ σ : Equiv.Perm SurfaceId, ∀ {a b : List BatchReport}, a <+: reports → b <+: reports' →
      Renaming.Takes σ (idPairs a b) := by
  obtain ⟨σ, takes⟩ := Renaming.exists_perm
    (left.sublist (map_fst_idPairs_sublist reports reports'))
    (right.sublist (map_snd_idPairs_sublist reports reports'))
  exact ⟨σ, fun h h' => takes.subset (idPairs_subset h h')⟩

end BatchReport

/-! ### Twin sessions -/

namespace Session

variable {supply supply' : Nat → SurfaceId} {board board' : Memory} {s s' : Session} {f : Renaming}

/-- Two sessions that are the same up to ids, the second one perhaps less strict. -/
structure Twins (f : Renaming) (s s' : Session) : Prop where
  markers : s'.config.markers = s.config.markers
  strict : s.config.policy.AsStrict s'.config.policy
  commands : s'.commands = s.commands
  arrows : s'.arrows = s.arrows
  stream : s'.stream = s.stream
  pending : s'.pending = s.pending
  ids : s'.ids = s.ids.rename f
  batches : s'.batches = s.batches

namespace Twins

theorem fresh (twins : s.Twins f s') (text : Text) : s'.fresh text = s.fresh text := by
  rw [Session.fresh, Session.fresh, twins.stream, twins.markers]

theorem batch (twins : s.Twins f s') (text : Text) : s'.batch text = s.batch text := by
  rw [Session.batch, Session.batch, twins.fresh, twins.pending]

/-- Twins take a snapshot in the same way. -/
theorem process (twins : s.Twins f s') (steady : s.Steady board) (steady' : s'.Steady board')
    (finality : Finality) (text : Text) :
    let out := s.process (Memory.surface supply) finality text board
    let out' := s'.process (Memory.surface supply') finality text board'
    f.Takes (Fates.idPairs out.1.fates out'.1.fates) →
      out.1.Twins f (s.config.policy ≠ s'.config.policy ∧ finality = .last) out'.1 ∧
        out.2.1.Twins f out'.2.1 := by
  rw [process_eq, process_eq, twins.fresh, twins.batch, twins.ids, twins.stream, twins.markers]
  intro out out' takes
  have carries' := steady'.carries
  rw [twins.ids] at carries'
  have sorted := isSorted_batch (fun spec mem => (steady.waits spec mem).1) text
  obtain ⟨fates, known⟩ := steady.carries.twins_drawBatch carries' twins.strict sorted takes
  refine ⟨⟨?_, rfl, rfl, rfl, fates⟩, twins.markers, twins.strict, ?_, ?_, rfl, ?_, known, ?_⟩
  · exact congrArg (· + 1) twins.batches
  · exact congrArg (· ++ _) twins.commands
  · exact congrArg (· ++ _) twins.arrows
  · exact Fates.deferred_of_twins fates
  · exact congrArg (· + 1) twins.batches

/-- Twins are equal when they begin anew. -/
theorem reset (twins : s.Twins f s') : s.reset.Twins f s'.reset :=
  ⟨twins.markers, twins.strict, rfl, rfl, rfl, rfl, rfl, rfl⟩

/-- Twins take a request in the same way; only in a last snapshot two policies may differ. -/
theorem handle (twins : s.Twins f s') (steady : s.Steady board) (steady' : s'.Steady board')
    (request : Request) :
    let out := s.handle (Memory.surface supply) request board
    let out' := s'.handle (Memory.surface supply') request board'
    f.Takes (BatchReport.idPairs out.1.toList out'.1.toList) →
      List.Forall₂ (BatchReport.Twins f
          (s.config.policy ≠ s'.config.policy ∧ ∃ text, request = .finish text))
        out.1.toList out'.1.toList ∧ out.2.1.Twins f out'.2.1 := by
  cases request with
  | submit text =>
    intro out out' takes
    obtain ⟨told, twins'⟩ := twins.process steady steady' .more text
      (BatchReport.idPairs_singleton _ _ ▸ takes)
    exact ⟨.cons (told.imp fun h => by cases h.2) .nil, twins'⟩
  | finish text =>
    intro out out' takes
    obtain ⟨told, twins'⟩ := twins.process steady steady' .last text
      (BatchReport.idPairs_singleton _ _ ▸ takes)
    exact ⟨.cons (told.imp fun h => ⟨h.1, text, rfl⟩) .nil, twins'⟩
  | reset => exact fun _ => ⟨.nil, twins.reset⟩

end Twins

section Reports

variable {Board Board' : Type} (S : Surface Board) (S' : Surface Board') (s s' : Session)

/-- Every session answers a request with as many reports. -/
theorem length_toList_handle (request : Request) (board : Board) (board' : Board') :
    (s.handle S request board).1.toList.length = (s'.handle S' request board').1.toList.length := by
  cases request <;> rfl

/-- More requests only add reports. -/
theorem reports_isPrefix {requests more : List Request} (h : requests <+: more) (board : Board) :
    (s.handleAll S requests board).1 <+: (s.handleAll S more board).1 := by
  obtain ⟨later, rfl⟩ := h
  rw [handleAll_append]
  exact List.prefix_append _ _

end Reports

/-- Twins take a list of requests in the same way. -/
theorem Twins.handleAll (twins : s.Twins f s') (steady : s.Steady board)
    (steady' : s'.Steady board') (requests : List Request) :
    let run := s.handleAll (Memory.surface supply) requests board
    let run' := s'.handleAll (Memory.surface supply') requests board'
    f.Takes (BatchReport.idPairs run.1 run'.1) →
      List.Forall₂ (BatchReport.Twins f (s.config.policy ≠ s'.config.policy)) run.1 run'.1 ∧
        run.2.1.Twins f run'.2.1 := by
  induction requests generalizing s s' board board' with
  | nil => exact fun _ => ⟨.nil, twins⟩
  | cons request requests ih =>
    have places := length_toList_handle (Memory.surface supply) (Memory.surface supply') s s'
      request board board'
    simp only [handleAll_cons, BatchReport.idPairs_append places, Renaming.takes_append]
    rintro ⟨first, rest⟩
    obtain ⟨told, twins'⟩ := twins.handle steady steady' request first
    obtain ⟨told', twins''⟩ := ih twins' (steady.handle supply request).1
      (steady'.handle supply' request).1 rest
    rw [config_handle, config_handle] at told'
    exact ⟨List.rel_append (told.imp fun _ _ told => told.imp And.left) told', twins''⟩

end Session

end Whiteboard
