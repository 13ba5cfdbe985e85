import Whiteboard.Proofs.Twins

/-!
# What a policy decides

Two sessions are asked the same, each on a memory surface of its own; the one skips arrows with
dangling ends, the other leaves such ends unbound. An arrow that is drawn with a dangling end gives
no name, so the two runs differ in nothing else, up to a renaming of ids.
-/

namespace Whiteboard

/-- Which reference dangles at which end, if that is told. -/
def Diagnostic.danglingEnd? : Diagnostic → Option (ShapeRef × ArrowEnd)
  | .unresolved ref arrowEnd _ => some (ref, arrowEnd)
  | .script _ | .rejected _ | .surface _ => none

/-- The dangling ends that a report tells, in order. -/
def BatchReport.danglingEnds (report : BatchReport) : List (ShapeRef × ArrowEnd) :=
  report.diagnostics.filterMap Diagnostic.danglingEnd?

/-- An arrow that was drawn though a reference of it means no shape, which is told. -/
structure Created.IsExtra (c : Created) (told : List Diagnostic) : Prop where
  arrow : c.call.spec.isArrow = true
  dangles : ∃ ref arrowEnd,
    c.call.spec.refAt arrowEnd = some ref ∧ .unresolved ref arrowEnd .unbound ∈ told

theorem Created.IsExtra.mono {c : Created} {told told' : List Diagnostic} (extra : c.IsExtra told)
    (h : told ⊆ told') : c.IsExtra told' := by
  obtain ⟨ref, arrowEnd, refers, mem⟩ := extra.dangles
  exact ⟨extra.arrow, ref, arrowEnd, refers, h mem⟩

/-! ### Twin fates -/

namespace Fates

variable {f : Renaming} {bare : Prop} {fates fates' : Fates}

/-- The same ends are told to dangle, whatever became of the arrows. -/
theorem danglingEnds_of_twins (twins : List.Forall₂ (Fate.Twins f bare) fates fates') :
    fates'.diagnostics.filterMap Diagnostic.danglingEnd? =
      fates.diagnostics.filterMap Diagnostic.danglingEnd? := by
  induction twins with
  | nil => rfl
  | cons first _ ih =>
    rw [diagnostics_cons, diagnostics_cons, List.filterMap_append, List.filterMap_append, ih]
    cases first with
    | same h => rw [h, Fate.diagnostics_rename]
    | bare h isBare =>
      simp [Fate.diagnostics, Fate.tell, List.filterMap_map, Function.comp_def,
        Diagnostic.danglingEnd?]

/-- What the first batch created the second one creates too, in the same order. -/
theorem created_sublist_of_twins (twins : List.Forall₂ (Fate.Twins f bare) fates fates') :
    (fates.created.map (Created.rename f)).Sublist fates'.created := by
  induction twins with
  | nil => exact .slnil
  | cons first _ ih =>
    rw [created_cons, created_cons, List.map_append]
    cases first with
    | same h =>
      rw [h, Fate.created?_rename, Option.toList_map]
      exact .append_left ih _
    | bare h isBare => exact ih.cons _

/-- What the second batch creates beyond the first one are arrows with a dangling end. -/
theorem exists_extra_of_twins (twins : List.Forall₂ (Fate.Twins f bare) fates fates') :
    ∃ extra, fates'.created.Perm (fates.created.map (Created.rename f) ++ extra) ∧
      ∀ c ∈ extra, bare ∧ c.IsExtra fates'.diagnostics := by
  induction twins with
  | nil => exact ⟨[], .nil, List.forall_mem_nil _⟩
  | @cons fate fate' fates fates' first _ ih =>
    obtain ⟨extra, perm, isExtra⟩ := ih
    have still : ∀ c ∈ extra, bare ∧ c.IsExtra (diagnostics (fate' :: fates')) := fun c mem =>
      ⟨(isExtra c mem).1, (isExtra c mem).2.mono (List.subset_append_right _ _)⟩
    rw [created_cons, created_cons]
    cases first with
    | same h =>
      refine ⟨extra, ?_, still⟩
      rw [h, Fate.created?_rename, Option.toList_map, List.map_append, List.append_assoc]
      exact perm.append_left _
    | @bare call dangling id h isBare =>
      refine ⟨⟨id, call⟩ :: extra, ?_, List.forall_mem_cons.mpr ⟨⟨h, isBare.arrow, ?_⟩, still⟩⟩
      · exact (perm.cons _).trans List.perm_middle.symm
      · obtain ⟨d, ds, rfl⟩ := List.exists_cons_of_ne_nil isBare.dangles
        exact ⟨d.ref, d.arrowEnd, isBare.refers d List.mem_cons_self, List.mem_cons_self⟩

/-- The shapes that are no arrows are the same. -/
theorem shapes_of_twins (twins : List.Forall₂ (Fate.Twins f bare) fates fates') :
    Created.shapes fates'.created = (Created.shapes fates.created).map (Created.rename f) := by
  induction twins with
  | nil => rfl
  | cons first _ ih =>
    rw [created_cons, created_cons, Created.shapes_append, Created.shapes_append, List.map_append,
      ih]
    cases first with
    | same h =>
      rw [h, Fate.created?_rename, Option.toList_map, Created.shapes, Created.shapes,
        List.filter_map]
      rfl
    | bare h isBare =>
      simp [Fate.created?, Created.shapes, isBare.arrow]

end Fates

/-! ### Twin reports -/

namespace BatchReport

variable {f : Renaming} {bare : Prop} {report report' : BatchReport}
  {reports reports' : List BatchReport}

/-- Only the drawing tells of dangling ends. -/
theorem danglingEnds_eq (report : BatchReport) :
    report.danglingEnds = report.fates.diagnostics.filterMap Diagnostic.danglingEnd? := by
  simp [danglingEnds, diagnostics, List.filterMap_map, Function.comp_def, Diagnostic.danglingEnd?]

theorem Twins.danglingEnds (twins : report.Twins f bare report') :
    report'.danglingEnds = report.danglingEnds := by
  rw [danglingEnds_eq, danglingEnds_eq, Fates.danglingEnds_of_twins twins.fates]

/-- The fates of a whole run. -/
def allFates (reports : List BatchReport) : Fates := reports.flatMap fates

theorem allFates_of_twins (twins : List.Forall₂ (Twins f bare) reports reports') :
    List.Forall₂ (Fate.Twins f bare) (allFates reports) (allFates reports') :=
  List.rel_flatMap twins fun _ _ told => told.fates

theorem created_allFates (reports : List BatchReport) :
    (allFates reports).created = Session.created reports :=
  List.filterMap_flatMap

theorem diagnostics_allFates_subset (reports : List BatchReport) :
    (allFates reports).diagnostics ⊆ reports.flatMap diagnostics := by
  rw [Fates.diagnostics, allFates, List.flatMap_assoc]
  intro told mem
  obtain ⟨report, there, drawn⟩ := List.mem_flatMap.mp mem
  exact List.mem_flatMap.mpr ⟨report, there, List.mem_append_right _ drawn⟩

end BatchReport

/-! ### Twin runs -/

namespace Session

open BatchReport

variable {f : Renaming} {supply supply' : Nat → SurfaceId}

/-- What two runs have in common, up to a renaming of ids: what they read, logged, rejected and
keep, which shapes they created and what names mean, and which ends they told to dangle. Whatever
the first one created, the second one created too, in the same order. -/
structure Agree (f : Renaming) (run run' : List BatchReport × Session × Memory) : Prop where
  commands : run'.2.1.commands = run.2.1.commands
  arrows : run'.2.1.arrows = run.2.1.arrows
  pending : run'.2.1.pending = run.2.1.pending
  names : ∀ r, run'.2.1.ids.resolve? r = (run.2.1.ids.resolve? r).map f
  shapes : Created.shapes (created run'.1) = (Created.shapes (created run.1)).map (Created.rename f)
  newCommands : run'.1.map newCommands = run.1.map newCommands
  problems : run'.1.map problems = run.1.map problems
  rejections : run'.1.map rejections = run.1.map rejections
  danglingEnds : run'.1.map danglingEnds = run.1.map danglingEnds
  created : ((created run.1).map (Created.rename f)).Sublist (created run'.1)

/-- Twin runs agree. -/
theorem agree_of_twins {bare : Prop} {run run' : List BatchReport × Session × Memory}
    (told : List.Forall₂ (BatchReport.Twins f bare) run.1 run'.1)
    (twins : run.2.1.Twins f run'.2.1) : Agree f run run' where
  commands := twins.commands
  arrows := twins.arrows
  pending := twins.pending
  names r := by rw [twins.ids, Bindings.resolve?_rename]
  shapes := by
    rw [← created_allFates, ← created_allFates]
    exact Fates.shapes_of_twins (allFates_of_twins told)
  newCommands := map_eq_map_of_forall₂ (told.imp fun _ _ told => told.newCommands)
  problems := map_eq_map_of_forall₂ (told.imp fun _ _ told => told.problems)
  rejections := map_eq_map_of_forall₂ (told.imp fun _ _ told => told.rejections)
  danglingEnds := map_eq_map_of_forall₂ (told.imp fun _ _ told => told.danglingEnds)
  created := by
    rw [← created_allFates, ← created_allFates]
    exact Fates.created_sublist_of_twins (allFates_of_twins told)

/-- What a request makes the less strict of two twins create besides are arrows with a dangling end,
and only a last snapshot makes it do so. -/
theorem Twins.exists_extra {s s' : Session} {board board' : Memory} (twins : s.Twins f s')
    (steady : s.Steady board) (steady' : s'.Steady board') (request : Request) :
    let step := s.handle (Memory.surface supply) request board
    let step' := s'.handle (Memory.surface supply') request board'
    f.Takes (idPairs step.1.toList step'.1.toList) →
      ∃ extra,
        (created step'.1.toList).Perm
          ((created step.1.toList).map (Created.rename f) ++ extra) ∧
        ∀ c ∈ extra, (∃ text, request = .finish text) ∧
          c.IsExtra (step'.1.toList.flatMap diagnostics) := by
  intro step step' takes
  obtain ⟨told, -⟩ := twins.handle steady steady' request takes
  obtain ⟨extra, perm, isExtra⟩ := Fates.exists_extra_of_twins (allFates_of_twins told)
  rw [created_allFates, created_allFates] at perm
  refine ⟨extra, perm, fun c mem => ?_⟩
  obtain ⟨⟨-, last⟩, isExtra⟩ := isExtra c mem
  exact ⟨last, isExtra.mono (diagnostics_allFates_subset _)⟩

/-- **What a policy decides.** Two sessions with the same markers are asked the same, each on a
memory surface of its own, the first one with the policy to skip and the second one with the policy
to unbind. Then there is one renaming of ids, a permutation, such that behind every request the
sessions agree up to it. What a request makes the second one create besides are arrows, each with a
reference that is told to mean no shape, and only a last snapshot makes it do so. -/
theorem policies_agree (distinct : Function.Injective supply)
    (distinct' : Function.Injective supply') (markers : Markers) (requests : List Request) :
    ∃ σ : Equiv.Perm SurfaceId, ∀ n,
      let skip := handleAll (Memory.surface supply) { config := ⟨markers, .skip⟩ }
        (requests.take n) {}
      let unbind := handleAll (Memory.surface supply') { config := ⟨markers, .unbind⟩ }
        (requests.take n) {}
      Agree σ skip unbind ∧
        ∀ request, requests[n]? = some request →
          let step := skip.2.1.handle (Memory.surface supply) request skip.2.2
          let step' := unbind.2.1.handle (Memory.surface supply') request unbind.2.2
          ∃ extra,
            (created step'.1.toList).Perm
              ((created step.1.toList).map (Created.rename σ) ++ extra) ∧
            ∀ c ∈ extra, (∃ text, request = .finish text) ∧
              c.IsExtra (step'.1.toList.flatMap diagnostics) := by
  let S := Memory.surface supply
  let S' := Memory.surface supply'
  let s : Session := { config := ⟨markers, .skip⟩ }
  let s' : Session := { config := ⟨markers, .unbind⟩ }
  have steady : s.Steady {} := steady_new _ rfl
  have steady' : s'.Steady {} := steady_new _ rfl
  have twins : ∀ f, s.Twins f s' := fun f => ⟨rfl, .inl rfl, rfl, rfl, rfl, rfl, rfl, rfl⟩
  -- the ids of the whole runs can be renamed, so those of their beginnings can
  obtain ⟨σ, takes⟩ := BatchReport.exists_perm
    ((steady.gives_handleAll supply requests).nodup distinct)
    ((steady'.gives_handleAll supply' requests).nodup distinct')
  have takesSoFar : ∀ n, Renaming.Takes σ
      (idPairs (s.handleAll S (requests.take n) {}).1 (s'.handleAll S' (requests.take n) {}).1) :=
    fun n => takes (reports_isPrefix S s (List.take_prefix n requests) {})
      (reports_isPrefix S' s' (List.take_prefix n requests) {})
  refine ⟨σ, fun n => ?_⟩
  intro skip unbind
  obtain ⟨told, twins'⟩ := (twins σ).handleAll steady steady' (requests.take n) (takesSoFar n)
  refine ⟨agree_of_twins told twins', fun request asked => ?_⟩
  apply twins'.exists_extra (steady.handleAll supply _) (steady'.handleAll supply' _) request
  -- the ids of one more request are those of the longer runs that are not of the shorter ones
  have more := takesSoFar (n + 1)
  rw [List.take_add_one, asked, Option.toList_some, handleAll_concat, handleAll_concat] at more
  exact (Renaming.takes_append.mp (idPairs_append told.length_eq ▸ more)).2

/-- A circle, and in the last snapshot an arrow from a shape that is never drawn. -/
def fromNowhere : List Request :=
  let circle := "action:create shape:circle x:0 y:0 id:1;".toList
  let arrow := " action:create shape:arrow x:0 y:0 from:2 endX:1 endY:1;".toList
  [.submit circle, .finish (circle ++ arrow)]

/-- The arrow is drawn under one of the policies only, and both tell of the same end. -/
theorem policies_agree_fromNowhere :
    let skip := handleAll (Memory.surface SurfaceId.mk) { config := ⟨{}, .skip⟩ } fromNowhere {}
    let unbind := handleAll (Memory.surface SurfaceId.mk) { config := ⟨{}, .unbind⟩ } fromNowhere {}
    (created skip.1).map Created.id = [⟨0⟩] ∧ (created unbind.1).map Created.id = [⟨0⟩, ⟨1⟩] ∧
      ∃ σ : Equiv.Perm SurfaceId, Agree σ skip unbind := by
  have distinct : Function.Injective SurfaceId.mk := fun _ _ => SurfaceId.mk.inj
  obtain ⟨σ, agree⟩ := policies_agree distinct distinct {} fromNowhere
  refine And.intro ?_ (And.intro ?_ (Exists.intro σ (agree 2).1))
  · decide +kernel
  · decide +kernel

end Session

end Whiteboard
