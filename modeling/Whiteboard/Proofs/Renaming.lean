import Mathlib.Data.List.Forall2
import Mathlib.Data.List.Zip
import Mathlib.Logic.Equiv.Fintype
import Whiteboard.Proofs.Memory
import Whiteboard.Session.Basic

/-!
# Other ids

The ids of a surface are its own affair: they are handed on, and compared with nothing but ids of
the same surface. Two runs on two surfaces can be alike only up to a renaming of ids. Which ids are
to be renamed into which can be read off what the runs created, place by place; if no id is given
twice, a permutation of all ids does it.
-/

namespace Whiteboard

/-! ### Renamings -/

/-- Another id for each id. -/
abbrev Renaming := SurfaceId → SurfaceId

namespace Renaming

variable {f : Renaming} {a b : List (SurfaceId × SurfaceId)}

/-- The first id of each pair is renamed into the second one. -/
def Takes (f : Renaming) (pairs : List (SurfaceId × SurfaceId)) : Prop := ∀ p ∈ pairs, f p.1 = p.2

@[simp] theorem takes_append : f.Takes (a ++ b) ↔ f.Takes a ∧ f.Takes b := List.forall_mem_append

theorem Takes.subset (takes : f.Takes b) (h : a ⊆ b) : f.Takes a := fun p mem => takes p (h mem)

/-- Ids that do not repeat can be renamed into others that do not, by a permutation of all ids. -/
theorem exists_perm {pairs : List (SurfaceId × SurfaceId)} (left : (pairs.map Prod.fst).Nodup)
    (right : (pairs.map Prod.snd).Nodup) : ∃ σ : Equiv.Perm SurfaceId, Takes σ pairs := by
  -- the pairs are two lists of ids with the same places
  have place : ∀ {side : SurfaceId × SurfaceId → SurfaceId}, (pairs.map side).Nodup →
      Function.Injective fun n : Fin pairs.length => side pairs[n] := by
    intro side distinct m n same
    have equal : pairs[m] = pairs[n] :=
      List.inj_on_of_nodup_map distinct (List.getElem_mem _) (List.getElem_mem _) same
    exact Fin.ext ((distinct.of_map side).getElem_inj_iff.mp equal)
  obtain ⟨σ, takes⟩ := Equiv.Perm.exists_extending_pair _ _ (place left) (place right)
  refine ⟨σ, fun p mem => ?_⟩
  obtain ⟨n, there, rfl⟩ := List.mem_iff_getElem.mp mem
  exact takes ⟨n, there⟩

end Renaming

variable (f : Renaming)

/-! ### What ids occur in -/

/-- An answer with its id renamed. -/
def Answer.rename : Answer → Answer
  | .created id => .created (f id)
  | .failed error => .failed error

/-- A call with the ids renamed that it is bound to. -/
def ShapeCall.rename (call : ShapeCall) : ShapeCall :=
  { call with tail := call.tail.map f, head := call.head.map f }

/-- Something created with its ids renamed. -/
def Created.rename (c : Created) : Created := ⟨f c.id, c.call.rename f⟩

/-- A fate with its ids renamed. -/
def Fate.rename : Fate → Fate
  | .drawn call dangling answer => .drawn (call.rename f) dangling (answer.rename f)
  | .skipped spec dangling => .skipped spec dangling
  | .deferred spec => .deferred spec

/-- What an end was found to be, with its id renamed. -/
def Endpoint.rename : Endpoint → Endpoint
  | .bound id => .bound (f id)
  | .free => .free
  | .missing ref => .missing ref

/-- Bindings with the ids renamed that names mean. -/
def Bindings.rename (ids : Bindings) : Bindings :=
  ⟨ids.entries.map fun entry => (entry.1, f entry.2)⟩

/-- A report with its ids renamed. -/
def BatchReport.rename (report : BatchReport) : BatchReport :=
  { report with fates := report.fates.map (Fate.rename f) }

/-! ### What is told -/

namespace Fate

/-- The ids that two fates tell of, if a shape was created in both. -/
def idPair? (fate fate' : Fate) : Option (SurfaceId × SurfaceId) :=
  fate.created?.bind fun c => fate'.created?.map fun c' => (c.id, c'.id)

theorem map_swap_idPair? (fate fate' : Fate) :
    (fate.idPair? fate').map Prod.swap = fate'.idPair? fate := by
  unfold idPair?
  cases fate.created? <;> cases fate'.created? <;> rfl

@[simp] theorem created?_rename (fate : Fate) :
    (fate.rename f).created? = fate.created?.map (Created.rename f) := by
  cases fate with
  | drawn call dangling answer => cases answer <;> rfl
  | skipped spec dangling => rfl
  | deferred spec => rfl

@[simp] theorem deferred?_rename (fate : Fate) : (fate.rename f).deferred? = fate.deferred? := by
  cases fate <;> rfl

@[simp] theorem diagnostics_rename (fate : Fate) :
    (fate.rename f).diagnostics = fate.diagnostics := by
  cases fate with
  | drawn call dangling answer => cases answer <;> rfl
  | skipped spec dangling => rfl
  | deferred spec => rfl

end Fate

namespace Fates

@[simp] theorem created_rename (fates : Fates) :
    created (fates.map (Fate.rename f)) = (created fates).map (Created.rename f) := by
  simp [created, List.filterMap_map, List.map_filterMap]

@[simp] theorem deferred_rename (fates : Fates) :
    deferred (fates.map (Fate.rename f)) = deferred fates := by
  simp [deferred, List.filterMap_map]

@[simp] theorem diagnostics_rename (fates : Fates) :
    diagnostics (fates.map (Fate.rename f)) = diagnostics fates := by
  simp [diagnostics, List.flatMap_map]

/-- The ids that two batches gave at the same places. -/
def idPairs (a b : Fates) : List (SurfaceId × SurfaceId) :=
  (a.zip b).filterMap fun fates => fates.1.idPair? fates.2

theorem idPairs_cons (fate fate' : Fate) (a b : Fates) :
    idPairs (fate :: a) (fate' :: b) = (fate.idPair? fate').toList ++ idPairs a b := by
  rw [idPairs, List.zip_cons_cons, List.filterMap_cons]
  cases fate.idPair? fate' <;> rfl

theorem idPairs_append {a a' : Fates} (b b' : Fates) (h : a.length = a'.length) :
    idPairs (a ++ b) (a' ++ b') = idPairs a a' ++ idPairs b b' := by
  rw [idPairs, List.zip_append h, List.filterMap_append]
  rfl

/-- The first ids of the pairs were given by the first batch, in this order. -/
theorem map_fst_idPairs_sublist (a b : Fates) :
    ((idPairs a b).map Prod.fst).Sublist ((created a).map Created.id) := by
  induction a generalizing b with
  | nil => exact .slnil
  | cons fate a ih =>
    cases b with
    | nil => exact List.nil_sublist _
    | cons fate' b =>
      rw [idPairs_cons, created_cons, List.map_append, List.map_append]
      refine .append ?_ (ih b)
      cases made : fate.created? <;> cases made' : fate'.created? <;>
        simp [Fate.idPair?, made, made']

/-- The pairs are the same seen from the other batch. -/
theorem map_swap_idPairs (a b : Fates) : (idPairs a b).map Prod.swap = idPairs b a := by
  rw [idPairs, idPairs, ← List.zip_swap, List.filterMap_map, List.map_filterMap]
  congr 1
  funext fates
  exact fates.2.map_swap_idPair? fates.1

/-- The second ids of the pairs were given by the second batch, in this order. -/
theorem map_snd_idPairs_sublist (a b : Fates) :
    ((idPairs a b).map Prod.snd).Sublist ((created b).map Created.id) := by
  have swapped := map_fst_idPairs_sublist b a
  rw [← map_swap_idPairs, List.map_map] at swapped
  exact swapped

end Fates

namespace BatchReport

variable (report : BatchReport)

/-- The ids that the reports of two runs tell at the same places. -/
def idPairs (reports reports' : List BatchReport) : List (SurfaceId × SurfaceId) :=
  (reports.zip reports').flatMap fun r => Fates.idPairs r.1.fates r.2.fates

@[simp] theorem created_rename :
    (report.rename f).created = report.created.map (Created.rename f) :=
  Fates.created_rename f report.fates

/-- No id is told in a diagnostic. -/
@[simp] theorem diagnostics_rename : (report.rename f).diagnostics = report.diagnostics :=
  congrArg (_ ++ ·) (Fates.diagnostics_rename f report.fates)

@[simp] theorem deferred_rename : (report.rename f).deferred = report.deferred :=
  congrArg List.length (Fates.deferred_rename f report.fates)

end BatchReport

/-! ### What names mean -/

namespace Bindings

variable (ids : Bindings) (r : ShapeRef) (id : SurfaceId) (spec : ShapeSpec)

@[simp] theorem resolve?_rename : (ids.rename f).resolve? r = (ids.resolve? r).map f := by
  simp [resolve?, rename, List.find?_map, Function.comp_def]

theorem bind_rename : (ids.rename f).bind r (f id) = (ids.bind r id).rename f := by
  simp [bind, rename, List.filter_map, Function.comp_def]

theorem bindAnswer_rename (answer : Answer) :
    (ids.rename f).bindAnswer spec (answer.rename f) = (ids.bindAnswer spec answer).rename f := by
  cases answer with
  | failed error => rfl
  | created id =>
    cases ident : spec.ident with
    | none => simp [bindAnswer, Answer.rename, bindIdent, ident]
    | some r => simp [bindAnswer, Answer.rename, bindIdent, ident, bind_rename]

@[simp] theorem endpoint_rename (ref : Option ShapeRef) :
    (ids.rename f).endpoint ref = (ids.endpoint ref).rename f := by
  cases ref with
  | none => rfl
  | some r => cases found : ids.resolve? r <;> simp [endpoint, found, Endpoint.rename]

end Bindings

namespace Endpoint

variable (tail head : Endpoint)

@[simp] theorem id?_rename : (tail.rename f).id? = tail.id?.map f := by cases tail <;> rfl

@[simp] theorem missing?_rename : (tail.rename f).missing? = tail.missing? := by cases tail <;> rfl

@[simp] theorem dangling_rename :
    dangling (tail.rename f) (head.rename f) = dangling tail head := by
  simp [dangling]

end Endpoint

namespace Bindings

variable (ids : Bindings) (spec : ShapeSpec)

theorem call_rename : (ids.rename f).call spec = (ids.call spec).rename f := by
  simp [call, ShapeCall.rename]

@[simp] theorem dangling_rename : (ids.rename f).dangling spec = ids.dangling spec := by
  simp [dangling]

/-- What is to be done with an arrow does not depend on what the ids are. -/
@[simp] theorem verdict_rename (policy : Policy) (finality : Finality) :
    (ids.rename f).verdict policy finality spec = ids.verdict policy finality spec := by
  simp [verdict, Endpoint.verdict]

end Bindings

end Whiteboard
