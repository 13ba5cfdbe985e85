import Mathlib.Data.List.Flatten
import Whiteboard.Proofs.Twins

/-!
# Sessions that share a surface

Several sessions draw on one memory surface, and are asked in any order. The surface gives its ids
to whoever asks next, so what one session is given depends on all of them. Nothing else does: a
session tells and keeps what it would alone on a surface of its own, up to a renaming of ids.
-/

namespace Whiteboard

namespace Shared

/-- What belongs to one of the sessions, of requests or of reports. -/
def own {α : Type} (index : Nat) (all : List (Nat × α)) : List α :=
  (all.filter fun one => one.1 = index).map Prod.snd

section Own

variable {α : Type} {index other : Nat} {a b : List (Nat × α)}

theorem own_append (index : Nat) (a b : List (Nat × α)) :
    own index (a ++ b) = own index a ++ own index b := by
  simp [own]

theorem own_cons_self (index : Nat) (one : α) (all : List (Nat × α)) :
    own index ((index, one) :: all) = one :: own index all := by
  simp [own]

theorem own_cons_of_ne (h : other ≠ index) (one : α) (all : List (Nat × α)) :
    own index ((other, one) :: all) = own index all := by
  simp [own, h]

theorem own_toList_self (index : Nat) (one : Option α) :
    own index (one.map (index, ·)).toList = one.toList := by
  cases one <;> simp [own]

theorem own_toList_of_ne (h : other ≠ index) (one : Option α) :
    own index (one.map (other, ·)).toList = [] := by
  cases one <;> simp [own, h]

theorem own_isPrefix (h : a <+: b) (index : Nat) : own index a <+: own index b :=
  (h.filter _).map _

end Own

section Run

variable {Board : Type} (S : Surface Board) (w : Shared Board)

theorem handleAll_cons (index : Nat) (request : Request) (requests : List (Nat × Request)) :
    w.handleAll S ((index, request) :: requests) =
      let first := w.handle S index request
      let rest := first.2.handleAll S requests
      ((first.1.map (index, ·)).toList ++ rest.1, rest.2) := rfl

/-- More requests only add reports. -/
theorem reports_isPrefix {requests more : List (Nat × Request)} (h : requests <+: more) :
    (w.handleAll S requests).1 <+: (w.handleAll S more).1 := by
  induction requests generalizing w more with
  | nil => exact List.nil_prefix
  | cons first requests ih =>
    obtain ⟨later, rfl⟩ := h
    rw [List.cons_append, handleAll_cons, handleAll_cons]
    exact (List.prefix_append_right_inj _).mpr (ih _ (List.prefix_append _ _))

end Run

variable {w : Shared Memory} {supply supply' : Nat → SurfaceId} {index : Nat}

/-- The ids of what all sessions create together are the next ones of the supply. -/
theorem Steady.gives_handleAll (supply : Nat → SurfaceId) (steady : w.Steady)
    (requests : List (Nat × Request)) :
    let run := w.handleAll (Memory.surface supply) requests
    Memory.Gives supply w.board run.2.board
      ((Session.created (run.1.map Prod.snd)).map Created.id) := by
  induction requests generalizing w with
  | nil => exact .refl supply w.board
  | cons first requests ih =>
    obtain ⟨index, request⟩ := first
    have rest := ih (steady.handle supply index request)
    simp only [handleAll_cons, List.map_append, Session.created, List.flatMap_append]
    refine .trans ?_ rest
    cases found : w.sessions[index]? with
    | none =>
      rw [handle_of_none _ found]
      exact .refl supply w.board
    | some s =>
      have gives := (steady.sessions s (List.mem_of_getElem? found)).gives_handle
        supply request
      rw [handle_eq _ found]
      simpa [Option.toList_map, Function.comp_def, Session.created] using gives

/-- What one session creates among others has ids that differ. -/
theorem Steady.nodup_own (steady : w.Steady) (distinct : Function.Injective supply)
    (requests : List (Nat × Request)) (index : Nat) :
    ((Session.created (own index (w.handleAll (Memory.surface supply) requests).1)).map
      Created.id).Nodup := by
  have all := (steady.gives_handleAll supply requests).nodup distinct
  refine all.sublist (List.Sublist.map _ ?_)
  exact (List.filter_sublist.map Prod.snd).flatMap BatchReport.created

/-- A session among others is the twin of the same session alone. -/
theorem Steady.twins_handleAll {f : Renaming} {s s' : Session} {board : Memory} (steady : w.Steady)
    (found : w.sessions[index]? = some s') (alone : s.Steady board) (twins : s.Twins f s')
    (requests : List (Nat × Request)) :
    let run := s.handleAll (Memory.surface supply') (own index requests) board
    let run' := w.handleAll (Memory.surface supply) requests
    f.Takes (BatchReport.idPairs run.1 (own index run'.1)) →
      List.Forall₂ (BatchReport.Twins f (s.config.policy ≠ s'.config.policy))
          run.1 (own index run'.1) ∧
        ∃ s'', run'.2.sessions[index]? = some s'' ∧ run.2.1.Twins f s'' := by
  induction requests generalizing w s s' board with
  | nil => exact fun _ => ⟨.nil, s', found, twins⟩
  | cons first requests ih =>
    obtain ⟨other, request⟩ := first
    have steady' := steady.handle supply other request
    by_cases here : other = index
    · subst here
      have there := (List.getElem?_eq_some_iff.mp found).1
      have among := steady.sessions s' (List.mem_of_getElem? found)
      have places := Session.length_toList_handle (Memory.surface supply')
        (Memory.surface supply) s s' request board w.board
      rw [handle_eq _ found] at steady'
      simp only [handleAll_cons, own_cons_self, own_append, own_toList_self, handle_eq _ found,
        Session.handleAll_cons, BatchReport.idPairs_append places, Renaming.takes_append]
      rintro ⟨now, rest⟩
      obtain ⟨told, twins'⟩ := twins.handle alone among request now
      obtain ⟨told', s'', found', twins''⟩ := ih steady' (List.getElem?_set_self there)
        (alone.handle supply' request).1 twins' rest
      rw [Session.config_handle, Session.config_handle] at told'
      exact ⟨List.rel_append (told.imp fun _ _ told => told.imp And.left) told', s'', found',
        twins''⟩
    · -- a request to another session leaves this one, and its board has only grown
      simp only [handleAll_cons, own_cons_of_ne here, own_append, own_toList_of_ne here,
        List.nil_append]
      exact ih steady' ((getElem?_handle_of_ne _ (Ne.symm here) request).trans found) alone twins

/-- **Sessions do not interfere.** Any number of sessions share a memory surface, and are asked for
anything in any order. Each of them is compared with a session that is asked the same alone, on a
memory surface of its own. Then there is one renaming of ids, a permutation, such that behind every
request the reports so far, the logs, the arrows that wait and the meanings of names are the same up
to it. -/
theorem isolated (distinct : Function.Injective supply) (distinct' : Function.Injective supply')
    (configs : List Config) (requests : List (Nat × Request)) {config : Config}
    (h : configs[index]? = some config) :
    ∃ σ : Equiv.Perm SurfaceId, ∀ n,
      let shared := (start configs {}).handleAll (Memory.surface supply) (requests.take n)
      let alone := Session.handleAll (Memory.surface supply') { config }
        (own index (requests.take n)) {}
      own index shared.1 = alone.1.map (BatchReport.rename σ) ∧
        ∃ s, shared.2.sessions[index]? = some s ∧
          s.commands = alone.2.1.commands ∧ s.arrows = alone.2.1.arrows ∧
          s.pending = alone.2.1.pending ∧
          ∀ r, s.ids.resolve? r = (alone.2.1.ids.resolve? r).map σ := by
  have steady : (start configs ({} : Memory)).Steady := steady_start configs
  have found : (start configs ({} : Memory)).sessions[index]? = some { config } := by
    simp [start, h]
  have fresh : Session.Steady { config } {} := Session.steady_new config rfl
  -- the ids of the whole runs can be renamed, so those of their beginnings can
  obtain ⟨σ, takes⟩ := BatchReport.exists_perm
    ((fresh.gives_handleAll supply' (own index requests)).nodup distinct')
    (steady.nodup_own distinct requests index)
  refine ⟨σ, fun n => ?_⟩
  have asked : requests.take n <+: requests := List.take_prefix n requests
  have takesSoFar := takes
    (Session.reports_isPrefix (Memory.surface supply') { config } (own_isPrefix asked index) {})
    (own_isPrefix (reports_isPrefix (Memory.surface supply) (start configs {}) asked) index)
  obtain ⟨told, s, found', twins⟩ := steady.twins_handleAll found fresh
    ⟨rfl, .refl config.policy, rfl, rfl, rfl, rfl, rfl, rfl⟩ (requests.take n) takesSoFar
  refine ⟨?_, s, found', twins.commands, twins.arrows, twins.pending, fun r => ?_⟩
  · rw [← List.map_id (own index _)]
    exact map_eq_map_of_forall₂ (told.imp fun _ _ told => told.eq_rename fun apart => apart rfl)
  · rw [twins.ids, Bindings.resolve?_rename]

/-- Two sessions draw a circle of the same name by turns, and the first one an arrow to it. -/
def byTurns : List (Nat × Request) :=
  let circle := "action:create shape:circle x:0 y:0 id:1;".toList
  let arrow := " action:create shape:arrow x:0 y:0 to:1 endX:1 endY:1;".toList
  [(1, .submit circle), (0, .submit circle), (1, .reset), (0, .finish (circle ++ arrow))]

/-- The first session is given the second and the third id, and alone it is given the first two. -/
theorem isolated_byTurns :
    (Session.created (own 0
        ((start [{}, {}] {}).handleAll (Memory.surface SurfaceId.mk) byTurns).1)).map
      Created.id = [⟨1⟩, ⟨2⟩] ∧
    (Session.created
        (Session.handleAll (Memory.surface SurfaceId.mk) {} (own 0 byTurns) {}).1).map
      Created.id = [⟨0⟩, ⟨1⟩] ∧
    ∃ σ : Equiv.Perm SurfaceId, ∀ n,
      own 0 ((start [{}, {}] {}).handleAll (Memory.surface SurfaceId.mk) (byTurns.take n)).1 =
        (Session.handleAll (Memory.surface SurfaceId.mk) {} (own 0 (byTurns.take n)) {}).1.map
          (BatchReport.rename σ) := by
  have distinct : Function.Injective SurfaceId.mk := fun _ _ => SurfaceId.mk.inj
  have first : ([{}, {}] : List Config)[0]? = some ({} : Config) := rfl
  obtain ⟨σ, same⟩ := isolated distinct distinct [{}, {}] byTurns first
  refine And.intro ?_ (And.intro ?_ (Exists.intro σ fun n => (same n).1))
  · decide +kernel
  · decide +kernel

end Shared

end Whiteboard
