import Mathlib.Data.List.Perm.Basic
import Mathlib.Data.Multiset.AddSub
import Whiteboard.Diagnostic
import Whiteboard.Session.Unseen

/-!
# What is new, as a difference

Each member of the earlier list takes one equal member of the later one away, the first ones first,
and the others stay in order. Of the earlier list only the counts matter, so it may be kept in any
order, and a member taken out of it may leave its place to another one.
-/

namespace Whiteboard

variable {α : Type}

/-! ### A member taken out in place -/

/-- A list without the member at a place, which the last member takes. -/
def swapRemove (as : List α) (place : Nat) : List α :=
  match as.getLast? with
  | some last => (as.set place last).dropLast
  | none => []

/-- Without a member, a list has the same members whether or not the last one takes its place. -/
theorem swapRemove_perm {as : List α} {place : Nat} (h : place < as.length) :
    (swapRemove as place).Perm (as.eraseIdx place) := by
  rcases List.eq_nil_or_concat as with rfl | ⟨front, last, rfl⟩
  · exact absurd h (Nat.not_lt_zero place)
  rw [List.concat_eq_append] at h ⊢
  rw [swapRemove, List.getLast?_concat]
  dsimp only
  rcases Nat.lt_or_ge place front.length with inside | behind
  · rw [List.set_append_left _ _ inside, List.dropLast_concat,
      List.eraseIdx_append_of_lt_length inside]
    exact (List.set_perm_cons_eraseIdx inside last).trans (List.perm_append_singleton _ _).symm
  · -- the member that goes is the last one itself
    obtain rfl : place = front.length := by
      rw [List.length_append, List.length_singleton] at h
      omega
    simp [List.eraseIdx_append_of_length_le]

variable [DecidableEq α]

/-! ### How often a member is new -/

/-- A member is new as often as it is there beyond the earlier list. -/
theorem count_unseen (earlier later : List α) (a : α) :
    (unseen earlier later).count a = later.count a - earlier.count a := by
  induction later generalizing earlier with
  | nil => simp [unseen]
  | cons b later ih =>
    rw [unseen]
    split
    case isTrue known =>
      have some : 0 < earlier.count b := List.count_pos_iff.mpr known
      rw [ih, List.count_erase, List.count_cons]
      -- both counts of `b` are one less, and no other count changes
      by_cases same : b = a
      · subst same
        simp only [beq_self_eq_true, if_true]
        omega
      · simp [same]
    case isFalse new =>
      have none : earlier.count b = 0 := List.count_eq_zero.mpr new
      rw [List.count_cons, List.count_cons, ih]
      by_cases same : b = a
      · subst same
        omega
      · simp [same]

/-- What is new in a list is what it has beyond the earlier list, repeats counted. -/
theorem coe_unseen (earlier later : List α) :
    (unseen earlier later : Multiset α) = (later : Multiset α) - earlier := by
  ext a
  rw [Multiset.count_sub, Multiset.coe_count, Multiset.coe_count, Multiset.coe_count]
  exact count_unseen earlier later a

/-- Nothing is new in a list that was seen. -/
theorem unseen_self (as : List α) : unseen as as = [] := by
  induction as with
  | nil => rfl
  | cons a as ih => simp [unseen, ih]

/-! ### Which members are new -/

theorem mem_diff_iff {earlier front : List α} {a : α} :
    a ∈ earlier.diff front ↔ front.count a < earlier.count a := by
  rw [← List.count_pos_iff, List.count_diff]
  omega

/-- Behind the members of `front`, the earlier list has lost one for each of them. -/
theorem unseen_diff (earlier front back : List α) :
    unseen (earlier.diff front) back =
      ((back.zipIdx front.length).filter fun (a, i) =>
        earlier.count a ≤ ((front ++ back).take i).count a).map Prod.fst := by
  -- what is left of the earlier list is determined by the members in front, so these are generalized
  induction back generalizing front with
  | nil => rfl
  | cons a back ih =>
    have left : earlier.diff (front ++ [a]) = (earlier.diff front).erase a := by
      rw [List.diff_append, List.diff_cons, List.diff_nil]
    have rest := ih (front ++ [a])
    rw [left, List.length_append, List.length_singleton, List.append_assoc,
      List.singleton_append] at rest
    have here : ((front ++ a :: back).take front.length).count a = front.count a := by
      rw [List.take_left]
    rw [unseen, List.zipIdx_cons, List.filter_cons]
    simp only [here, decide_eq_true_eq]
    split
    case isTrue known =>
      have few := mem_diff_iff.mp known
      rw [if_neg (by omega), rest]
    case isFalse new =>
      have enough : earlier.count a ≤ front.count a := by
        rwa [mem_diff_iff, not_lt] at new
      -- there is nothing left to take, so the list stays as it was
      rw [List.erase_of_not_mem new] at rest
      rw [if_pos enough, List.map_cons, rest]

/-- A member is new if the earlier list has no more of it than stand in front of it. -/
theorem unseen_eq_filter (earlier later : List α) :
    unseen earlier later =
      (later.zipIdx.filter fun (a, i) => earlier.count a ≤ (later.take i).count a).map Prod.fst :=
  unseen_diff earlier [] later

theorem unseen_sublist (earlier later : List α) : (unseen earlier later).Sublist later := by
  have kept := (List.filter_sublist (l := later.zipIdx)
    (p := fun (a, i) => earlier.count a ≤ (later.take i).count a)).map Prod.fst
  rwa [← unseen_eq_filter, List.zipIdx_map_fst] at kept

/-- The order of the earlier list does not matter. -/
theorem unseen_of_perm {earlier earlier' : List α} (h : earlier.Perm earlier') (later : List α) :
    unseen earlier later = unseen earlier' later := by
  rw [unseen_eq_filter, unseen_eq_filter]
  simp only [h.count_eq]

/-! ### What is new, found in place -/

/-- What is new in a list, found with a list of what is left of the earlier one. A member that is
accounted for is taken out of it in place. -/
def unseenInPlace (left : List α) : List α → List α
  | [] => []
  | a :: as =>
    match left.idxOf? a with
    | some place => unseenInPlace (swapRemove left place) as
    | none => a :: unseenInPlace left as

/-- Members may be taken out in place. -/
theorem unseenInPlace_eq (left later : List α) : unseenInPlace left later = unseen left later := by
  induction later generalizing left with
  | nil => rfl
  | cons a later ih =>
    rw [unseenInPlace, unseen]
    cases found : left.idxOf? a with
    | none =>
      rw [if_neg (List.idxOf?_eq_none_iff.mp found)]
      exact congrArg (a :: ·) (ih left)
    | some place =>
      obtain ⟨inside, rfl, -⟩ := List.idxOf?_eq_some_iff.mp found
      have known : left[place] ∈ left := List.getElem_mem inside
      -- what is left has the same members in both, in another order
      have erased : (left.eraseIdx place).Perm (left.erase left[place]) :=
        ((List.getElem_cons_eraseIdx_perm inside).trans (List.perm_cons_erase known)).cons_inv
      rw [if_pos known, ← unseen_of_perm ((swapRemove_perm inside).trans erased)]
      exact ih _

/-! ### The difference -/

/-- **What is new is a difference in order.** It is found as well with a list from which members are
taken in place. Its members are members of the later list in their order, each as often as it is
there beyond the earlier list; those that are missing are the first ones of their kind, as many as
the earlier list has. The order of the earlier list does not matter. -/
theorem unseen_ordered_difference (earlier later : List α) :
    unseenInPlace earlier later = unseen earlier later ∧
    (unseen earlier later).Sublist later ∧
    (∀ a, (unseen earlier later).count a = later.count a - earlier.count a) ∧
    unseen earlier later =
      (later.zipIdx.filter fun (a, i) =>
        earlier.count a ≤ (later.take i).count a).map Prod.fst ∧
    ∀ earlier' : List α, earlier'.Perm earlier → unseen earlier' later = unseen earlier later :=
  ⟨unseenInPlace_eq earlier later, unseen_sublist earlier later, count_unseen earlier later,
    unseen_eq_filter earlier later, fun _ permuted => unseen_of_perm permuted later⟩

/-- Two diagnostics, of which an earlier snapshot had the first one twice and a later one has it
three times, with the other between them. -/
theorem unseen_ordered_difference_repeats :
    let number : Diagnostic := .script (.unreadableNumber .x "no".toList)
    let reference : Diagnostic := .script (.unreadableReference .ident "a".toList)
    [number, number, reference].Perm [number, reference, number] ∧
      unseen [number, number, reference] [number, reference, number, reference, number] =
        [reference, number] ∧
      unseenInPlace [number, reference, number] [number, reference, number, reference, number] =
        [reference, number] := by
  intro number reference
  have permuted : [number, number, reference].Perm [number, reference, number] := by decide
  have new : unseen [number, reference, number] [number, reference, number, reference, number] =
      [reference, number] := by decide
  obtain ⟨inPlace, -, -, -, same⟩ := unseen_ordered_difference [number, reference, number]
    [number, reference, number, reference, number]
  exact ⟨permuted, (same _ permuted).trans new, inPlace.trans new⟩

end Whiteboard
