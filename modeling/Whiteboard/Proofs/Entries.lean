import Mathlib.Data.List.Nodup
import Mathlib.Data.List.Perm.Basic
import Whiteboard.Json.Basic

/-!
# Entries of objects

An object is made of entries in any order, and has them in the order of their names. As long as no
two of them have one name, that is all that happens to them.
-/

namespace Whiteboard

/-- Where keys differ, what is found by its key is what has it. -/
theorem find?_key_eq_some_iff {α κ : Type} [DecidableEq κ] {key : α → κ} {items : List α}
    (distinct : (items.map key).Nodup) {k : κ} {a : α} :
    items.find? (fun item => key item = k) = some a ↔ a ∈ items ∧ key a = k := by
  constructor
  · exact fun found => ⟨List.mem_of_find?_eq_some found, by simpa using List.find?_some found⟩
  · rintro ⟨mem, rfl⟩
    obtain ⟨b, found⟩ := Option.isSome_iff_exists.mp
      (List.find?_isSome.mpr ⟨a, mem, decide_eq_true rfl⟩ :
        (items.find? fun item => key item = key a).isSome)
    have same : key b = key a := by simpa using List.find?_some found
    rw [found, List.inj_on_of_nodup_map distinct (List.mem_of_find?_eq_some found) mem same]

namespace Json

variable {name : Text} {v : Json} {entries : List (Text × Json)}

/-- What stands in an object under a name. -/
def get? (name : Text) : Json → Option Json
  | .obj entries => (entries.find? fun entry => entry.1 = name).map Prod.snd
  | _ => none

/-- A new name takes its place, and nothing goes. -/
theorem perm_insertEntry (new : name ∉ entries.map Prod.fst) :
    (insertEntry name v entries).Perm ((name, v) :: entries) := by
  induction entries with
  | nil => exact .refl _
  | cons entry entries ih =>
    obtain ⟨other, w⟩ := entry
    rw [List.map_cons, List.mem_cons, not_or] at new
    rw [insertEntry, if_neg new.1]
    split
    case isTrue => exact .refl _
    case isFalse => exact ((ih new.2).cons _).trans (.swap ..)

/-- Entries of different names, put in one after another, are all there. -/
theorem perm_foldl_insertEntry {before : List (Text × Json)}
    (distinct : ((before ++ entries).map Prod.fst).Nodup) :
    (entries.foldl (fun acc (name, v) => insertEntry name v acc) before).Perm
      (before ++ entries) := by
  induction entries generalizing before with
  | nil => simp
  | cons entry entries ih =>
    obtain ⟨name, v⟩ := entry
    have moved : (before ++ (name, v) :: entries).Perm ((name, v) :: before ++ entries) :=
      List.perm_middle
    have distinct' := (moved.map Prod.fst).nodup_iff.mp distinct
    have new : name ∉ before.map Prod.fst := by
      intro mem
      rw [List.cons_append, List.map_cons, List.nodup_cons] at distinct'
      exact distinct'.1 (List.map_subset _ (List.subset_append_left ..) mem)
    have step := (perm_insertEntry (v := v) new).append_right entries
    have rest := ih ((step.map Prod.fst).nodup_iff.mpr distinct')
    exact rest.trans (step.trans moved.symm)

/-- An object has the entries that it is made of. -/
theorem exists_object_eq_obj (distinct : (entries.map Prod.fst).Nodup) :
    ∃ sorted, object entries = .obj sorted ∧ sorted.Perm entries :=
  ⟨_, rfl, perm_foldl_insertEntry distinct⟩

/-- An object has each entry under its name. -/
theorem get?_object_eq_some_iff (distinct : (entries.map Prod.fst).Nodup) :
    (object entries).get? name = some v ↔ (name, v) ∈ entries := by
  obtain ⟨sorted, made, perm⟩ := exists_object_eq_obj distinct
  have distinct' := (perm.map Prod.fst).nodup_iff.mpr distinct
  rw [made, ← perm.mem_iff, get?, Option.map_eq_some_iff]
  simp only [find?_key_eq_some_iff distinct']
  constructor
  · rintro ⟨⟨_, _⟩, ⟨mem, rfl⟩, rfl⟩
    exact mem
  · exact fun mem => ⟨(name, v), ⟨mem, rfl⟩, rfl⟩

end Json

end Whiteboard
