import Whiteboard.Json.Spec
import Whiteboard.Proofs.Entries
import Whiteboard.Proofs.Literals
import Whiteboard.Proofs.Rounding

/-!
# Specifications read back

A specification is written field by field, and whatever is absent is left out. Read back, each entry
gives its own field and no other, so the order of the entries does not matter, and what is left out
stays as it was at the start: absent, or an empty label. What is read may have been spelled
otherwise, with numbers that are rounded, references in other words, entries that are ignored, or
`null` for what is absent. It is written in one way only, so that writing and reading change nothing
more.

## Main definitions

* `ShapeSpec.numbers`, `ShapeSpec.IsFinite` — the geometry of a specification
* `Json.IsExact` — a value with the numbers that a text can have
* `SpecDraft.part` — a specification of which some fields were read

## Main results

* `SpecDraft.readFields_part` — reading entries of a specification
* `ShapeSpec.ofJson_toJson` — a specification that is written is read back
* `ShapeSpec.isFinite_of_ofJson` — a specification that is read can be written
* `ShapeSpec.written_once` — what is read and written once does not change any more
-/

namespace Whiteboard

/-! ### Numbers of a specification -/

namespace ShapeSpec

/-- The numbers of a specification. -/
def numbers (spec : ShapeSpec) : List Binary64 :=
  [spec.x, spec.y] ++ spec.width.toList ++ spec.height.toList ++ spec.endX.toList ++
    spec.endY.toList

/-- Whether all numbers of a specification are finite. -/
def IsFinite (spec : ShapeSpec) : Prop := ∀ v ∈ spec.numbers, v.isFinite = true

instance (spec : ShapeSpec) : Decidable spec.IsFinite :=
  inferInstanceAs (Decidable (∀ v ∈ spec.numbers, v.isFinite = true))

end ShapeSpec

/-- A value with the numbers that a text can have: whole numbers that 64 bits hold, with sign or
without, and finite ones. -/
inductive Json.IsExact : Json → Prop
  | null : IsExact .null
  | bool (b : Bool) : IsExact (.bool b)
  | int {n : Int} (lower : -2 ^ 63 ≤ n) (upper : n < 2 ^ 64) : IsExact (.int n)
  | float {v : Binary64} (finite : v.isFinite = true) : IsExact (.float v)
  | str (s : Text) : IsExact (.str s)
  | arr {items : List Json} (exact : ∀ j ∈ items, IsExact j) : IsExact (.arr items)
  | obj {entries : List (Text × Json)} (exact : ∀ entry ∈ entries, IsExact entry.2) :
      IsExact (.obj entries)

/-! ### Parts of a value -/

namespace Json

variable {v : Binary64} {j : Json}

theorem asNumber_number (finite : v.isFinite = true) : asNumber (number v) = .ok v := by
  rw [number, if_pos finite]
  rfl

theorem asOption_number (finite : v.isFinite = true) :
    asOption asNumber (number v) = .ok (some v) := by
  rw [number, if_pos finite]
  rfl

theorem asKind_name (kind : ShapeKind) : asKind (.str kind.name) = .ok kind := by
  rw [asKind, asName, ShapeKind.ofName?_name]
  rfl

/-- A number that is read is finite. -/
theorem IsExact.isFinite (exact : j.IsExact) (h : j.toNumber? = some v) : v.isFinite = true := by
  cases exact with
  | int lower upper =>
    obtain rfl := Option.some.inj h
    exact Binary64.isFinite_ofInt (by omega)
  | float finite =>
    obtain rfl := Option.some.inj h
    exact finite
  | _ => cases h

end Json

theorem Json.asRef_text (r : ShapeRef) : asRef (.str r.text) = .ok r := by
  rw [asRef, ShapeRef.read?_text]

/-! ### Reading what is written -/

namespace SpecDraft

variable {spec : ShapeSpec}

/-- A specification of which some fields were read. -/
def part (spec : ShapeSpec) (read : Key → Bool) : SpecDraft where
  kind := if read .shape then some spec.kind else none
  x := if read .x then some spec.x else none
  y := if read .y then some spec.y else none
  width := if read .width then spec.width else none
  height := if read .height then spec.height else none
  label := if read .label then spec.label else []
  endX := if read .endX then spec.endX else none
  endY := if read .endY then spec.endY else none
  source := if read .source then spec.source else none
  target := if read .target then spec.target else none
  ident := if read .ident then spec.ident else none

/-- An entry of a specification gives its own field. -/
theorem read_part (finite : spec.IsFinite) {key : Key} {j : Json} (h : spec.field? key = some j)
    (read : Key → Bool) :
    (part spec read).read key j = .ok (part spec fun k => read k || k = key) := by
  cases key with
  | shape | label =>
    obtain rfl := Option.some.inj h
    simp [SpecDraft.read, Json.asKind_name, Json.asText, part, Except.map]
  | x =>
    obtain rfl := Option.some.inj h
    have number := Json.asNumber_number (finite spec.x (by simp [ShapeSpec.numbers]))
    simp [SpecDraft.read, number, part, Except.map]
  | y =>
    obtain rfl := Option.some.inj h
    have number := Json.asNumber_number (finite spec.y (by simp [ShapeSpec.numbers]))
    simp [SpecDraft.read, number, part, Except.map]
  | width | height | endX | endY =>
    obtain ⟨v, there, rfl⟩ := Option.map_eq_some_iff.mp h
    have number := Json.asOption_number (finite v (by simp [ShapeSpec.numbers, there]))
    simp [SpecDraft.read, number, part, Except.map, there]
  | source | target | ident =>
    obtain ⟨r, there, rfl⟩ := Option.map_eq_some_iff.mp h
    simp [SpecDraft.read, Json.asOption, Json.asRef_text, part, Except.map, there]

/-- Entries of a specification give their own fields, in whatever order. -/
theorem readFields_part (finite : spec.IsFinite) {fields : List (Key × Json)}
    (h : ∀ entry ∈ fields, spec.field? entry.1 = some entry.2) (read : Key → Bool) :
    Json.readFields SpecDraft.read (part spec read) fields =
      .ok (part spec fun k => read k || decide (k ∈ fields.map Prod.fst)) := by
  -- what was read so far only grows, so it is generalized
  induction fields generalizing read with
  | nil => simp [Json.readFields]
  | cons entry fields ih =>
    obtain ⟨first, rest⟩ := List.forall_mem_cons.mp h
    refine Json.readFields_cons_eq_ok_iff.mpr ⟨_, read_part finite first read, ?_⟩
    rw [ih rest]
    simp only [List.map_cons, List.mem_cons, Bool.decide_or, Bool.or_assoc]

/-- With every field that there is, the specification is complete. -/
theorem finish_part {read : Key → Bool} (h : ∀ key, (spec.field? key).isSome → read key = true) :
    (part spec read).finish = .ok spec := by
  have kind := h .shape rfl
  have x := h .x rfl
  have y := h .y rfl
  have label := h .label rfl
  -- what was not read is not there
  have optional : ∀ {α : Type} (key : Key) (o : Option α) (write : α → Json),
      spec.field? key = o.map write → (if read key then o else none) = o := by
    intro α key o write written
    cases o with
    | none => exact ite_self _
    | some a => rw [if_pos (h key (by rw [written]; rfl))]
  have width := optional .width spec.width _ rfl
  have height := optional .height spec.height _ rfl
  have endX := optional .endX spec.endX _ rfl
  have endY := optional .endY spec.endY _ rfl
  have source := optional .source spec.source _ rfl
  have target := optional .target spec.target _ rfl
  have ident := optional .ident spec.ident _ rfl
  simp only [finish, part, kind, x, y, label, width, height, endX, endY, source, target, ident,
    if_true]

end SpecDraft

/-! ### Written specifications -/

namespace ShapeSpec

variable {spec : ShapeSpec}

/-- The entries of a written specification, in the order of the keys. -/
def entries (spec : ShapeSpec) : List (Text × Json) :=
  Key.all.filterMap fun key => (spec.field? key).map (key.name, ·)

theorem mem_entries_iff {name : Text} {j : Json} :
    (name, j) ∈ spec.entries ↔ ∃ key, key.name = name ∧ spec.field? key = some j := by
  simp only [entries, List.mem_filterMap, Key.mem_all, true_and, Option.map_eq_some_iff,
    Prod.mk.injEq]
  constructor
  · rintro ⟨key, _, written, rfl, rfl⟩
    exact ⟨key, rfl, written⟩
  · rintro ⟨key, rfl, written⟩
    exact ⟨key, j, written, rfl, rfl⟩

/-- No two entries have one name. -/
theorem nodup_names (spec : ShapeSpec) : (spec.entries.map Prod.fst).Nodup := by
  have names : ∀ keys : List Key, ((keys.filterMap fun key =>
      (spec.field? key).map (key.name, ·)).map Prod.fst).Sublist (keys.map Key.name) := by
    intro keys
    induction keys with
    | nil => exact .slnil
    | cons key keys ih =>
      cases written : spec.field? key with
      | none => simpa [written] using ih.cons key.name
      | some j => simpa [written] using ih
  exact (names Key.all).nodup (by decide)

/-- A written specification has the values of its fields, and no others. -/
theorem exists_fields_toJson (spec : ShapeSpec) :
    ∃ fields, spec.toJson.fields Key.ofName? Key.all = .ok (fields, true) ∧
      ∀ key j, (key, j) ∈ fields ↔ spec.field? key = some j := by
  obtain ⟨sorted, made, perm⟩ := Json.exists_object_eq_obj spec.nodup_names
  have written : spec.toJson = .obj sorted := made
  refine ⟨_, by rw [written, Json.fields], fun key j => ?_⟩
  rw [List.mem_filterMap]
  constructor
  · rintro ⟨⟨name, w⟩, mem, found⟩
    obtain ⟨key', named, same⟩ := Option.map_eq_some_iff.mp found
    obtain ⟨rfl, rfl⟩ := Prod.mk.inj same
    obtain ⟨key, rfl, written⟩ := mem_entries_iff.mp (perm.mem_iff.mp mem)
    rw [Key.ofName?_name] at named
    exact Option.some.inj named ▸ written
  · intro written
    refine ⟨(key.name, j), perm.mem_iff.mpr (mem_entries_iff.mpr ⟨key, rfl, written⟩), ?_⟩
    dsimp only
    rw [Key.ofName?_name, Option.map_some]

/-- A specification that is written is read back. -/
theorem ofJson_toJson (finite : spec.IsFinite) : ofJson spec.toJson = .ok spec := by
  obtain ⟨fields, made, mem_iff⟩ := exists_fields_toJson spec
  have own : ∀ entry ∈ fields, spec.field? entry.1 = some entry.2 :=
    fun entry mem => (mem_iff entry.1 entry.2).mp mem
  have read := SpecDraft.readFields_part finite own (fun _ => false)
  refine Json.asRecord_eq_ok_iff.mpr ⟨fields, _, made, read, ?_⟩
  refine SpecDraft.finish_part fun key there => ?_
  obtain ⟨j, written⟩ := Option.isSome_iff_exists.mp there
  simpa using ⟨j, (mem_iff key j).mpr written⟩

end ShapeSpec

/-! ### Numbers that are read -/

namespace Json

variable {v : Binary64} {j : Json}

theorem toNumber?_of_asNumber (h : j.asNumber = .ok v) : j.toNumber? = some v := by
  rw [asNumber] at h
  cases read : j.toNumber? with
  | none =>
    rw [read] at h
    cases h
  | some w =>
    rw [read] at h
    exact congrArg some (Except.ok.inj h)

theorem toNumber?_of_asOption (h : j.asOption asNumber = .ok (some v)) : j.toNumber? = some v := by
  have read : (asNumber j).map some = .ok (some v) := by
    cases j <;> first | exact h | cases h
  cases number : asNumber j with
  | error e =>
    rw [number] at read
    cases read
  | ok w =>
    rw [number] at read
    obtain rfl : w = v := Option.some.inj (Except.ok.inj read)
    exact toNumber?_of_asNumber number

end Json

namespace SpecDraft

variable {d d' : SpecDraft}

/-- The numbers that were read. -/
def numbers (d : SpecDraft) : List Binary64 :=
  d.x.toList ++ d.y.toList ++ d.width.toList ++ d.height.toList ++ d.endX.toList ++ d.endY.toList

theorem exists_of_map_eq_ok {α β : Type} {f : α → β} {read : Except DecodeError α} {b : β}
    (h : read.map f = .ok b) : ∃ a, read = .ok a ∧ f a = b := by
  cases read with
  | error e => cases h
  | ok a => exact ⟨a, rfl, Except.ok.inj h⟩

/-- A number that one entry gives is the number that stands there. -/
theorem mem_numbers_read {key : Key} {j : Json} (h : d.read key j = .ok d') {v : Binary64}
    (mem : v ∈ d'.numbers) : v ∈ d.numbers ∨ j.toNumber? = some v := by
  cases key with
  | x | y =>
    obtain ⟨w, read, rfl⟩ := exists_of_map_eq_ok h
    have number := Json.toNumber?_of_asNumber read
    simp only [numbers, List.mem_append, Option.mem_toList, Option.some.injEq] at mem ⊢
    grind
  | width | height | endX | endY =>
    obtain ⟨o, read, rfl⟩ := exists_of_map_eq_ok h
    have number : ∀ w, o = some w → j.toNumber? = some w :=
      fun w there => Json.toNumber?_of_asOption (there ▸ read)
    simp only [numbers, List.mem_append, Option.mem_toList] at mem ⊢
    grind
  | shape | label | source | target | ident =>
    obtain ⟨w, read, rfl⟩ := exists_of_map_eq_ok h
    exact .inl mem

/-- All entries give finite numbers only. -/
theorem isFinite_readFields {fields : List (Key × Json)}
    (exact : ∀ entry ∈ fields, entry.2.IsExact)
    (h : Json.readFields SpecDraft.read d fields = .ok d')
    (finite : ∀ v ∈ d.numbers, v.isFinite = true) : ∀ v ∈ d'.numbers, v.isFinite = true := by
  refine Json.readFields_induction (P := fun d => ∀ v ∈ d.numbers, v.isFinite = true) h finite ?_
  intro entry mem d next read finite v given
  exact (mem_numbers_read read given).elim (finite v) (exact entry mem).isFinite

theorem numbers_finish {spec : ShapeSpec} (h : d.finish = .ok spec) :
    spec.numbers = d.numbers := by
  unfold finish at h
  split at h
  next kind x y =>
    obtain rfl := Except.ok.inj h
    simp [ShapeSpec.numbers, numbers, x, y]
  next => cases h

end SpecDraft

/-- The entries of an object and the items of an array have numbers that a text can have. -/
theorem Json.IsExact.fields {j : Json} (exact : j.IsExact) {fields : List (Key × Json)}
    {complete : Bool} (h : j.fields Key.ofName? Key.all = .ok (fields, complete)) :
    ∀ entry ∈ fields, entry.2.IsExact := by
  intro entry mem
  cases exact with
  | arr items =>
    obtain ⟨rfl, -⟩ := Prod.mk.inj (Except.ok.inj h)
    exact items _ (List.of_mem_zip mem).2
  | obj entries =>
    obtain ⟨rfl, -⟩ := Prod.mk.inj (Except.ok.inj h)
    obtain ⟨⟨name, v⟩, there, named⟩ := List.mem_filterMap.mp mem
    obtain ⟨key, -, rfl⟩ := Option.map_eq_some_iff.mp named
    exact entries _ there
  | _ => cases h

namespace ShapeSpec

variable {spec : ShapeSpec} {j : Json}

/-- A specification that is read can be written. -/
theorem isFinite_of_ofJson (exact : j.IsExact) (h : ofJson j = .ok spec) : spec.IsFinite := by
  obtain ⟨fields, d, entries, read, finished⟩ := Json.asRecord_eq_ok_iff.mp h
  rw [IsFinite, SpecDraft.numbers_finish finished]
  exact SpecDraft.isFinite_readFields (exact.fields entries) read (by decide)

/-- What is read and written once does not change any more. A specification with finite numbers is
read back as it was. A value that describes a specification, with whatever else is in it and however
its references are spelled, is written in a form that describes the same specification, and that is
read and written unchanged. -/
theorem written_once :
    (∀ spec : ShapeSpec, spec.IsFinite → ofJson spec.toJson = .ok spec) ∧
    ∀ (j : Json) (spec : ShapeSpec), j.IsExact → ofJson j = .ok spec →
      ofJson spec.toJson = .ok spec ∧ (ofJson spec.toJson).map toJson = .ok spec.toJson := by
  refine ⟨fun spec finite => ofJson_toJson finite, fun j spec exact h => ?_⟩
  have back : ofJson spec.toJson = .ok spec := ofJson_toJson (isFinite_of_ofJson exact h)
  exact ⟨back, congrArg (Except.map toJson) back⟩

/-- An arrow with an entry that no specification has, the end under `null`, no label, a whole number
for a coordinate, and the references spelled in other words. -/
def spelled : Json :=
  .obj [
    ("endX".toList, .null),
    ("from".toList, .str "node 7b".toList),
    ("note".toList, .arr [.bool true]),
    ("shape".toList, .str "arrow".toList),
    ("to".toList, .str "0042".toList),
    ("x".toList, .int (-3)),
    ("y".toList, .float (.ofInt 5))]

/-- The specification that `spelled` describes. -/
def described : ShapeSpec where
  kind := .arrow
  x := .ofInt (-3)
  y := .ofInt 5
  source := some ⟨7⟩
  target := some ⟨42⟩

/-- The arrow is written with its label and the one spelling of its references, and so it stays. -/
theorem written_once_spelled :
    described.IsFinite ∧ spelled.IsExact ∧ ofJson spelled = .ok described ∧
      described.toJson = .obj [
        ("from".toList, .str "shape:7".toList),
        ("label".toList, .str []),
        ("shape".toList, .str "arrow".toList),
        ("to".toList, .str "shape:42".toList),
        ("x".toList, .number (.ofInt (-3))),
        ("y".toList, .number (.ofInt 5))] ∧
      ofJson described.toJson = .ok described ∧
      (ofJson described.toJson).map toJson = .ok described.toJson := by
  have finite : described.IsFinite := by decide +kernel
  have exact : spelled.IsExact := by
    refine .obj fun entry mem => ?_
    simp only [List.mem_cons, List.not_mem_nil, or_false] at mem
    rcases mem with rfl | rfl | rfl | rfl | rfl | rfl | rfl
    · exact .null
    · exact .str _
    · exact .arr (by simpa using .bool true)
    · exact .str _
    · exact .str _
    · exact .int (by decide) (by decide)
    · exact .float (Binary64.isFinite_ofInt (by decide))
  have read : ofJson spelled = .ok described := by decide +kernel
  exact ⟨finite, exact, read, rfl, written_once.1 described finite,
    (written_once.2 spelled described exact read).2⟩

end ShapeSpec

end Whiteboard
