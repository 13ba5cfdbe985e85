import Whiteboard.Command.Basic
import Whiteboard.Json.Basic
import Whiteboard.Shape.Kind

/-!
# Reading exchange values

The parts of a shape as exchange values. A value that is none of what is wanted is malformed; only a
text that spells no reference has a cause of its own.
-/

namespace Whiteboard

/-- Why a value cannot be read. -/
inductive DecodeError
  /-- The value has not the wanted form. -/
  | malformed
  /-- A text that spells no reference stands where one is wanted. -/
  | notReference (raw : Text)
  deriving DecidableEq

/-- The text of the error, where the library words it. -/
def DecodeError.message? : DecodeError → Option Text
  | .malformed => none
  | .notReference raw => some ("not a shape reference: ".toList ++ raw)

namespace Json

/-- A result, or the one error without a cause. -/
def orMalformed {α : Type} : Option α → Except DecodeError α
  | some a => .ok a
  | none => .error .malformed

/-- A floating-point number. -/
def asNumber (j : Json) : Except DecodeError Binary64 := orMalformed j.toNumber?

/-- A text. -/
def asText : Json → Except DecodeError Text
  | .str s => .ok s
  | _ => .error .malformed

/-- A reference, spelled by any text with a number of 64 bits in it. -/
def asRef : Json → Except DecodeError ShapeRef
  | .str s =>
    match ShapeRef.read? s with
    | some r => .ok r
    | none => .error (.notReference s)
  | _ => .error .malformed

/-- A whole number of 32 bits. -/
def asInt32 : Json → Except DecodeError Int32
  | .int n =>
    if Int32.minValue.toInt ≤ n && n ≤ Int32.maxValue.toInt then .ok (Int32.ofInt n)
    else .error .malformed
  | _ => .error .malformed

/-- A value that may be absent, which `null` says. -/
def asOption {α : Type} (read : Json → Except DecodeError α) : Json → Except DecodeError (Option α)
  | .null => .ok none
  | j => (read j).map some

/-- One of some names: the name alone, or an object with the name and nothing under it. -/
def asName {α : Type} (ofName? : Text → Option α) : Json → Except DecodeError α
  | .str s => orMalformed (ofName? s)
  | .obj [(s, .null)] => orMalformed (ofName? s)
  | _ => .error .malformed

/-- A kind of shape. -/
def asKind : Json → Except DecodeError ShapeKind := asName ShapeKind.ofName?

/-- An action. -/
def asAction : Json → Except DecodeError Action := asName Action.ofName?

/-! ### Records -/

section Record

variable {key draft α : Type}

/-- The entries of an object, or the items of an array under the names of their places. The second
part tells whether the array has an item for every place and no more. -/
def fields (ofName? : Text → Option key) (places : List key) :
    Json → Except DecodeError (List (key × Json) × Bool)
  | .obj entries => .ok (entries.filterMap fun (name, v) => (ofName? name).map (·, v), true)
  | .arr items => .ok (places.zip items, items.length = places.length)
  | _ => .error .malformed

/-- A draft with the values of some fields, read in order up to the first error. -/
def readFields (read : draft → key → Json → Except DecodeError draft) (d : draft) :
    List (key × Json) → Except DecodeError draft
  | [] => .ok d
  | (k, j) :: rest =>
    match read d k j with
    | .ok d => readFields read d rest
    | .error e => .error e

/-- A record. Its fields are read into a draft one by one, and the draft is finished behind the last
one. -/
def asRecord (ofName? : Text → Option key) (places : List key)
    (read : draft → key → Json → Except DecodeError draft) (start : draft)
    (finish : draft → Except DecodeError α) (j : Json) : Except DecodeError α :=
  match j.fields ofName? places with
  | .error e => .error e
  | .ok (fields, complete) =>
    match readFields read start fields with
    | .error e => .error e
    | .ok d => if complete then finish d else .error .malformed

variable {ofName? : Text → Option key} {places : List key}
  {read : draft → key → Json → Except DecodeError draft} {finish : draft → Except DecodeError α}
  {d d' : draft} {entry : key × Json} {entries : List (key × Json)} {j : Json} {a : α}

theorem readFields_cons_eq_ok_iff :
    readFields read d (entry :: entries) = .ok d' ↔
      ∃ next, read d entry.1 entry.2 = .ok next ∧ readFields read next entries = .ok d' := by
  rw [readFields]
  cases read d entry.1 entry.2 <;> simp

/-- What every field that is read keeps is kept by all of them. -/
theorem readFields_induction {P : draft → Prop} (h : readFields read d entries = .ok d')
    (start : P d) (step : ∀ entry ∈ entries, ∀ d next,
      read d entry.1 entry.2 = .ok next → P d → P next) : P d' := by
  induction entries generalizing d with
  | nil => exact Except.ok.inj h ▸ start
  | cons entry entries ih =>
    obtain ⟨next, first, rest⟩ := readFields_cons_eq_ok_iff.mp h
    obtain ⟨here, later⟩ := List.forall_mem_cons.mp step
    exact ih rest (here d next first start) later

theorem asRecord_eq_ok_iff :
    asRecord ofName? places read d finish j = .ok a ↔
      ∃ entries d', j.fields ofName? places = .ok (entries, true) ∧
        readFields read d entries = .ok d' ∧ finish d' = .ok a := by
  unfold asRecord
  cases found : j.fields ofName? places with
  | error e => simp
  | ok entries =>
    obtain ⟨entries, complete⟩ := entries
    cases given : readFields read d entries with
    | error e => simp [given]
    | ok d' => cases complete <;> simp [given]

end Record

end Json

end Whiteboard
