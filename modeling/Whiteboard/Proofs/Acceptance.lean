import Whiteboard.Proofs.Drawable

/-!
# Which commands are accepted

The four rules, each by what the parameters must hold: a text that names a kind, numbers for a
place, numbers for a size where the kind needs one, and an end for an arrow. A value of a sort that
its key does not want is as good as none. Validation reports the first rule that is broken, and if
none is, the specification has the values of the parameters and no others.
-/

namespace Whiteboard

namespace Command

variable {c : Command} {key : Key} {kind kind' : ShapeKind} {spec spec' : ShapeSpec}
  {rejection rejection' : Rejection}

/-! ### What the rules ask for -/

/-- The value under `shape` is a text, and it names the kind in small or capital letters. -/
def Names (c : Command) (kind : ShapeKind) : Prop :=
  ∃ t, c.params.get .shape = some (.text t) ∧ t.lower = kind.name

/-- The value of a key is a number, whose nearest floating-point number is `v`. -/
def Places (c : Command) (key : Key) (v : Binary64) : Prop :=
  ∃ n, c.params.get key = some (.number n) ∧ v = .ofInt n.toInt

/-- The value of a key is a number. -/
def HasNumber (c : Command) (key : Key) : Prop := ∃ n, c.params.get key = some (.number n)

/-- The value of a key is a reference. -/
def HasReference (c : Command) (key : Key) : Prop := ∃ r, c.params.get key = some (.reference r)

/-- There is a place to draw at. -/
def HasPlace (c : Command) : Prop := c.HasNumber .x ∧ c.HasNumber .y

/-- There is a size. -/
def HasSize (c : Command) : Prop := c.HasNumber .width ∧ c.HasNumber .height

/-- There is an end for an arrow: a place to point at, or a shape at either end. -/
def HasEnd (c : Command) : Prop :=
  c.HasNumber .endX ∧ c.HasNumber .endY ∨ c.HasReference .source ∧ c.HasReference .target

/-- The first rule that a command breaks. The rules in front of it are kept. -/
inductive FirstBreaks (c : Command) : Rejection → Prop
  | shape {raw : Option Text} (given : ∀ t, raw = some t ↔ c.params.get .shape = some (.text t))
      (unnamed : ∀ kind, ¬ c.Names kind) : FirstBreaks c (.invalidShapeType raw)
  | place {kind : ShapeKind} (named : c.Names kind) (lacks : ¬ c.HasPlace) :
      FirstBreaks c (.missingCoordinates kind)
  | size {kind : ShapeKind} (named : c.Names kind) (placed : c.HasPlace)
      (wanted : kind = .rectangle ∨ kind = .ellipse) (lacks : ¬ c.HasSize) :
      FirstBreaks c (.missingDimensions kind)
  | arrowEnd (named : c.Names .arrow) (placed : c.HasPlace) (lacks : ¬ c.HasEnd) :
      FirstBreaks c .missingArrowEndpoint

/-- A specification with the values of a command, field by field. What is absent or of another sort
is absent, and an absent label is empty. -/
structure Describes (c : Command) (spec : ShapeSpec) : Prop where
  kind : c.Names spec.kind
  x : c.Places .x spec.x
  y : c.Places .y spec.y
  width : ∀ v, spec.width = some v ↔ c.Places .width v
  height : ∀ v, spec.height = some v ↔ c.Places .height v
  label : ∀ t, c.params.get .label = some (.text t) → spec.label = t
  unlabelled : (∀ t, c.params.get .label ≠ some (.text t)) → spec.label = []
  endX : ∀ v, spec.endX = some v ↔ c.Places .endX v
  endY : ∀ v, spec.endY = some v ↔ c.Places .endY v
  source : ∀ r, spec.source = some r ↔ c.params.get .source = some (.reference r)
  target : ∀ r, spec.target = some r ↔ c.params.get .target = some (.reference r)
  ident : ∀ r, spec.ident = some r ↔ c.params.get .ident = some (.reference r)

/-! ### One answer at most -/

/-- A text names one kind at most. -/
theorem Names.unique (h : c.Names kind) (h' : c.Names kind') : kind = kind' := by
  obtain ⟨t, found, named⟩ := h
  obtain ⟨t', found', named'⟩ := h'
  obtain rfl : t = t' := by simpa [found] using found'
  have same : some kind = some kind' := by
    rw [← ShapeKind.ofName?_name kind, ← ShapeKind.ofName?_name kind', ← named, ← named']
  exact Option.some.inj same

theorem Places.unique {v v' : Binary64} (h : c.Places key v) (h' : c.Places key v') : v = v' := by
  obtain ⟨n, found, rfl⟩ := h
  obtain ⟨n', found', rfl⟩ := h'
  obtain rfl : n = n' := by simpa [found] using found'
  rfl

/-- Of the rules that are broken only one is the first. -/
theorem FirstBreaks.unique (h : c.FirstBreaks rejection) (h' : c.FirstBreaks rejection') :
    rejection = rejection' := by
  cases h with
  | shape given unnamed =>
    cases h' with
    | shape given' => exact congrArg _ (Option.ext fun t => (given t).trans (given' t).symm)
    | place named => exact absurd named (unnamed _)
    | size named => exact absurd named (unnamed _)
    | arrowEnd named => exact absurd named (unnamed _)
  | place named lacks =>
    cases h' with
    | shape _ unnamed => exact absurd named (unnamed _)
    | place named' => rw [named.unique named']
    | size _ placed => exact absurd placed lacks
    | arrowEnd _ placed => exact absurd placed lacks
  | size named placed wanted =>
    cases h' with
    | shape _ unnamed => exact absurd named (unnamed _)
    | place _ lacks => exact absurd placed lacks
    | size named' => rw [named.unique named']
    | arrowEnd named' =>
      -- an arrow needs no size
      obtain rfl := named.unique named'
      simp at wanted
  | arrowEnd named placed =>
    cases h' with
    | shape _ unnamed => exact absurd named (unnamed _)
    | place _ lacks => exact absurd placed lacks
    | size named' _ wanted =>
      obtain rfl := named.unique named'
      simp at wanted
    | arrowEnd => rfl

/-- There is one specification at most with the values of a command. -/
theorem Describes.unique (h : c.Describes spec) (h' : c.Describes spec') : spec = spec' := by
  have label : spec.label = spec'.label := by
    by_cases labelled : ∃ t, c.params.get .label = some (.text t)
    · obtain ⟨t, found⟩ := labelled
      rw [h.label t found, h'.label t found]
    · have none := not_exists.mp labelled
      rw [h.unlabelled none, h'.unlabelled none]
  have width := Option.ext fun v => (h.width v).trans (h'.width v).symm
  have height := Option.ext fun v => (h.height v).trans (h'.height v).symm
  have endX := Option.ext fun v => (h.endX v).trans (h'.endX v).symm
  have endY := Option.ext fun v => (h.endY v).trans (h'.endY v).symm
  have source := Option.ext fun r => (h.source r).trans (h'.source r).symm
  have target := Option.ext fun r => (h.target r).trans (h'.target r).symm
  have ident := Option.ext fun r => (h.ident r).trans (h'.ident r).symm
  have kind := h.kind.unique h'.kind
  have x := h.x.unique h'.x
  have y := h.y.unique h'.y
  cases spec
  cases spec'
  simp_all only

/-! ### What is looked up -/

/-- What is read of one sort of values is there if and only if a value of that sort is. -/
theorem bind_get_eq_some_iff {α : Type} {read : Value → Option α} {ofSort : α → Value}
    (sorts : ∀ v a, read v = some a ↔ ofSort a = v) {a : α} :
    (c.params.get key).bind read = some a ↔ c.params.get key = some (ofSort a) := by
  simp only [Option.bind_eq_some_iff, sorts, exists_eq_right']

theorem text?_eq_some_iff {t : Text} :
    c.text? key = some t ↔ c.params.get key = some (.text t) :=
  bind_get_eq_some_iff fun v _ => by cases v <;> simp [Value.text?, eq_comm]

theorem number?_eq_some_iff {n : Int64} :
    c.number? key = some n ↔ c.params.get key = some (.number n) :=
  bind_get_eq_some_iff fun v _ => by cases v <;> simp [Value.number?, eq_comm]

theorem reference?_eq_some_iff {r : ShapeRef} :
    c.reference? key = some r ↔ c.params.get key = some (.reference r) :=
  bind_get_eq_some_iff fun v _ => by cases v <;> simp [Value.reference?, eq_comm]

theorem coordinate?_eq_some_iff {v : Binary64} : c.coordinate? key = some v ↔ c.Places key v := by
  rw [coordinate?, Option.map_eq_some_iff]
  exact exists_congr fun n => and_congr number?_eq_some_iff eq_comm

theorem isSome_number?_iff : (c.number? key).isSome ↔ c.HasNumber key := by
  simp only [Option.isSome_iff_exists, number?_eq_some_iff, HasNumber]

theorem isSome_coordinate?_iff : (c.coordinate? key).isSome ↔ c.HasNumber key := by
  rw [coordinate?, Option.isSome_map, isSome_number?_iff]

theorem isSome_reference?_iff : (c.reference? key).isSome ↔ c.HasReference key := by
  simp only [Option.isSome_iff_exists, reference?_eq_some_iff, HasReference]

theorem read?_text?_eq_some_iff :
    (c.text? .shape).bind ShapeKind.read? = some kind ↔ c.Names kind := by
  rw [Option.bind_eq_some_iff]
  constructor
  · rintro ⟨t, found, read⟩
    exact ⟨t, text?_eq_some_iff.mp found, (ShapeKind.name_eq_of_ofName? read).symm⟩
  · rintro ⟨t, found, named⟩
    refine ⟨t, text?_eq_some_iff.mpr found, ?_⟩
    rw [ShapeKind.read?, named, ShapeKind.ofName?_name]

theorem hasArrowEnd_iff : c.hasArrowEnd = true ↔ c.HasEnd := by
  simp only [hasArrowEnd, Bool.or_eq_true, Bool.and_eq_true, isSome_number?_iff,
    isSome_reference?_iff, HasEnd]

theorem lacksSize_iff :
    ((c.coordinate? .width).isNone || (c.coordinate? .height).isNone) = true ↔ ¬ c.HasSize := by
  rw [HasSize, ← isSome_coordinate?_iff, ← isSome_coordinate?_iff]
  cases c.coordinate? .width <;> cases c.coordinate? .height <;> simp

/-! ### What validation answers -/

/-- What is reported is the first rule that is broken. -/
theorem firstBreaks_of_validate (h : c.validate = .error rejection) : c.FirstBreaks rejection := by
  -- the rules are checked in their order, so each failure comes with the rules before it kept
  unfold validate at h
  split at h
  case h_1 unnamed =>
    obtain rfl := Except.error.inj h
    refine .shape (fun t => text?_eq_some_iff) fun kind named => ?_
    rw [read?_text?_eq_some_iff.mpr named] at unnamed
    cases unnamed
  case h_2 kind x y named atX atY =>
    have named := read?_text?_eq_some_iff.mp named
    have placed : c.HasPlace :=
      ⟨isSome_coordinate?_iff.mp (by simp [atX]), isSome_coordinate?_iff.mp (by simp [atY])⟩
    dsimp only at h
    split at h
    case isTrue size =>
      obtain rfl := Except.error.inj h
      obtain ⟨wanted, lacks⟩ := (Bool.and_eq_true _ _).mp size
      exact .size named placed (ShapeKind.needsSize_iff.mp wanted) (lacksSize_iff.mp lacks)
    case isFalse =>
      split at h
      case isTrue ends =>
        obtain rfl := Except.error.inj h
        rw [Bool.and_eq_true, decide_eq_true_eq, Bool.not_eq_true'] at ends
        obtain ⟨rfl, lacks⟩ := ends
        exact .arrowEnd named placed fun ended => by simp [hasArrowEnd_iff.mpr ended] at lacks
      case isFalse => cases h
  case h_3 named lacks =>
    obtain rfl := Except.error.inj h
    refine .place (read?_text?_eq_some_iff.mp named) fun ⟨atX, atY⟩ => ?_
    obtain ⟨x, atX⟩ := Option.isSome_iff_exists.mp (isSome_coordinate?_iff.mpr atX)
    obtain ⟨y, atY⟩ := Option.isSome_iff_exists.mp (isSome_coordinate?_iff.mpr atY)
    exact lacks x y atX atY

/-- What is accepted has the values of the command. -/
theorem describes_of_validate (h : c.validate = .ok spec) : c.Describes spec := by
  unfold validate at h
  split at h
  case h_1 => cases h
  case h_2 kind x y named atX atY =>
    dsimp only at h
    split at h
    case isTrue => cases h
    case isFalse =>
      split at h
      case isTrue => cases h
      case isFalse =>
        obtain rfl := Except.ok.inj h
        exact {
          kind := read?_text?_eq_some_iff.mp named
          x := coordinate?_eq_some_iff.mp atX
          y := coordinate?_eq_some_iff.mp atY
          width := fun _ => coordinate?_eq_some_iff
          height := fun _ => coordinate?_eq_some_iff
          label := fun t found => by simp [text?_eq_some_iff.mpr found]
          unlabelled := fun absent => by
            have unread : c.text? .label = none := Option.eq_none_iff_forall_ne_some.mpr
              fun t found => absent t (text?_eq_some_iff.mp found)
            simp [unread]
          endX := fun _ => coordinate?_eq_some_iff
          endY := fun _ => coordinate?_eq_some_iff
          source := fun _ => reference?_eq_some_iff
          target := fun _ => reference?_eq_some_iff
          ident := fun _ => reference?_eq_some_iff }
  case h_3 => cases h

theorem Places.hasNumber {v : Binary64} (h : c.Places key v) : c.HasNumber key := by
  obtain ⟨n, found, -⟩ := h
  exact ⟨n, found⟩

namespace Describes

variable (h : c.Describes spec)

include h

theorem hasPlace : c.HasPlace := ⟨h.x.hasNumber, h.y.hasNumber⟩

theorem hasSize (width : spec.width.isSome) (height : spec.height.isSome) : c.HasSize := by
  obtain ⟨w, width⟩ := Option.isSome_iff_exists.mp width
  obtain ⟨v, height⟩ := Option.isSome_iff_exists.mp height
  exact ⟨((h.width w).mp width).hasNumber, ((h.height v).mp height).hasNumber⟩

theorem hasEnd
    (ends : spec.endX.isSome ∧ spec.endY.isSome ∨ spec.source.isSome ∧ spec.target.isSome) :
    c.HasEnd := by
  simp only [Option.isSome_iff_exists] at ends
  rcases ends with ⟨⟨x, endX⟩, y, endY⟩ | ⟨⟨r, source⟩, r', target⟩
  · exact .inl ⟨((h.endX x).mp endX).hasNumber, ((h.endY y).mp endY).hasNumber⟩
  · exact .inr ⟨⟨r, (h.source r).mp source⟩, r', (h.target r').mp target⟩

/-- A command with the values of a complete specification breaks no rule. -/
theorem not_firstBreaks (complete : spec.IsComplete) : ¬ c.FirstBreaks rejection := by
  intro breaks
  cases breaks with
  | shape _ unnamed => exact unnamed _ h.kind
  | place _ lacks => exact lacks h.hasPlace
  | size named _ wanted lacks =>
    obtain rfl := named.unique h.kind
    obtain ⟨width, height⟩ := complete.size wanted
    exact lacks (h.hasSize width height)
  | arrowEnd named _ lacks => exact lacks (h.hasEnd (complete.arrowEnd (h.kind.unique named)))

end Describes

/-- **Validation accepts what can be drawn, and names the first rule that is broken.** A rejection
is reported if and only if it is the first rule that the command breaks. A command that breaks none
is accepted, as the one specification that has its values. -/
theorem validate_iff (c : Command) :
    (∀ rejection, c.validate = .error rejection ↔ c.FirstBreaks rejection) ∧
      ∀ spec, c.validate = .ok spec ↔
        (∀ rejection, ¬ c.FirstBreaks rejection) ∧ c.Describes spec := by
  cases answer : c.validate with
  | error reported =>
    have breaks := firstBreaks_of_validate answer
    refine ⟨fun rejection => ⟨fun same => ?_, fun first => ?_⟩, fun spec => ⟨nofun, fun kept => ?_⟩⟩
    · exact Except.error.inj same ▸ breaks
    · rw [breaks.unique first]
    · exact absurd breaks (kept.1 _)
  | ok accepted =>
    have describes := describes_of_validate answer
    have kept : ∀ rejection, ¬ c.FirstBreaks rejection :=
      fun _ => describes.not_firstBreaks (isComplete_of_validate answer)
    refine ⟨fun rejection => ⟨nofun, fun first => ?_⟩,
      fun spec => ⟨fun same => ?_, fun ⟨_, h⟩ => ?_⟩⟩
    · exact absurd first (kept rejection)
    · exact ⟨kept, Except.ok.inj same ▸ describes⟩
    · rw [describes.unique h]

/-- A number under `shape` is no text: the kind is reported, though the place is missing too. -/
example : validate ⟨.create, { shape := some (.number 3) }⟩ = .error (.invalidShapeType none) := by
  decide

end Command

end Whiteboard
