import Whiteboard.Config
import Whiteboard.Proofs.Tokens

/-!
# Markers that a configuration accepts

A configuration takes what the variables say, and nothing else: the trimmed values, and the defaults
where there are none. It is accepted if its markers are workable and its policy has a name. Workable
markers are found wherever a script has them as words of their own, even if one of them begins with
the other, since the longest one that fits is meant.
-/

namespace Whiteboard

/-! ### Markers as words of their own -/

/-- Markers that stand as tokens in scripts: two different words, without white space and without
terminators. -/
structure Markers.IsWorkable (m : Markers) : Prop where
  opening_ne_nil : m.opening ≠ []
  closing_ne_nil : m.closing ≠ []
  distinct : m.opening ≠ m.closing
  blank : m.Avoids Text.isBlank
  terminator : m.Avoids (· = ';')

namespace Markers

variable {m : Markers} {w : Text}

instance (m : Markers) : Decidable m.IsWorkable :=
  decidable_of_iff
    (m.opening ≠ [] ∧ m.closing ≠ [] ∧ m.opening ≠ m.closing ∧ m.Avoids Text.isBlank ∧
      m.Avoids (· = ';'))
    ⟨fun ⟨opening, closing, distinct, blank, terminator⟩ =>
      ⟨opening, closing, distinct, blank, terminator⟩,
     fun h => ⟨h.opening_ne_nil, h.closing_ne_nil, h.distinct, h.blank, h.terminator⟩⟩

theorem IsWorkable.ne_nil (h : m.IsWorkable) (hw : w = m.opening ∨ w = m.closing) : w ≠ [] := by
  rcases hw with rfl | rfl
  · exact h.opening_ne_nil
  · exact h.closing_ne_nil

/-- A marker is read as itself. -/
theorem tokens_marker (hm : m.Avoids Text.isBlank) (hw : w = m.opening ∨ w = m.closing)
    (hne : w ≠ []) : m.tokens w = [w] := by
  rw [tokens_of_leading? hm (leading?_marker hw hne), List.drop_length, tokens_nil]

/-- Where nothing or white space follows, a text is divided from what follows. -/
theorem tokens_append_of_head? (hm : m.Avoids Text.isBlank) (a : Text) {b : Text}
    (hb : b.head?.all Text.isBlank = true) : m.tokens (a ++ b) = m.tokens a ++ m.tokens b := by
  cases b with
  | nil => simp
  | cons c b =>
    have blank : Text.isBlank c = true := hb
    rw [tokens_append_blank hm blank, ← List.nil_append (c :: b), tokens_append_blank hm blank]
    simp

/-- A text that is empty or ends in white space is divided from what follows. -/
theorem IsWorkable.divides (h : m.IsWorkable) {a : Text}
    (ha : a.getLast?.all Text.isBlank = true) : m.Divides a := by
  cases last : a.getLast? with
  | none =>
    rw [List.getLast?_eq_none_iff.mp last]
    exact divides_nil m
  | some c =>
    have blank : Text.isBlank c = true := by simpa [last] using ha
    refine divides_of_endsInGap h.blank h.terminator ?_
    simp [Text.EndsInGap, last, blank]

end Markers

/-! ### What the variables ask for -/

/-- The name of a policy. -/
def Policy.name : Policy → Text
  | .skip => "skip".toList
  | .unbind => "unbind".toList

namespace Config

variable {lookup : Text → Option Text} {config : Config}

/-- What a variable says, without the white space around it. -/
def value? (lookup : Text → Option Text) (setting : Setting) : Option Text :=
  (lookup setting.name).map (Text.trim Text.isBlank)

/-- The markers that the variables ask for. -/
def markersOf (lookup : Text → Option Text) : Markers where
  opening := (value? lookup .opening).getD ({} : Markers).opening
  closing := (value? lookup .closing).getD ({} : Markers).closing

/-- The name of the policy that the variables ask for. -/
def policyNameOf (lookup : Text → Option Text) : Text :=
  (value? lookup .policy).getD Policy.unbind.name

theorem isUsable_iff {w : Text} :
    isUsable w = true ↔
      w ≠ [] ∧ (∀ c ∈ w, Text.isBlank c = false) ∧ ∀ c ∈ w, decide (c = ';') = false := by
  simp only [isUsable, Bool.and_eq_true, Bool.not_eq_true', List.isEmpty_eq_false_iff,
    List.any_eq_false, List.contains_eq_mem, decide_eq_false_iff_not, Bool.not_eq_true, and_assoc]
  refine and_congr_right fun _ => and_congr_right fun _ => ?_
  exact ⟨fun h c hc => ne_of_mem_of_not_mem hc h, fun h mem => h _ mem rfl⟩

/-- A value is read as a marker if it is usable without the white space around it. -/
theorem readMarker_eq_ok_iff {setting : Setting} {value : Option Text} {default word : Text}
    (hdefault : isUsable default = true) :
    readMarker setting value default = .ok word ↔
      (value.map (Text.trim Text.isBlank)).getD default = word ∧ isUsable word = true := by
  cases value with
  | none =>
    simp only [readMarker, Option.map_none, Option.getD_none, Except.ok.injEq]
    exact ⟨fun h => ⟨h, h ▸ hdefault⟩, And.left⟩
  | some raw =>
    simp only [readMarker, Option.map_some, Option.getD_some]
    by_cases usable : isUsable (raw.trim Text.isBlank) = true
    · rw [if_pos usable, Except.ok.injEq]
      exact ⟨fun h => ⟨h, h ▸ usable⟩, And.left⟩
    · rw [if_neg usable]
      refine ⟨fun h => (nomatch h), ?_⟩
      rintro ⟨rfl, h⟩
      exact absurd h usable

theorem readPolicy_some (raw : Text) :
    readPolicy (some raw) =
      if raw.trim Text.isBlank = Policy.unbind.name then .ok .unbind
      else if raw.trim Text.isBlank = Policy.skip.name then .ok .skip
      else .error (.unknownPolicy (raw.trim Text.isBlank)) := rfl

/-- A value is read as a policy if it is its name, without the white space around it. -/
theorem readPolicy_eq_ok_iff {value : Option Text} {policy : Policy} :
    readPolicy value = .ok policy ↔
      (value.map (Text.trim Text.isBlank)).getD Policy.unbind.name = policy.name := by
  have other : Policy.unbind.name ≠ Policy.skip.name := by decide
  cases value with
  | none => cases policy <;> simp [readPolicy, other]
  | some raw =>
    rw [readPolicy_some, Option.map_some, Option.getD_some]
    split_ifs with unbind skip
    · cases policy <;> simp [unbind, other]
    · cases policy <;> simp [skip, other.symm]
    · cases policy <;> simp [unbind, skip]

/-- A configuration is accepted if all that is read is, and the markers differ. -/
theorem ofLookup_eq_ok_iff_read :
    ofLookup lookup = .ok config ↔
      readMarker .opening (lookup Setting.opening.name) ({} : Markers).opening =
        .ok config.markers.opening ∧
      readMarker .closing (lookup Setting.closing.name) ({} : Markers).closing =
        .ok config.markers.closing ∧
      config.markers.opening ≠ config.markers.closing ∧
      readPolicy (lookup Setting.policy.name) = .ok config.policy := by
  obtain ⟨⟨opening, closing⟩, policy⟩ := config
  simp only [ofLookup, bind, Except.bind, pure, Except.pure]
  -- the first reading that fails ends the others, so they are taken in their order
  cases readMarker .opening (lookup Setting.opening.name) ({} : Markers).opening with
  | error e => simp
  | ok first =>
    cases readMarker .closing (lookup Setting.closing.name) ({} : Markers).closing with
    | error e => simp
    | ok second =>
      by_cases same : first = second
      · simpa [same] using fun opened closed distinct => absurd (opened.symm.trans closed) distinct
      · cases readPolicy (lookup Setting.policy.name) with
        | error e => simp [same]
        | ok read =>
          simp only [same, if_false, Except.ok.injEq, Config.mk.injEq, Markers.mk.injEq]
          constructor
          · rintro ⟨⟨rfl, rfl⟩, rfl⟩
            exact ⟨rfl, rfl, same, rfl⟩
          · rintro ⟨rfl, rfl, -, rfl⟩
            exact ⟨⟨rfl, rfl⟩, rfl⟩

/-- **Which configurations are accepted.** They have the markers and the policy that the variables
ask for, and the markers are workable. -/
theorem ofLookup_eq_ok_iff :
    ofLookup lookup = .ok config ↔
      markersOf lookup = config.markers ∧ policyNameOf lookup = config.policy.name ∧
        config.markers.IsWorkable := by
  rw [ofLookup_eq_ok_iff_read, readMarker_eq_ok_iff (by decide), readMarker_eq_ok_iff (by decide),
    readPolicy_eq_ok_iff, isUsable_iff, isUsable_iff]
  constructor
  · rintro ⟨⟨opening, hopening, blank, mark⟩, ⟨closing, hclosing, blank', mark'⟩, distinct, policy⟩
    exact ⟨congrArg₂ Markers.mk opening closing, policy, hopening, hclosing, distinct,
      ⟨blank, blank'⟩, ⟨mark, mark'⟩⟩
  · rintro ⟨markers, policy, hopening, hclosing, distinct, blank, mark⟩
    exact ⟨⟨congrArg Markers.opening markers, hopening, blank.1, mark.1⟩,
      ⟨congrArg Markers.closing markers, hclosing, blank.2, mark.2⟩, distinct, policy⟩

/-- Markers that a configuration accepts hold neither white space nor terminators. -/
theorem avoids_of_ofLookup (h : ofLookup lookup = .ok config) :
    config.markers.Avoids Text.isBlank ∧ config.markers.Avoids (· = ';') := by
  obtain ⟨-, -, workable⟩ := ofLookup_eq_ok_iff.mp h
  exact ⟨workable.blank, workable.terminator⟩

/-- **Accepted markers work, and working markers are accepted.** The markers of an accepted
configuration are workable, and each of them is one token wherever white space or the end of the
text stands on either side of it. And if the variables ask for workable markers and for a policy, the
configuration with these is accepted. -/
theorem ofLookup_workable (lookup : Text → Option Text) :
    (∀ config, ofLookup lookup = .ok config →
      config.markers.IsWorkable ∧
      ∀ w, w = config.markers.opening ∨ w = config.markers.closing →
        ∀ a b : Text, a.getLast?.all Text.isBlank = true → b.head?.all Text.isBlank = true →
          config.markers.tokens (a ++ w ++ b) =
            config.markers.tokens a ++ [w] ++ config.markers.tokens b) ∧
    ((markersOf lookup).IsWorkable → ∀ policy : Policy, policyNameOf lookup = policy.name →
      ofLookup lookup = .ok ⟨markersOf lookup, policy⟩) := by
  refine ⟨fun config accepted => ?_, fun workable policy named =>
    ofLookup_eq_ok_iff.mpr ⟨rfl, named, workable⟩⟩
  obtain ⟨-, -, workable⟩ := ofLookup_eq_ok_iff.mp accepted
  refine ⟨workable, fun w hw a b ha hb => ?_⟩
  calc config.markers.tokens (a ++ w ++ b)
    _ = config.markers.tokens (a ++ w) ++ config.markers.tokens b :=
      Markers.tokens_append_of_head? workable.blank _ hb
    _ = config.markers.tokens a ++ config.markers.tokens w ++ config.markers.tokens b := by
      rw [workable.divides ha w]
    _ = config.markers.tokens a ++ [w] ++ config.markers.tokens b := by
      rw [Markers.tokens_marker workable.blank hw (workable.ne_nil hw)]

/-- The variables ask for two markers of which one begins with the other, with white space around
them, and for a policy. -/
theorem ofLookup_workable_nested :
    let lookup : Text → Option Text := fun name =>
      if name = Setting.opening.name then some " --\n".toList
      else if name = Setting.closing.name then some "--end".toList
      else some "skip ".toList
    let config : Config := ⟨⟨"--".toList, "--end".toList⟩, .skip⟩
    (markersOf lookup).IsWorkable ∧ policyNameOf lookup = Policy.skip.name ∧
      ofLookup lookup = .ok config ∧
      config.markers.tokens ("a--end\t".toList ++ "--".toList ++ " end".toList) =
        ["a".toList, "--end".toList] ++ ["--".toList] ++ ["end".toList] := by
  intro lookup config
  have workable : (markersOf lookup).IsWorkable := by decide
  have named : policyNameOf lookup = Policy.skip.name := by decide
  obtain ⟨works, accepts⟩ := ofLookup_workable lookup
  have accepted : ofLookup lookup = .ok config := accepts workable .skip named
  obtain ⟨-, found⟩ := works config accepted
  have before : config.markers.tokens "a--end\t".toList = ["a".toList, "--end".toList] := by
    decide +kernel
  have behind : config.markers.tokens " end".toList = ["end".toList] := by decide +kernel
  refine ⟨workable, named, accepted, ?_⟩
  rw [found _ (.inl rfl) _ _ (by decide) (by decide), before, behind]

end Config

end Whiteboard
