import FieldRules.Proofs.Form.Layering
import FieldRules.Proofs.Rule.Forms
import FieldRules.Proofs.Rule.Normalization

/-!
# Proofs — Dropping

What becomes of a constraint of an entry under rules that normalizing drops. A mapping provides the
attributes that it has keys for, whatever their values: so a value that stands for no bound,
pattern or function, under the key that counts, leaves the field without the constraint, and
apart from that the rule is the one without the key (`fieldRule_dropped`). A text provides what
its rule holds, and whatever it drops leaves the constraint of the entry in force.
-/

namespace FieldRules

open Builder (fieldRule)
open Rule (layered)

variable {entry d rest : Dict} {b q r : Rule} {a x : Attribute} {key : String} {v raw : Value}

/-! ## Entries with other rules -/

namespace Builder

/-- The rule of an entry with the given rules. -/
theorem fieldRule_set_eq_ok :
    (fieldRule (entry.set "rules" raw)).outcome = .ok r ↔
      ∃ b q, Rule.ofDict (entry.without ["rules", "ui"]) = .ok b ∧
        (Rule.normalize raw).outcome = .ok q ∧ r = layered entry b q := by
  have hlayered (b q : Rule) : layered (entry.set "rules" raw) b q = layered entry b q := by
    rw [layered, layered, entryPresentation, entryPresentation, Dict.getD_set]
    rfl
  have hbase : (entry.set "rules" raw).without ["rules", "ui"] =
      entry.without ["rules", "ui"] :=
    Dict.without_insert (by simp) entry raw
  simp only [fieldRule_eq_ok, hbase, Dict.getD_set, if_true, hlayered]

end Builder

/-! ## Mappings with the same values -/

namespace Rule

/-- The parts of the rules of two mappings that give the same are the same. -/
theorem part_ofDict_congr (hq : ofDict d = .ok q) (hr : ofDict rest = .ok r)
    (hfirst : d.firstGiven? x.spellings = rest.firstGiven? x.spellings)
    (htype : d.given? "type" = rest.given? "type") : q.part x = r.part x := by
  simp only [ofDict, bind_eq_ok] at hq hr
  obtain ⟨type, htypeD, min, hmin, max, hmax, minValue, hminValue, maxValue, hmaxValue, hq⟩ := hq
  obtain ⟨type', htypeR, min', hmin', max', hmax', minValue', hminValue', maxValue', hmaxValue',
    hr⟩ := hr
  obtain rfl := Except.ok.inj hq
  obtain rfl := Except.ok.inj hr
  have hdeclared : type = type' := by
    rw [declaredType, htype] at htypeD
    exact Except.ok.inj (htypeD.symm.trans htypeR)
  have hgiven (name : String) (hname : x.spellings = [name]) : d.getD name = rest.getD name := by
    rw [Dict.getD_eq, Dict.getD_eq, ← hname, hfirst]
  have hread {α : Type} {read : Value → Except Fault (Option α)} {b b' : Option α}
      (hb : Value.optionalBound read (d.firstGiven? x.spellings) = .ok b)
      (hb' : Value.optionalBound read (rest.firstGiven? x.spellings) = .ok b') : b = b' := by
    rw [hfirst] at hb
    exact Except.ok.inj (hb.symm.trans hb')
  have hformat (name : String) (hname : x.spellings = [name]) :
      formatOf d name type = formatOf rest name type' := by
    rw [formatOf, formatOf, hgiven name hname, hdeclared]
  have hsingle (name : String) (hname : x.spellings = [name]) :
      d.given? name = rest.given? name := by
    rw [hname, Dict.firstGiven?_singleton, Dict.firstGiven?_singleton] at hfirst
    exact hfirst
  cases x with
  | required => exact congrArg Value.truthy (hgiven "required" rfl)
  | type => exact hdeclared
  | email => exact hformat "email" rfl
  | url => exact hformat "url" rfl
  | number => exact hformat "number" rfl
  | min => exact hread hmin hmin'
  | max => exact hread hmax hmax'
  | minValue => exact hread hminValue hminValue'
  | maxValue => exact hread hmaxValue hmaxValue'
  | pattern => exact congrArg Value.patternSpec? (hgiven "pattern" rfl)
  | validate => exact congrArg Value.function? (hgiven "validate" rfl)
  | label => exact hsingle "label" rfl
  | hint => exact hsingle "hint" rfl
  | placeholder => exact hsingle "placeholder" rfl
  | id => exact hsingle "id" rfl
  | className => exact hfirst
  | attrs => rfl
  | ui => exact congrArg Value.presentation? (hgiven "ui" rfl)

end Rule

/-! ## Dropped values -/

/-- The value stands for no bound, no pattern or no function, so it is dropped. -/
def Attribute.Drops : Attribute → Value → Prop
  | .min, v => v.length? = .ok none
  | .max, v => v.length? = .ok none
  | .minValue, v => v.limit? = .ok none
  | .maxValue, v => v.limit? = .ok none
  | .pattern, v => v.patternSpec? = none
  | .validate, v => v.function? = none
  | _, _ => False

theorem Attribute.Drops.ne_ui (h : a.Drops v) : a ≠ .ui := by
  rintro rfl
  cases h

theorem Attribute.Drops.not_mem_formats (h : a.Drops v) : a ∉ Attribute.formats := by
  intro hmem
  simp only [Attribute.formats, List.mem_cons, List.not_mem_nil, or_false] at hmem
  rcases hmem with rfl | rfl | rfl <;> cases h

namespace Rule

/-- A key that does not count can be left out. -/
theorem firstGiven?_without {names : List String}
    (h : names.find? (fun name => (d.given? name).isSome) ≠ some key) :
    (d.without [key]).firstGiven? names = d.firstGiven? names := by
  induction names with
  | nil => rfl
  | cons name names ih =>
      rw [Dict.firstGiven?, Dict.firstGiven?, List.findSome?_cons, List.findSome?_cons,
        Dict.given?_without]
      rw [List.find?_cons] at h
      cases hgiven : d.given? name with
      | none =>
          rw [hgiven] at h
          rw [ite_self]
          exact ih h
      | some v =>
          rw [hgiven] at h
          have hne : name ∉ [key] := by
            rw [List.mem_singleton]
            exact fun heq => h (congrArg some heq)
          rw [if_neg hne]

/-- Only the attribute of the key is given another value without it, and only if the key counts. -/
theorem firstGiven?_eq_or (hkey : key ∈ a.spellings) (x : Attribute) :
    d.firstGiven? x.spellings = (d.without [key]).firstGiven? x.spellings ∨
      x = a ∧ Counts d a key := by
  by_cases hfind : x.spellings.find? (fun name => (d.given? name).isSome) = some key
  · obtain rfl : x = a := eq_of_mem_spellings (List.mem_of_find?_eq_some hfind) hkey
    exact .inr ⟨rfl, hfind⟩
  · exact .inl (firstGiven?_without hfind).symm

/-- A dropped value leaves the attribute unset. -/
theorem part_of_drops (hdrops : a.Drops v) (h : ofDict d = .ok q)
    (hfirst : d.firstGiven? a.spellings = some v) : q.part a = Rule.empty.part a := by
  simp only [ofDict, bind_eq_ok] at h
  obtain ⟨type, -, min, hmin, max, hmax, minValue, hminValue, maxValue, hmaxValue, h⟩ := h
  obtain rfl := Except.ok.inj h
  have hvalue (name : String) (hname : a.spellings = [name]) : d.getD name = v := by
    rw [Dict.getD_eq, ← hname, hfirst, Option.getD_some]
  have hread {α : Type} {read : Value → Except Fault (Option α)} {b : Option α}
      (hb : Value.optionalBound read (d.firstGiven? a.spellings) = .ok b)
      (hnone : read v = .ok none) : b = none := by
    rw [hfirst] at hb
    exact Except.ok.inj (hb.symm.trans hnone)
  cases a with
  | min => exact hread hmin hdrops
  | max => exact hread hmax hdrops
  | minValue => exact hread hminValue hdrops
  | maxValue => exact hread hmaxValue hdrops
  | pattern => exact (congrArg Value.patternSpec? (hvalue "pattern" rfl)).trans hdrops
  | validate => exact (congrArg Value.function? (hvalue "validate" rfl)).trans hdrops
  | _ => cases hdrops

/-! ## Mappings without a key -/

theorem givesExcess_without {exceeds : List Char → Prop} (hkey : key ∈ a.spellings)
    (hgiven : d.given? key = some v) (h : GivesExcess exceeds d x)
    (hread : x = a → ¬ v.BoundExceeds exceeds) : GivesExcess exceeds (d.without [key]) x := by
  obtain ⟨w, hw, hexceeds⟩ := h
  rcases firstGiven?_eq_or (d := d) hkey x with hsame | ⟨rfl, hcounts⟩
  · exact ⟨w, hsame ▸ hw, hexceeds⟩
  · rw [Dict.firstGiven?_of_find? hcounts, hgiven] at hw
    exact absurd hexceeds (Option.some.inj hw ▸ hread rfl)

section Without

variable (hkey : key ∈ a.spellings) (hdrops : a.Drops v)

include hkey hdrops

theorem given?_type_without : d.given? "type" = (d.without [key]).given? "type" := by
  have hne : "type" ≠ key := by
    rintro rfl
    obtain rfl : Attribute.type = a := eq_of_mem_spellings (.head _) hkey
    cases hdrops
  rw [Dict.given?_without, if_neg (by simpa using hne)]

/-- What is given the same without the key is provided as without it. -/
theorem mem_explicit_without (hq : ofDict d = .ok q) (hr : ofDict (d.without [key]) = .ok r)
    (hsame : d.firstGiven? x.spellings = (d.without [key]).firstGiven? x.spellings) :
    x ∈ q.explicit ↔ x ∈ r.explicit := by
  have htype := given?_type_without hkey hdrops (d := d)
  have hspelled : Attribute.type.spellings = ["type"] := rfl
  simp only [explicit_ofDict hq, explicit_ofDict hr, mem_providedBy, isGiven_eq_isSome, hsame,
    hspelled, Dict.firstGiven?_singleton, htype]

/-- What is given the same without the key is the same in the rule of the entry. -/
theorem part_layered_without (hq : ofDict d = .ok q) (hr : ofDict (d.without [key]) = .ok r)
    (hsame : d.firstGiven? x.spellings = (d.without [key]).firstGiven? x.spellings) :
    (layered entry b q).part x = (layered entry b r).part x := by
  by_cases hx : x = .ui
  · rw [hx]
    rfl
  have hmem := mem_explicit_without hkey hdrops hq hr hsame
  have hpart := part_ofDict_congr hq hr hsame (given?_type_without hkey hdrops)
  simp only [part_layered hx, hmem, hpart]

theorem mem_provided_without (hq : ofDict d = .ok q) (hr : ofDict (d.without [key]) = .ok r)
    (hsame : d.firstGiven? x.spellings = (d.without [key]).firstGiven? x.spellings) :
    x ∈ (layered entry b q).provided ↔ x ∈ (layered entry b r).provided := by
  simp only [provided_layered, Attribute.mem_union, mem_explicit_without hkey hdrops hq hr hsame]

/-- Attributes of markup and extras do not change with the key. -/
theorem beyondParts_without (hq : ofDict d = .ok q) (hr : ofDict (d.without [key]) = .ok r) :
    q.attrs = r.attrs ∧ q.extras = r.extras := by
  obtain ⟨hattrsQ, hextrasQ, -⟩ := beyondParts_ofDict hq
  obtain ⟨hattrsR, hextrasR, -⟩ := beyondParts_ofDict hr
  have hne : "attrs" ≠ key := by
    rintro rfl
    obtain rfl : Attribute.attrs = a := eq_of_mem_spellings (.head _) hkey
    cases hdrops
  have hknown : [key] ⊆ knownKeys := by simpa using mem_knownKeys hkey
  constructor
  · rw [hattrsQ, hattrsR, markupAttributes, markupAttributes, Dict.getD, Dict.getD,
      Dict.get?_without, if_neg (by simpa using hne)]
  · rw [hextrasQ, hextrasR, Dict.without_without hknown]

/-- **A key that does not count makes no difference.** -/
theorem layered_without (hq : ofDict d = .ok q) (hr : ofDict (d.without [key]) = .ok r)
    (hcounts : ¬ Counts d a key) : layered entry b q = layered entry b r := by
  have hsame (x : Attribute) : d.firstGiven? x.spellings =
      (d.without [key]).firstGiven? x.spellings :=
    (firstGiven?_eq_or hkey x).resolve_right fun h => hcounts h.2
  obtain ⟨hattrs, hextras⟩ := beyondParts_without hkey hdrops hq hr
  refine ext_part (fun x => part_layered_without hkey hdrops hq hr (hsame x))
    (congrArg (Dict.union b.attrs) hattrs) (congrArg (Dict.union b.extras) hextras) ?_
  refine (Attribute.isSet_union _ _).ext (Attribute.isSet_union _ _) fun x => ?_
  exact mem_provided_without hkey hdrops hq hr (hsame x)

end Without

/-- What is dropped does not keep a mapping from having a rule. -/
theorem exists_ofDict (hkey : key ∈ a.spellings) (hgiven : d.given? key = some v)
    (hdrops : a.Drops v) (hrest : ofDict (d.without [key]) = .ok r) : ∃ q, ofDict d = .ok q := by
  have hno := ofDict_eq_ok.mp ⟨r, hrest⟩
  rw [ofDict_eq_ok]
  refine fun hexceeds => hno ?_
  have htype := given?_type_without hkey hdrops (d := d)
  rcases hexceeds with h | h | h | h | h
  · exact .inl (htype ▸ h)
  · refine .inr (.inl (givesExcess_without hkey hgiven h ?_))
    rintro rfl
    exact Value.length?_eq_ok.mp ⟨_, hdrops⟩
  · refine .inr (.inr (.inl (givesExcess_without hkey hgiven h ?_)))
    rintro rfl
    exact Value.length?_eq_ok.mp ⟨_, hdrops⟩
  · refine .inr (.inr (.inr (.inl (givesExcess_without hkey hgiven h ?_))))
    rintro rfl
    exact Value.limit?_eq_ok.mp ⟨_, hdrops⟩
  · refine .inr (.inr (.inr (.inr (givesExcess_without hkey hgiven h ?_))))
    rintro rfl
    exact Value.limit?_eq_ok.mp ⟨_, hdrops⟩

/-- **A key that counts takes the constraint of the entry away.** -/
theorem part_layered_counts (hgiven : d.given? key = some v) (hdrops : a.Drops v)
    (hq : ofDict d = .ok q) (hcounts : Counts d a key) :
    (layered entry b q).part a = Rule.empty.part a ∧ a ∈ (layered entry b q).provided := by
  have hfirst := (Dict.firstGiven?_of_find? hcounts).trans hgiven
  have hmem : a ∈ q.explicit := by
    rw [explicit_ofDict hq, mem_providedBy, isGiven_eq_isSome, hfirst]
    exact .inl rfl
  constructor
  · rw [part_layered hdrops.ne_ui, if_pos hmem, part_of_drops hdrops hq hfirst]
  · rw [provided_layered, Attribute.mem_union]
    exact .inr hmem

/-- Without any of its keys the constraint of the entry is in force. -/
theorem part_layered_of_not_given (hdrops : a.Drops v) (hr : ofDict (d.without [key]) = .ok r)
    (hothers : ∀ name ∈ a.spellings, name ≠ key → d.given? name = none) :
    (layered entry b r).part a = b.part a := by
  have hmem : a ∉ r.explicit := by
    rw [explicit_ofDict hr, mem_providedBy, not_or, not_and, Bool.not_eq_true, not_isGiven]
    refine ⟨fun name hname => ?_, fun h => absurd h hdrops.not_mem_formats⟩
    rw [Dict.given?_without]
    by_cases heq : name = key
    · rw [if_pos (by simpa using heq)]
    · rw [if_neg (by simpa using heq), hothers name hname heq]
  rw [part_layered hdrops.ne_ui, if_neg hmem]

end Rule

/-! ## Entries with dropped constraints -/

namespace Builder

/-- **What a mapping drops disarms the entry.** Without a key whose value is dropped the rule of the
entry is the same but for the constraint that the key stands for. With the key the constraint is
unset, and provided so, if the key counts; without it that of the entry is in force, unless another
key for it is given. A key that does not count makes no difference. Rules that are a text leave in
force whatever of the entry they do not set themselves. -/
theorem fieldRule_dropped (hkey : key ∈ a.spellings) (hgiven : d.given? key = some v)
    (hdrops : a.Drops v) (hbase : Rule.ofDict (entry.without ["rules", "ui"]) = .ok b)
    (hrest : Rule.ofDict (d.without [key]) = .ok q) :
    (∃ r r', (fieldRule (entry.set "rules" (.dict d))).outcome = .ok r ∧
      (fieldRule (entry.set "rules" (.dict (d.without [key])))).outcome = .ok r' ∧
      (∀ x, x ≠ a → r.part x = r'.part x ∧ (x ∈ r.provided ↔ x ∈ r'.provided)) ∧
      r.attrs = r'.attrs ∧ r.extras = r'.extras ∧
      (¬ Rule.Counts d a key → r = r') ∧
      (Rule.Counts d a key → (r.part a = Rule.empty.part a ∧ a ∈ r.provided) ∧
        ((∀ name ∈ a.spellings, name ≠ key → d.given? name = none) → r'.part a = b.part a))) ∧
    ∀ s p, (Rule.normalize (.text s)).outcome = .ok p →
      ∃ r, (fieldRule (entry.set "rules" (.text s))).outcome = .ok r ∧
        ∀ x, x ≠ .ui → p.holds x = false → r.part x = b.part x := by
  constructor
  · obtain ⟨p, hp⟩ := Rule.exists_ofDict hkey hgiven hdrops hrest
    obtain ⟨hattrs, hextras⟩ := Rule.beyondParts_without hkey hdrops hp hrest
    have hp' := (Rule.outcome_normalize_dict d).trans hp
    have hq' := (Rule.outcome_normalize_dict (d.without [key])).trans hrest
    refine ⟨layered entry b p, layered entry b q, fieldRule_set_eq_ok.mpr ⟨b, p, hbase, hp', rfl⟩,
      fieldRule_set_eq_ok.mpr ⟨b, q, hbase, hq', rfl⟩, fun x hx => ?_,
      congrArg (Dict.union b.attrs) hattrs, congrArg (Dict.union b.extras) hextras,
      fun hcounts => ?_, fun hcounts => ⟨?_, fun hothers => ?_⟩⟩
    · have hsame : d.firstGiven? x.spellings = (d.without [key]).firstGiven? x.spellings :=
        (Rule.firstGiven?_eq_or hkey x).resolve_right fun h => hx h.1
      exact ⟨Rule.part_layered_without hkey hdrops hp hrest hsame,
        Rule.mem_provided_without hkey hdrops hp hrest hsame⟩
    · exact Rule.layered_without hkey hdrops hp hrest hcounts
    · exact Rule.part_layered_counts hgiven hdrops hp hcounts
    · exact Rule.part_layered_of_not_given hdrops hrest hothers
  · intro s p hp
    refine ⟨layered entry b p, fieldRule_set_eq_ok.mpr ⟨b, p, hbase, hp, rfl⟩,
      fun x hx hholds => ?_⟩
    rw [Rule.part_layered_text hp hx, if_neg (Bool.eq_false_iff.mp hholds)]

/-- An entry that asks for five characters. -/
def nickEntry : Dict :=
  [(.text "name", .text "nick"), (.text "min", .int 5), (.text "pattern", .text "^[a-z]+$")]

/-- An empty pattern under which the pattern of the entry is lost, and a bound in a text under which
the bound of the entry stays. -/
theorem fieldRule_dropped_pattern : ∃ r r' r'',
    (fieldRule (nickEntry.set "rules" (.dict [(.text "pattern", .text "")]))).outcome = .ok r ∧
      (fieldRule (nickEntry.set "rules" (.dict []))).outcome = .ok r' ∧
      (fieldRule (nickEntry.set "rules" (.text "min:few"))).outcome = .ok r'' ∧
      r.pattern = none ∧ r'.pattern = some (.source "^[a-z]+$") ∧ r''.min = some 5 := by
  have hbase : Rule.ofDict (nickEntry.without ["rules", "ui"]) = .ok _ := rfl
  have hgiven : Dict.given? [(.text "pattern", .text "")] "pattern" = some (.text "") := rfl
  have hdrops : Attribute.Drops .pattern (.text "") := rfl
  obtain ⟨⟨r, r', hr, hr', -, -, -, -, hcounts⟩, htext⟩ :=
    fieldRule_dropped (.head _) hgiven hdrops hbase rfl
  obtain ⟨⟨hpattern, -⟩, hothers⟩ := hcounts rfl
  obtain ⟨r'', hr'', hkept⟩ := htext "min:few" _ rfl
  refine ⟨r, r', r'', hr, hr', hr'', hpattern, hothers ?_, hkept .min (by decide) rfl⟩
  simp [Attribute.spellings, Attribute.name]

/-- A bound that does not parse takes the bound of the entry away, and leaves it in force when it
stands in a text. -/
theorem fieldRule_disarmed : ∃ r r' r'',
    (fieldRule (nickEntry.set "rules" (.dict [(.text "min", .text "few")]))).outcome = .ok r ∧
      (fieldRule (nickEntry.set "rules" (.dict []))).outcome = .ok r' ∧
      (fieldRule (nickEntry.set "rules" (.text "min:few"))).outcome = .ok r'' ∧
      r.min = none ∧ r'.min = some 5 ∧ r''.min = some 5 :=
  ⟨_, _, _, rfl, rfl, rfl, rfl, rfl, rfl⟩

end Builder
end FieldRules
