import FieldRules.Form.Builder
import FieldRules.Proofs.Rule.Merging
import FieldRules.Proofs.Rule.Sources
import FieldRules.Proofs.Validation.Outcome

/-!
# Proofs — Layering

How the rules of an entry lie over the entry. What the rules give replaces what the entry has
(`part_layered`); a mapping gives what it has keys for, and a text what its rule holds. So a type
that a mapping declares brings all three formats with it and takes those of the entry away, while
a text leaves the formats of the entry on (`fieldRule_formats`).
-/

namespace FieldRules

open Builder (fieldRule entryPresentation)

variable {entry : Dict} {b q r : Rule} {x : Attribute}

/-! ## Layers -/

namespace Rule

/-- The rule `q` over the rule `b` of an entry, with the presentation of the entry. -/
def layered (entry : Dict) (b q : Rule) : Rule :=
  { b.mergedWith q with ui := entryPresentation entry }

/-- **What the rules give replaces what the entry has.** -/
theorem part_layered (hx : x ≠ .ui) :
    (layered entry b q).part x = if x ∈ q.explicit then q.part x else b.part x := by
  rw [← part_mergedWith]
  cases x <;> first | rfl | exact absurd rfl hx

theorem provided_layered (entry : Dict) (b q : Rule) :
    (layered entry b q).provided = Attribute.union b.explicit q.explicit := rfl

/-- The rules of a text replace what they hold. -/
theorem part_layered_text {s : String} (h : (normalize (.text s)).outcome = .ok q) (hx : x ≠ .ui) :
    (layered entry b q).part x = if q.holds x = true then q.part x else b.part x := by
  rw [outcome_normalize_text] at h
  simp only [part_layered hx, mem_explicit_ofText h]

/-- The rules of a mapping replace what the mapping provides. -/
theorem part_layered_dict {d : Dict} (h : (normalize (.dict d)).outcome = .ok q) (hx : x ≠ .ui) :
    (layered entry b q).part x = if x ∈ providedBy d then q.part x else b.part x := by
  rw [outcome_normalize_dict] at h
  rw [part_layered hx, explicit_ofDict h]

end Rule

namespace Builder

/-- **The rule of an entry** is that of its rules over its own. -/
theorem fieldRule_eq_ok :
    (fieldRule entry).outcome = .ok r ↔
      ∃ b q, Rule.ofDict (entry.without ["rules", "ui"]) = .ok b ∧
        (Rule.normalize (entry.getD "rules")).outcome = .ok q ∧ r = Rule.layered entry b q := by
  simp only [fieldRule, Traced.outcome_bind_eq_ok, Traced.outcome_ofExcept, Traced.outcome_pure,
    Except.ok.injEq, Rule.layered]
  constructor
  · rintro ⟨b, hb, q, hq, rfl⟩
    exact ⟨b, q, hb, hq, rfl⟩
  · rintro ⟨b, q, hb, hq, rfl⟩
    exact ⟨b, hb, q, hq, rfl⟩

end Builder

/-! ## Formats -/

namespace Rule

/-- The format that the rule asks for: the first that is on. -/
def format? (r : Rule) : Option Constraint :=
  if r.email then some .email else if r.url then some .url else if r.number then some .number
    else none

/-- The format checks of a rule are those of its format. -/
theorem formatChecks_eq_format? (r : Rule) :
    r.formatChecks = (r.format?.map r.ownCheck).toList := by
  rw [formatChecks_eq, format?]
  split
  · rfl
  · split
    · rfl
    · split <;> rfl

theorem format?_congr (h : ∀ x ∈ Attribute.formats, r.holds x = q.holds x) :
    r.format? = q.format? := by
  have hemail : r.email = q.email := h .email (by decide)
  have hurl : r.url = q.url := h .url (by decide)
  have hnumber : r.number = q.number := h .number (by decide)
  rw [format?, format?, hemail, hurl, hnumber]

/-- A mapping whose rule has a type declares it. -/
theorem isGiven_type {d : Dict} (h : ofDict d = .ok q) (htype : q.type.isSome = true) :
    isGiven d .type = true := by
  by_contra hnot
  rw [Bool.not_eq_true, not_isGiven] at hnot
  simp only [ofDict, bind_eq_ok] at h
  obtain ⟨type, hdeclared, min, -, max, -, minValue, -, maxValue, -, h⟩ := h
  obtain rfl := Except.ok.inj h
  rw [declaredType_of_not_given hdeclared (hnot "type" (.head _))] at htype
  cases htype

theorem ne_ui_of_format (hx : x ∈ Attribute.formats) : x ≠ .ui := by
  rintro rfl
  simp [Attribute.formats] at hx

/-- A type declared by a mapping takes the formats of the entry away. -/
theorem holds_layered_dict {d : Dict} (h : (normalize (.dict d)).outcome = .ok q)
    (htype : q.type.isSome = true) (hx : x ∈ Attribute.formats) :
    (layered entry b q).holds x = q.holds x := by
  have htype' := isGiven_type (outcome_normalize_dict d ▸ h) htype
  have hmem : x ∈ providedBy d := mem_providedBy.mpr (.inr ⟨hx, htype'⟩)
  exact holds_congr (by rw [part_layered_dict h (ne_ui_of_format hx), if_pos hmem])

/-- A text leaves the formats of the entry on. -/
theorem holds_layered_text {s : String} (h : (normalize (.text s)).outcome = .ok q)
    (hx : x ∈ Attribute.formats) :
    (layered entry b q).holds x = (q.holds x || b.holds x) := by
  have hpart : (layered entry b q).part x = if q.holds x = true then q.part x else b.part x :=
    part_layered_text h (ne_ui_of_format hx)
  by_cases hq : q.holds x = true
  · rw [if_pos hq] at hpart
    rw [holds_congr hpart, hq, Bool.true_or]
  · rw [if_neg hq] at hpart
    rw [holds_congr hpart, Bool.eq_false_iff.mpr hq, Bool.false_or]

/-- The type is that of the rules if they set one. -/
theorem type_layered (h : Attribute.type ∈ q.explicit) : (layered entry b q).type = q.type := by
  have hpart : (layered entry b q).part .type = q.part .type := by
    rw [part_layered (by decide), if_pos h]
  exact hpart

end Rule

open Rule (layered)

/-- **The format of a field whose rules set a type.** If the rules are a mapping, the formats of the
field are those of the rules alone, and the format that is checked is the one that they ask for. If
they are a text, the type is theirs, but every format that the entry brings stays on beside those of
the rules; so the formats are those of the rules just if the entry brings no further one. -/
theorem Builder.fieldRule_formats
    (hbase : Rule.ofDict (entry.without ["rules", "ui"]) = .ok b)
    (hrules : (Rule.normalize (entry.getD "rules")).outcome = .ok q)
    (htype : q.type.isSome = true) :
    ∃ r, (fieldRule entry).outcome = .ok r ∧
      (∀ d, entry.getD "rules" = .dict d →
        r.type = q.type ∧ (∀ x ∈ Attribute.formats, r.holds x = q.holds x) ∧
          r.formatChecks = (q.format?.map r.ownCheck).toList) ∧
      ∀ s, entry.getD "rules" = .text s →
        r.type = q.type ∧ (∀ x ∈ Attribute.formats, r.holds x = (q.holds x || b.holds x)) ∧
          ((∀ x ∈ Attribute.formats, r.holds x = q.holds x) ↔
            ∀ x ∈ Attribute.formats, b.holds x = true → q.holds x = true) ∧
          ((∀ x ∈ Attribute.formats, b.holds x = true → q.holds x = true) →
            r.formatChecks = (q.format?.map r.ownCheck).toList) := by
  refine ⟨layered entry b q, fieldRule_eq_ok.mpr ⟨b, q, hbase, hrules, rfl⟩, fun d hd => ?_,
    fun s hs => ?_⟩
  · rw [hd] at hrules
    have hformats {x : Attribute} (hx : x ∈ Attribute.formats) :
        (layered entry b q).holds x = q.holds x :=
      Rule.holds_layered_dict hrules htype hx
    refine ⟨Rule.type_layered ?_, fun _ => hformats, ?_⟩
    · rw [Rule.outcome_normalize_dict] at hrules
      rw [Rule.explicit_ofDict hrules]
      exact Rule.mem_providedBy.mpr (.inl (Rule.isGiven_type hrules htype))
    · rw [Rule.formatChecks_eq_format?, Rule.format?_congr fun _ => hformats]
  · rw [hs] at hrules
    have hformats {x : Attribute} (hx : x ∈ Attribute.formats) :
        (layered entry b q).holds x = (q.holds x || b.holds x) :=
      Rule.holds_layered_text hrules hx
    have hsame : (∀ x ∈ Attribute.formats, (layered entry b q).holds x = q.holds x) ↔
        ∀ x ∈ Attribute.formats, b.holds x = true → q.holds x = true := by
      refine forall₂_congr fun x hx => ?_
      rw [hformats hx]
      cases q.holds x <;> cases b.holds x <;> decide
    refine ⟨Rule.type_layered ?_, fun _ => hformats, hsame, fun h => ?_⟩
    · rw [Rule.outcome_normalize_text] at hrules
      exact (Rule.mem_explicit_ofText hrules).mpr htype
    · rw [Rule.formatChecks_eq_format?, Rule.format?_congr (hsame.mpr h)]

/-- An entry of type `email` with further rules. -/
def secretEntry (rules : Value) : Dict :=
  [(.text "name", .text "secret"), (.text "type", .text "email"), (.text "rules", rules)]

/-- A mapping makes the field a password. -/
theorem Builder.fieldRule_formats_mapping : ∃ r,
    (fieldRule (secretEntry (.dict [(.text "type", .text "password")]))).outcome = .ok r ∧
      r.type = some "password" ∧ r.email = false ∧ r.formatChecks = [] := by
  have hbase : Rule.ofDict
      ((secretEntry (.dict [(.text "type", .text "password")])).without ["rules", "ui"]) =
        .ok _ := rfl
  obtain ⟨r, hr, hmapping, -⟩ := fieldRule_formats hbase rfl rfl
  obtain ⟨htype, hformats, hformat⟩ := hmapping _ rfl
  exact ⟨r, hr, htype, hformats .email (by decide), hformat⟩

/-- A text makes the field a password that has to be an address: the format that the type of the
entry stands for outlives the type. -/
theorem Builder.fieldRule_keeps_format : ∃ q r,
    (Rule.normalize ((secretEntry (.text "password")).getD "rules")).outcome = .ok q ∧
      q.type = some "password" ∧ q.email = false ∧ q.format? = none ∧
      (fieldRule (secretEntry (.text "password"))).outcome = .ok r ∧
      r.type = some "password" ∧ r.email = true ∧ r.formatChecks = [r.ownCheck .email] :=
  ⟨_, _, rfl, rfl, rfl, rfl, rfl, rfl, rfl, rfl⟩

end FieldRules
