import FieldRules.Proofs.Value.Mapping
import FieldRules.Rule.Merge
import FieldRules.Rule.Normalize

/-!
# Proofs — Merging

The laws of laying rules over one another. They need the link between what a rule holds and what
it provides: `Tracked` says that what a rule does not provide is as in the rule that asks for
nothing. Reading a text or a mapping gives a tracked rule, and so does a merge of tracked rules
(`Derived.tracked`); of tracked rules merging takes one attribute after the other from the last
rule that provides it (`part_mergedWith`), which makes it associative and idempotent, with the
empty rule on either side changing nothing.
-/

namespace FieldRules

/-! ## Parts of a rule -/

/-- What a rule keeps for an attribute. Attributes of markup are joined, not replaced, and have no
part of their own. -/
abbrev Attribute.Part : Attribute → Type
  | .required => Bool
  | .type => Option String
  | .email => Bool
  | .url => Bool
  | .number => Bool
  | .min => Option Int
  | .max => Option Int
  | .minValue => Option Number.Numeric
  | .maxValue => Option Number.Numeric
  | .pattern => Option PatternSpec
  | .validate => Option Handle
  | .label => Option Value
  | .hint => Option Value
  | .placeholder => Option Value
  | .id => Option Value
  | .className => Option Value
  | .attrs => Unit
  | .ui => Option Presentation

namespace Attribute

/-- The list is a set: it stands in the order of all attributes, without repetitions. -/
def IsSet (s : List Attribute) : Prop :=
  s = those fun x => s.contains x

variable {s t : List Attribute}

theorem isSet_those (p : Attribute → Bool) : IsSet (those p) := by
  unfold IsSet
  congr 1
  funext x
  rw [Bool.eq_iff_iff, List.contains_iff_mem, mem_those]

/-- Sets with the same members are the same list. -/
theorem IsSet.ext (hs : IsSet s) (ht : IsSet t) (h : ∀ x, x ∈ s ↔ x ∈ t) : s = t := by
  rw [hs, ht]
  congr 1
  funext x
  rw [Bool.eq_iff_iff, List.contains_iff_mem, List.contains_iff_mem, h]

theorem isSet_union (s t : List Attribute) : IsSet (union s t) :=
  isSet_those _

theorem union_assoc (s t u : List Attribute) : union (union s t) u = union s (union t u) :=
  (isSet_union _ _).ext (isSet_union _ _) fun x => by simp only [mem_union, or_assoc]

theorem nil_union (h : IsSet s) : union [] s = s :=
  (isSet_union _ _).ext h fun x => by simp

theorem union_nil (h : IsSet s) : union s [] = s :=
  (isSet_union _ _).ext h fun x => by simp

theorem union_self (h : IsSet s) : union s s = s :=
  (isSet_union _ _).ext h fun x => by simp

end Attribute

namespace Rule

/-- The part of a rule for an attribute. -/
def part (r : Rule) : (x : Attribute) → x.Part
  | .required => r.required
  | .type => r.type
  | .email => r.email
  | .url => r.url
  | .number => r.number
  | .min => r.min
  | .max => r.max
  | .minValue => r.minValue
  | .maxValue => r.maxValue
  | .pattern => r.pattern
  | .validate => r.validate
  | .label => r.label
  | .hint => r.hint
  | .placeholder => r.placeholder
  | .id => r.id
  | .className => r.className
  | .attrs => ()
  | .ui => r.ui

variable {a b c r s : Rule} {x : Attribute}

/-- A rule is its parts, its attributes of markup, its extras and what it provides. -/
theorem ext_part (hpart : ∀ x, r.part x = s.part x) (hattrs : r.attrs = s.attrs)
    (hextras : r.extras = s.extras) (hprovided : r.provided = s.provided) : r = s := by
  obtain ⟨⟩ := r
  obtain ⟨⟩ := s
  simp only [Rule.mk.injEq]
  exact ⟨hpart .required, hpart .type, hpart .email, hpart .url, hpart .number, hpart .min,
    hpart .max, hpart .minValue, hpart .maxValue, hpart .pattern, hpart .validate, hpart .label,
    hpart .hint, hpart .placeholder, hpart .id, hpart .className, hattrs, hpart .ui, hextras,
    hprovided⟩

/-- Whether an attribute holds something is read off its part. -/
theorem holds_congr (h : r.part x = s.part x) : r.holds x = s.holds x := by
  cases x <;> simp_all [part, holds]

@[simp] theorem not_holds_empty (x : Attribute) : Rule.empty.holds x = false := by
  cases x <;> rfl

/-- **What the upper rule gives replaces what the lower one has.** -/
theorem part_mergedWith (a b : Rule) (x : Attribute) :
    (a.mergedWith b).part x = if x ∈ b.explicit then b.part x else a.part x := by
  cases x <;> simp [part, mergedWith]

theorem provided_mergedWith (a b : Rule) :
    (a.mergedWith b).provided = Attribute.union a.explicit b.explicit := rfl

/-! ## Tracked rules -/

/-- What holds something is provided, if what is not provided is unset. -/
theorem mem_provided_of_holds (hunset : ∀ x, x ∉ r.provided → r.part x = Rule.empty.part x)
    (hx : r.holds x = true) : x ∈ r.provided := by
  by_cases hmem : x ∈ r.provided
  · exact hmem
  · rw [holds_congr (hunset x hmem), not_holds_empty] at hx
    cases hx

/-- A rule gives what it provides, if what is not provided is unset. -/
theorem explicit_eq_provided (hunset : ∀ x, x ∉ r.provided → r.part x = Rule.empty.part x) :
    r.explicit = r.provided := by
  unfold explicit
  split
  · next hempty =>
      rw [List.isEmpty_iff] at hempty
      rw [hempty, Attribute.those, List.filter_eq_nil_iff]
      intro x _ hx
      have hmem := mem_provided_of_holds hunset hx
      rw [hempty] at hmem
      cases hmem
  · rfl

/-- The rule says all it provides: what it does not provide is as in the rule that asks for
nothing. -/
structure Tracked (r : Rule) : Prop where
  isSet : Attribute.IsSet r.provided
  unset : ∀ x, x ∉ r.provided → r.part x = Rule.empty.part x
  attrs : Dict.IsMapping r.attrs
  extras : Dict.IsMapping r.extras

namespace Tracked

theorem mem_provided (h : r.Tracked) (hx : r.holds x = true) : x ∈ r.provided :=
  mem_provided_of_holds h.unset hx

/-- Of a tracked rule, what it provides is known. -/
theorem explicit_eq (h : r.Tracked) : r.explicit = r.provided :=
  explicit_eq_provided h.unset

theorem empty : Rule.empty.Tracked where
  isSet := rfl
  unset _ _ := rfl
  attrs := .nil
  extras := .nil

theorem mergedWith (ha : a.Tracked) (hb : b.Tracked) : (a.mergedWith b).Tracked where
  isSet := Attribute.isSet_union _ _
  unset x hx := by
    rw [provided_mergedWith, Attribute.mem_union, not_or, ha.explicit_eq, hb.explicit_eq] at hx
    rw [part_mergedWith, hb.explicit_eq, if_neg hx.2, ha.unset x hx.1]
  attrs := ha.attrs.union hb.attrs
  extras := ha.extras.union hb.extras

end Tracked

/-! ## The laws -/

/-- What a merge provides is what its two sides provide. -/
theorem explicit_mergedWith (ha : a.Tracked) (hb : b.Tracked) :
    (a.mergedWith b).explicit = Attribute.union a.explicit b.explicit :=
  (ha.mergedWith hb).explicit_eq

theorem mergedWith_assoc (ha : a.Tracked) (hb : b.Tracked) (hc : c.Tracked) :
    (a.mergedWith b).mergedWith c = a.mergedWith (b.mergedWith c) := by
  refine ext_part (fun x => ?_) (Dict.union_assoc ha.attrs hb.attrs hc.attrs)
    (Dict.union_assoc ha.extras hb.extras hc.extras) ?_
  · simp only [part_mergedWith, explicit_mergedWith hb hc, Attribute.mem_union]
    -- the last of the three rules that gives the attribute decides
    by_cases hxc : x ∈ c.explicit <;> simp [hxc]
  · simp only [provided_mergedWith, explicit_mergedWith ha hb, explicit_mergedWith hb hc,
      Attribute.union_assoc]

theorem empty_mergedWith (ha : a.Tracked) : Rule.empty.mergedWith a = a := by
  refine ext_part (fun x => ?_) (Dict.nil_union ha.attrs) (Dict.nil_union ha.extras) ?_
  · rw [part_mergedWith, ha.explicit_eq]
    split
    · rfl
    · next hx => exact (ha.unset x hx).symm
  · rw [provided_mergedWith, Tracked.empty.explicit_eq, ha.explicit_eq]
    exact Attribute.nil_union ha.isSet

theorem mergedWith_empty (ha : a.Tracked) : a.mergedWith Rule.empty = a := by
  refine ext_part (fun x => ?_) rfl rfl ?_
  · rw [part_mergedWith, Tracked.empty.explicit_eq]
    rfl
  · rw [provided_mergedWith, Tracked.empty.explicit_eq, ha.explicit_eq]
    exact Attribute.union_nil ha.isSet

theorem mergedWith_self (ha : a.Tracked) (hattrs : Dict.IsReflexive a.attrs)
    (hextras : Dict.IsReflexive a.extras) : a.mergedWith a = a := by
  refine ext_part (fun x => ?_) (Dict.union_self ha.attrs hattrs)
    (Dict.union_self ha.extras hextras) ?_
  · rw [part_mergedWith, ite_self]
  · rw [provided_mergedWith, ha.explicit_eq]
    exact Attribute.union_self ha.isSet

/-! ## Rules from texts -/

/-- What no token sets. -/
def beyondTokens (r : Rule) : List (Option Value) × Dict × Dict × List Attribute :=
  ([r.label, r.hint, r.placeholder, r.id, r.className], r.attrs, r.extras, r.provided)

theorem beyondTokens_apply (r : Rule) (t : Token) : (r.apply t).beyondTokens = r.beyondTokens := by
  cases t with
  | pattern source =>
      by_cases hsource : source.isEmpty = true <;> simp [apply, hsource, beyondTokens]
  | _ => rfl

theorem beyondTokens_applyTokens {tokens : List (List Char)}
    (h : (applyTokens tokens r).outcome = .ok s) : s.beyondTokens = r.beyondTokens := by
  induction tokens generalizing r with
  | nil =>
      cases h
      rfl
  | cons cs rest ih =>
      rw [outcome_applyTokens_cons, bind_eq_ok] at h
      obtain ⟨token, -, hrest⟩ := h
      rw [ih hrest, beyondTokens_apply]

/-- An attribute that holds nothing is unset, in a rule made of tokens. -/
theorem part_of_not_holds (h : r.beyondTokens = Rule.empty.beyondTokens)
    (hx : r.holds x = false) : r.part x = Rule.empty.part x := by
  simp only [beyondTokens, Rule.empty, Prod.mk.injEq, List.cons.injEq] at h
  cases x <;> simp_all [part, holds, Rule.empty]

theorem part_withProvided (r : Rule) (provided : List Attribute) (x : Attribute) :
    part { r with provided } x = r.part x := by
  cases x <;> rfl

/-- The rule of a text gives what it holds. -/
theorem mem_explicit_ofText {text : String} (h : (ofText text).outcome = .ok r) :
    x ∈ r.explicit ↔ r.holds x = true := by
  simp only [ofText, Traced.outcome_bind_eq_ok, Traced.outcome_pure, Except.ok.injEq] at h
  obtain ⟨q, hq, rfl⟩ := h
  have hbeyond := beyondTokens_applyTokens hq
  simp only [beyondTokens, Rule.empty, Prod.mk.injEq] at hbeyond
  have hexplicit : q.explicit = Attribute.those q.holds := by simp [explicit, hbeyond]
  have hholds (y : Attribute) : holds { q with provided := q.explicit } y = q.holds y :=
    holds_congr (part_withProvided q _ y)
  have hthose : explicit { q with provided := q.explicit } = Attribute.those q.holds := by
    rw [explicit, funext hholds, hexplicit, ite_self]
  rw [hthose, hholds, Attribute.mem_those]

theorem tracked_ofText {text : String} (h : (ofText text).outcome = .ok r) : r.Tracked := by
  simp only [ofText, Traced.outcome_bind_eq_ok, Traced.outcome_pure, Except.ok.injEq] at h
  obtain ⟨q, hq, rfl⟩ := h
  have hbeyond := beyondTokens_applyTokens hq
  have hq' := hbeyond
  simp only [beyondTokens, Rule.empty, Prod.mk.injEq] at hq'
  obtain ⟨-, hattrs, hextras, hprovided⟩ := hq'
  have hexplicit : q.explicit = Attribute.those q.holds := by simp [explicit, hprovided]
  constructor
  · rw [hexplicit]
    exact Attribute.isSet_those _
  · intro x hx
    rw [hexplicit, Attribute.mem_those, Bool.not_eq_true] at hx
    rw [part_withProvided, part_of_not_holds hbeyond hx]
  · rw [hattrs]
    exact .nil
  · rw [hextras]
    exact .nil

/-! ## Rules from mappings -/

theorem mem_providedBy {d : Dict} :
    x ∈ providedBy d ↔ isGiven d x = true ∨ x ∈ Attribute.formats ∧ isGiven d .type = true := by
  simp [providedBy]

theorem not_isGiven {d : Dict} :
    isGiven d x = false ↔ ∀ name ∈ x.spellings, d.given? name = none := by
  simp [isGiven]

theorem getD_of_not_given {d : Dict} {name : String} (h : d.given? name = none) :
    d.getD name = .null := by
  unfold Dict.given? at h
  unfold Dict.getD
  cases hget : d.get? name with
  | none => rfl
  | some v =>
      rw [hget] at h
      cases v <;> simp_all [Value.present?]

theorem declaredType_of_not_given {d : Dict} {type : Option String}
    (h : declaredType d = .ok type) (hgiven : d.given? "type" = none) : type = none := by
  rw [declaredType, hgiven] at h
  exact (Except.ok.inj h).symm

theorem optionalBound_of_not_given {α : Type} {read : Value → Except Fault (Option α)}
    {v? : Option Value} {bound : Option α} (h : Value.optionalBound read v? = .ok bound)
    (hgiven : v? = none) : bound = none := by
  rw [hgiven] at h
  exact (Except.ok.inj h).symm

/-- A format is off that is neither given nor declared. -/
theorem formatOf_of_not_given {d : Dict} {name : String} (h : d.getD name = .null) :
    formatOf d name none = false := by
  rw [formatOf, h]
  rfl

/-- What a mapping does not provide is unset. -/
theorem unset_ofDict {d : Dict} (h : ofDict d = .ok r) (hx : x ∉ r.provided) :
    r.part x = Rule.empty.part x := by
  simp only [ofDict, bind_eq_ok] at h
  obtain ⟨type, htype, min, hmin, max, hmax, minValue, hminValue, maxValue, hmaxValue, h⟩ := h
  obtain rfl := Except.ok.inj h
  rw [mem_providedBy, not_or, not_and, Bool.not_eq_true, Bool.not_eq_true] at hx
  have hgiven := not_isGiven.mp hx.1
  have hfirst : d.firstGiven? x.spellings = none := List.findSome?_eq_none_iff.mpr hgiven
  have hvalue : ∀ name ∈ x.spellings, d.getD name = .null := fun name hname =>
    getD_of_not_given (hgiven name hname)
  -- a format that is not provided has no declared type to follow
  have hformat : x ∈ Attribute.formats → type = none := fun hmem =>
    declaredType_of_not_given htype (not_isGiven.mp (hx.2 hmem) "type" (.head _))
  cases x with
  | required => exact congrArg Value.truthy (hvalue "required" (.head _))
  | type => exact declaredType_of_not_given htype (hgiven "type" (.head _))
  | email =>
      obtain rfl := hformat (by simp [Attribute.formats])
      exact formatOf_of_not_given (hvalue "email" (.head _))
  | url =>
      obtain rfl := hformat (by simp [Attribute.formats])
      exact formatOf_of_not_given (hvalue "url" (.head _))
  | number =>
      obtain rfl := hformat (by simp [Attribute.formats])
      exact formatOf_of_not_given (hvalue "number" (.head _))
  | min => exact optionalBound_of_not_given hmin hfirst
  | max => exact optionalBound_of_not_given hmax hfirst
  | minValue => exact optionalBound_of_not_given hminValue hfirst
  | maxValue => exact optionalBound_of_not_given hmaxValue hfirst
  | pattern => exact congrArg Value.patternSpec? (hvalue "pattern" (.head _))
  | validate => exact congrArg Value.function? (hvalue "validate" (.head _))
  | label => exact hgiven "label" (.head _)
  | hint => exact hgiven "hint" (.head _)
  | placeholder => exact hgiven "placeholder" (.head _)
  | id => exact hgiven "id" (.head _)
  | className => exact hfirst
  | attrs => rfl
  | ui => exact congrArg Value.presentation? (hvalue "ui" (.head _))

/-- The mapping that a mapping gives for attributes of markup. -/
def markupAttributes (d : Dict) : Dict :=
  (d.getD "attrs").dict?.getD []

/-- What a rule has beside its parts, of the rule of a mapping. -/
theorem beyondParts_ofDict {d : Dict} (h : ofDict d = .ok r) :
    r.attrs = markupAttributes d ∧ r.extras = d.without knownKeys ∧ r.provided = providedBy d := by
  simp only [ofDict, bind_eq_ok] at h
  obtain ⟨type, -, min, -, max, -, minValue, -, maxValue, -, h⟩ := h
  obtain rfl := Except.ok.inj h
  exact ⟨rfl, rfl, rfl⟩

/-- The rule of a mapping gives what the mapping provides. -/
theorem explicit_ofDict {d : Dict} (h : ofDict d = .ok r) : r.explicit = providedBy d := by
  rw [explicit_eq_provided fun _ => unset_ofDict h, (beyondParts_ofDict h).2.2]

theorem tracked_ofDict {d : Dict} (hd : d.IsMapping) (hattrs : (markupAttributes d).IsMapping)
    (h : ofDict d = .ok r) : r.Tracked := by
  obtain ⟨hmarkup, hextras, hprovided⟩ := beyondParts_ofDict h
  constructor
  · rw [hprovided]
    exact Attribute.isSet_those _
  · exact fun _ => unset_ofDict h
  · rw [hmarkup]
    exact hattrs
  · rw [hextras]
    exact hd.filter _

/-! ## Derived rules -/

/-- The rules that come from texts and mappings, and from merging such rules. -/
inductive Derived : Rule → Prop
  | text {s : String} {r : Rule} (h : (normalize (.text s)).outcome = .ok r) : Derived r
  | mapping {d : Dict} {r : Rule} (hd : d.IsMapping) (hattrs : (markupAttributes d).IsMapping)
      (h : (normalize (.dict d)).outcome = .ok r) : Derived r
  | merged {a b : Rule} (ha : Derived a) (hb : Derived b) : Derived (a.mergedWith b)

theorem Derived.tracked (h : Derived r) : r.Tracked := by
  induction h with
  | text h =>
      unfold normalize at h
      split at h
      · exact tracked_ofText h
      · cases h
        exact .empty
  | mapping hd hattrs h =>
      unfold normalize at h
      split at h
      · exact tracked_ofDict hd hattrs h
      · cases h
        exact .empty
  | merged ha hb iha ihb => exact iha.mergedWith ihb

/-- **The laws of merging** derived rules. They are equalities of everything a rule has: its parts,
the entries of its mappings in their order, and what it provides. -/
theorem mergedWith_laws (ha : Derived a) (hb : Derived b) (hc : Derived c) :
    (a.mergedWith b).mergedWith c = a.mergedWith (b.mergedWith c) ∧
    Rule.empty.mergedWith a = a ∧ a.mergedWith Rule.empty = a ∧
    (Dict.IsReflexive a.attrs → Dict.IsReflexive a.extras → a.mergedWith a = a) ∧
    ∀ x, a.holds x = true → x ∈ a.explicit := by
  have hatracked := ha.tracked
  refine ⟨mergedWith_assoc hatracked hb.tracked hc.tracked, empty_mergedWith hatracked,
    mergedWith_empty hatracked, mergedWith_self hatracked, fun x hx => ?_⟩
  rw [hatracked.explicit_eq]
  exact hatracked.mem_provided hx

/-- The rule of the text `required|min:5`. -/
def lengthRule : Rule :=
  { Rule.empty with required := true, min := some 5, provided := [.required, .min] }

def nickEntries : Dict :=
  [(.text "required", .bool false), (.text "label", .text "Nick"),
    (.text "attrs", .dict [(.text "maxlength", .int 9)]), (.text "step", .int 1)]

/-- The rule of `nickEntries`, which refuses to be required. -/
def nickRule : Rule :=
  { Rule.empty with
    label := some (.text "Nick"), attrs := [(.text "maxlength", .int 9)],
    extras := [(.text "step", .int 1)], provided := [.required, .label, .attrs] }

/-- A text, a mapping and a merge of the two. -/
theorem mergedWith_laws_nick :
    (lengthRule.mergedWith nickRule).mergedWith (nickRule.mergedWith lengthRule) =
      lengthRule.mergedWith (nickRule.mergedWith (nickRule.mergedWith lengthRule)) ∧
    Rule.empty.mergedWith lengthRule = lengthRule ∧ nickRule.mergedWith nickRule = nickRule ∧
    Attribute.min ∈ lengthRule.explicit := by
  have hlength : Derived lengthRule := .text (s := "required|min:5") rfl
  have hentries : nickEntries.IsMapping := by
    constructor <;> simp [nickEntries, Dict.IsKeyed, Dict.keys, Value.isKey, Value.same]
  have hmarkup : (markupAttributes nickEntries).IsMapping := by
    have hvalue : markupAttributes nickEntries = [(.text "maxlength", .int 9)] := rfl
    constructor <;> simp [hvalue, Dict.IsKeyed, Dict.keys, Value.isKey]
  have hnick : Derived nickRule := .mapping hentries hmarkup rfl
  have hattrs : Dict.IsReflexive nickRule.attrs := by
    simp [nickRule, Dict.IsReflexive, Value.same]
  have hextras : Dict.IsReflexive nickRule.extras := by
    simp [nickRule, Dict.IsReflexive, Value.same]
  obtain ⟨hassoc, hempty, -, -, hexplicit⟩ :=
    mergedWith_laws hlength hnick (hnick.merged hlength)
  obtain ⟨-, -, -, hself, -⟩ := mergedWith_laws hnick hlength hlength
  exact ⟨hassoc, hempty, hself hattrs hextras, hexplicit .min rfl⟩

end Rule
end FieldRules
