import FieldRules.Proofs.Rule.Merging

/-!
# Proofs — Given

What a mapping gives. An attribute is read off the first of its keys under which a value stands, a
`null` counting as none. The rule of a mapping depends on what is given for each attribute, and on
the entries that no attribute uses (`ofDict_congr`).
-/

namespace FieldRules

variable {d d' : Dict} {name key : String} {names : List String} {v : Value}

theorem Value.present?_eq_some {u : Value} : u.present? = some v ↔ u = v ∧ v ≠ .null := by
  constructor
  · intro h
    cases u with
    | null => cases h
    | _ =>
        cases h
        exact ⟨rfl, nofun⟩
  · rintro ⟨rfl, hnull⟩
    cases u with
    | null => exact absurd rfl hnull
    | _ => rfl

/-! ## Look-up -/

namespace Dict

theorem given?_eq_some (hd : d.IsMapping) :
    d.given? name = some v ↔ (.text name, v) ∈ d ∧ v ≠ .null := by
  simp only [given?, Option.bind_eq_some_iff, Value.present?_eq_some, get?_eq_some hd]
  constructor
  · rintro ⟨u, hu, rfl, hnull⟩
    exact ⟨hu, hnull⟩
  · rintro ⟨hv, hnull⟩
    exact ⟨v, hv, rfl, hnull⟩

theorem present?_getD (d : Dict) (name : String) : (d.getD name).present? = d.given? name := by
  unfold getD given?
  cases d.get? name <;> rfl

theorem has_of_given? (h : (d.given? name).isSome = true) : d.has name = true := by
  obtain ⟨v, hgiven⟩ := Option.isSome_iff_exists.mp h
  obtain ⟨u, hget, -⟩ := Option.bind_eq_some_iff.mp hgiven
  rw [has, hget]
  rfl

theorem given?_without (d : Dict) (names : List String) (name : String) :
    (d.without names).given? name = if name ∈ names then none else d.given? name := by
  rw [given?, given?, get?_without]
  split <;> rfl

theorem given?_set (d : Dict) (key : String) (v : Value) (name : String) :
    (d.set key v).given? name = if key = name then v.present? else d.given? name := by
  rw [given?, given?, get?_set]
  split <;> rfl

theorem firstGiven?_singleton (d : Dict) (key : String) : d.firstGiven? [key] = d.given? key := by
  cases h : d.given? key <;> simp [firstGiven?, h]

theorem getD_eq (d : Dict) (key : String) : d.getD key = (d.firstGiven? [key]).getD .null := by
  rw [firstGiven?_singleton]
  cases hgiven : d.given? key with
  | none => exact Rule.getD_of_not_given hgiven
  | some v =>
      obtain ⟨u, hget, hpresent⟩ := Option.bind_eq_some_iff.mp hgiven
      obtain ⟨rfl, -⟩ := Value.present?_eq_some.mp hpresent
      rw [getD, hget]

theorem firstGiven?_congr (h : ∀ n ∈ names, d.given? n = d'.given? n) :
    d.firstGiven? names = d'.firstGiven? names := by
  induction names with
  | nil => rfl
  | cons n names ih =>
      obtain ⟨hn, hnames⟩ := List.forall_mem_cons.mp h
      have hrest : names.findSome? d.given? = names.findSome? d'.given? := ih hnames
      rw [firstGiven?, firstGiven?, List.findSome?_cons, List.findSome?_cons, hn, hrest]

/-- What stands under the first name that something is given for. -/
theorem firstGiven?_of_find? (h : names.find? (fun name => (d.given? name).isSome) = some key) :
    d.firstGiven? names = d.given? key := by
  induction names with
  | nil => cases h
  | cons name names ih =>
      rw [firstGiven?, List.findSome?_cons]
      rw [List.find?_cons] at h
      cases hgiven : d.given? name with
      | none =>
          rw [hgiven] at h
          exact ih h
      | some v =>
          rw [hgiven] at h
          rw [← Option.some.inj h, hgiven]

/-- What stands under the only name that something may be given for. -/
theorem firstGiven?_of_only (hkey : key ∈ names)
    (honly : ∀ n ∈ names, n ≠ key → d.given? n = none) :
    d.firstGiven? names = d.given? key := by
  cases hgiven : d.given? key with
  | none =>
      refine List.findSome?_eq_none_iff.mpr fun n hn => ?_
      by_cases hne : n = key
      · rw [hne, hgiven]
      · exact honly n hn hne
  | some v =>
      have hsome : (d.firstGiven? names).isSome = true :=
        List.findSome?_isSome_iff.mpr ⟨key, hkey, by rw [hgiven]; rfl⟩
      obtain ⟨w, hw⟩ := Option.isSome_iff_exists.mp hsome
      obtain ⟨n, hn, hgivenN⟩ := List.exists_of_findSome?_eq_some hw
      by_cases hne : n = key
      · rw [hw, ← hgivenN, hne, hgiven]
      · rw [honly n hn hne] at hgivenN
        cases hgivenN

end Dict

/-! ## Keys of a rule -/

namespace Rule

variable {a b : Attribute}

/-- A key stands for one attribute only. -/
theorem eq_of_mem_spellings (ha : key ∈ a.spellings) (hb : key ∈ b.spellings) : a = b := by
  have hall : ∀ a ∈ Attribute.all, ∀ b ∈ Attribute.all, ∀ key ∈ a.spellings,
      key ∈ b.spellings → a = b := by decide
  exact hall a (Attribute.mem_all a) b (Attribute.mem_all b) key ha hb

theorem mem_knownKeys (h : key ∈ a.spellings) : key ∈ knownKeys :=
  .tail _ (List.mem_flatMap.mpr ⟨a, Attribute.mem_all a, h⟩)

theorem isGiven_eq_isSome (d : Dict) (x : Attribute) :
    isGiven d x = (d.firstGiven? x.spellings).isSome := by
  rw [isGiven, Dict.firstGiven?, Bool.eq_iff_iff, List.findSome?_isSome_iff, List.any_eq_true]

/-- The key is the first of those for the attribute that the mapping gives a value for. -/
def Counts (d : Dict) (a : Attribute) (key : String) : Prop :=
  a.spellings.find? (fun name => (d.given? name).isSome) = some key

theorem normalize_dict (d : Dict) : normalize (.dict d) = Traced.ofExcept (ofDict d) := by
  cases d <;> rfl

/-! ## Mappings that give the same -/

theorem providedBy_congr (hgiven : ∀ x, isGiven d x = isGiven d' x) :
    providedBy d = providedBy d' := by
  simp only [providedBy, hgiven]

/-- **Mappings that give the same** for every attribute have the same rule, the entries apart that
no attribute uses. Of presentations it is enough that they are read the same. -/
theorem ofDict_congr
    (hfirst : ∀ x : Attribute, x ≠ .ui → d.firstGiven? x.spellings = d'.firstGiven? x.spellings)
    (hui : (d.getD "ui").presentation? = (d'.getD "ui").presentation?)
    (hgiven : isGiven d .ui = isGiven d' .ui) :
    ofDict d' = (ofDict d).map ({ · with extras := d'.without knownKeys }) := by
  have hsingle (x : Attribute) (hx : x ≠ .ui) (hspelled : x.spellings = [x.name]) :
      d.given? x.name = d'.given? x.name := by
    rw [← Dict.firstGiven?_singleton, ← Dict.firstGiven?_singleton, ← hspelled, hfirst x hx]
  have hvalue (x : Attribute) (hx : x ≠ .ui) (hspelled : x.spellings = [x.name]) :
      d.getD x.name = d'.getD x.name := by
    rw [Dict.getD_eq, Dict.getD_eq, ← hspelled, hfirst x hx]
  have htype : d.given? "type" = d'.given? "type" := hsingle .type (by decide) rfl
  have hlabel : d.given? "label" = d'.given? "label" := hsingle .label (by decide) rfl
  have hhint : d.given? "hint" = d'.given? "hint" := hsingle .hint (by decide) rfl
  have hplaceholder : d.given? "placeholder" = d'.given? "placeholder" :=
    hsingle .placeholder (by decide) rfl
  have hid : d.given? "id" = d'.given? "id" := hsingle .id (by decide) rfl
  have hrequired : d.getD "required" = d'.getD "required" := hvalue .required (by decide) rfl
  have hemail : d.getD "email" = d'.getD "email" := hvalue .email (by decide) rfl
  have hurl : d.getD "url" = d'.getD "url" := hvalue .url (by decide) rfl
  have hnumber : d.getD "number" = d'.getD "number" := hvalue .number (by decide) rfl
  have hpattern : d.getD "pattern" = d'.getD "pattern" := hvalue .pattern (by decide) rfl
  have hvalidate : d.getD "validate" = d'.getD "validate" := hvalue .validate (by decide) rfl
  have hattrs : d.getD "attrs" = d'.getD "attrs" := hvalue .attrs (by decide) rfl
  have hprovided : providedBy d = providedBy d' := by
    refine providedBy_congr fun x => ?_
    by_cases hx : x = .ui
    · rw [hx, hgiven]
    · rw [isGiven_eq_isSome, isGiven_eq_isSome, hfirst x hx]
  show ofDict d' = _ <$> ofDict d
  simp only [ofDict, declaredType, formatOf, map_bind, map_pure, htype, hlabel, hhint,
    hplaceholder, hid, hrequired, hemail, hurl, hnumber, hpattern, hvalidate, hattrs, hui,
    hprovided, hfirst .min (by decide), hfirst .max (by decide), hfirst .minValue (by decide),
    hfirst .maxValue (by decide), hfirst .className (by decide)]

end Rule
end FieldRules
