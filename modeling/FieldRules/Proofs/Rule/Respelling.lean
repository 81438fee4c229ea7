import FieldRules.Proofs.Rule.Given
import FieldRules.Proofs.Rule.Sources

/-!
# Proofs — Respelling

The keys of a mapping. What a mapping gives under the keys of a vocabulary does not change when keys
are replaced by others for the same (`Respelled.givesSame`), when those are left out that a
preferred one outranks (`givesSame_without`), or when the entries change places (`givesSame_perm`).
Rules and presentations are read off what their mappings give, and keep the entries that no key is
for; so they do not change either (`normalize_spellings`).
-/

namespace FieldRules

variable {d d' : Dict} {names names' : List String} {key n : String} {v : Value}

/-! ## Vocabularies -/

/-- Keys under which something is looked up, for each thing the preferred one first. A key is for
one thing only, and none of them is kept as an extra. -/
structure Vocabulary where
  synonyms : List (List String)
  known : List String
  disjoint : ∀ names ∈ synonyms, ∀ names' ∈ synonyms, ∀ n ∈ names, n ∈ names' → names = names'
  nodup : ∀ names ∈ synonyms, names.Nodup
  subset_known : ∀ names ∈ synonyms, names ⊆ known

/-- The keys of a rule. -/
def Rule.vocabulary : Vocabulary where
  synonyms := Attribute.all.map Attribute.spellings
  known := knownKeys
  disjoint := by decide
  nodup := by decide
  subset_known := by decide

/-- The keys of a presentation. -/
def Presentation.vocabulary : Vocabulary where
  synonyms := [["variant"], ["control"], ["label"], ["hint"], ["render"], ["attrs"],
    wrapperClassSpellings, labelClassSpellings, inputClassSpellings, errorClassSpellings]
  known := knownKeys
  disjoint := by decide
  nodup := by decide
  subset_known := by decide

variable {w : Vocabulary}

namespace Dict

/-- Under the keys for one thing at most one has a value. -/
def OneSpelling (w : Vocabulary) (d : Dict) : Prop :=
  ∀ names ∈ w.synonyms, ∀ n ∈ names, ∀ n' ∈ names, (d.given? n).isSome = true →
    (d.given? n').isSome = true → n = n'

instance (w : Vocabulary) (d : Dict) : Decidable (OneSpelling w d) :=
  inferInstanceAs (Decidable (∀ names ∈ w.synonyms, ∀ n ∈ names, ∀ n' ∈ names,
    (d.given? n).isSome = true → (d.given? n').isSome = true → n = n'))

/-- Keys of the vocabulary are replaced by others for the same. An entry for a key of the vocabulary
that has no value may be left out or added. -/
inductive Respelled (w : Vocabulary) : Dict → Dict → Prop
  | nil : Respelled w [] []
  | keep {d d' : Dict} (e : Value × Value) : Respelled w d d' → Respelled w (e :: d) (e :: d')
  | respell {d d' : Dict} {names : List String} {n n' : String} (v : Value)
      (hnames : names ∈ w.synonyms) (hn : n ∈ names) (hn' : n' ∈ names) :
      Respelled w d d' → Respelled w ((.text n, v) :: d) ((.text n', v) :: d')
  | drop {d d' : Dict} {names : List String} {n : String} (hnames : names ∈ w.synonyms)
      (hn : n ∈ names) : Respelled w d d' → Respelled w ((.text n, .null) :: d) d'
  | add {d d' : Dict} {names : List String} {n : String} (hnames : names ∈ w.synonyms)
      (hn : n ∈ names) : Respelled w d d' → Respelled w d ((.text n, .null) :: d')

/-- Both mappings give the same for each thing that the vocabulary has keys for. -/
def GivesSame (w : Vocabulary) (d d' : Dict) : Prop :=
  ∀ names ∈ w.synonyms, d.firstGiven? names = d'.firstGiven? names

/-! ## Other keys -/

namespace Respelled

theorem symm (h : Respelled w d d') : Respelled w d' d := by
  induction h with
  | nil => exact .nil
  | keep e _ ih => exact .keep e ih
  | respell v hnames hn hn' _ ih => exact .respell v hnames hn' hn ih
  | drop hnames hn _ ih => exact .add hnames hn ih
  | add hnames hn _ ih => exact .drop hnames hn ih

/-- What stands under a key for something stands under some key for it. -/
theorem exists_mem (h : Respelled w d d') (hnames : names ∈ w.synonyms) (hn : n ∈ names)
    (hmem : (.text n, v) ∈ d) (hnull : v ≠ .null) : ∃ n' ∈ names, (.text n', v) ∈ d' := by
  induction h with
  | nil => cases hmem
  | keep e _ ih =>
      rcases List.mem_cons.mp hmem with rfl | hmem
      · exact ⟨n, hn, .head _⟩
      · obtain ⟨n', hn', hmem'⟩ := ih hmem
        exact ⟨n', hn', .tail _ hmem'⟩
  | @respell d d' names₁ m m' u hnames₁ hm hm' _ ih =>
      rcases List.mem_cons.mp hmem with heq | hmem
      · obtain ⟨hname, rfl⟩ := Prod.mk.inj heq
        obtain rfl := Value.text.inj hname
        obtain rfl := w.disjoint _ hnames _ hnames₁ _ hn hm
        exact ⟨m', hm', .head _⟩
      · obtain ⟨n', hn', hmem'⟩ := ih hmem
        exact ⟨n', hn', .tail _ hmem'⟩
  | drop _ _ _ ih =>
      rcases List.mem_cons.mp hmem with heq | hmem
      · exact absurd (Prod.mk.inj heq).2 hnull
      · exact ih hmem
  | add _ _ _ ih =>
      obtain ⟨n', hn', hmem'⟩ := ih hmem
      exact ⟨n', hn', .tail _ hmem'⟩

theorem exists_given? (hd : d.IsMapping) (hd' : d'.IsMapping) (h : Respelled w d d')
    (hnames : names ∈ w.synonyms) (hn : n ∈ names) (hgiven : d.given? n = some v) :
    ∃ n' ∈ names, d'.given? n' = some v := by
  obtain ⟨hmem, hnull⟩ := (given?_eq_some hd).mp hgiven
  obtain ⟨n', hn', hmem'⟩ := h.exists_mem hnames hn hmem hnull
  exact ⟨n', hn', (given?_eq_some hd').mpr ⟨hmem', hnull⟩⟩

/-- **Other keys for the same** give the same, if only one of them has a value. -/
theorem givesSame (hd : d.IsMapping) (hd' : d'.IsMapping) (hone : d.OneSpelling w)
    (h : Respelled w d d') : GivesSame w d d' := by
  intro names hnames
  have hforward {v : Value} (hv : d'.firstGiven? names = some v) :
      d.firstGiven? names = some v := by
    obtain ⟨n', hn', hgiven'⟩ := List.exists_of_findSome?_eq_some hv
    obtain ⟨n, hn, hgiven⟩ := h.symm.exists_given? hd' hd hnames hn' hgiven'
    rw [← hgiven]
    refine firstGiven?_of_only hn fun m hm hne => ?_
    by_contra hsome
    have hgivenM : (d.given? m).isSome = true := Option.isSome_iff_ne_none.mpr hsome
    exact hne (hone names hnames m hm n hn hgivenM (by rw [hgiven]; rfl))
  cases hfirst' : d'.firstGiven? names with
  | some v => exact hforward hfirst'
  | none =>
      refine List.findSome?_eq_none_iff.mpr fun n hn => ?_
      cases hgiven : d.given? n with
      | none => rfl
      | some v =>
          obtain ⟨n', hn', hgiven'⟩ := h.exists_given? hd hd' hnames hn hgiven
          rw [List.findSome?_eq_none_iff.mp hfirst' n' hn'] at hgiven'
          cases hgiven'

/-- An entry for a key of the vocabulary is no extra. -/
theorem without_cons_known (hnames : names ∈ w.synonyms) (hn : n ∈ names) (v : Value)
    (d : Dict) : Dict.without ((.text n, v) :: d) w.known = d.without w.known := by
  have hknown := w.subset_known names hnames hn
  rw [Dict.without, List.filter_cons_of_neg]
  · rfl
  · simpa using hknown

/-- The extras stay as they are, and in their order. -/
theorem without_known (h : Respelled w d d') : d'.without w.known = d.without w.known := by
  induction h with
  | nil => rfl
  | keep e _ ih =>
      simp only [Dict.without, List.filter_cons] at ih ⊢
      rw [ih]
  | respell v hnames hn hn' _ ih =>
      rw [without_cons_known hnames hn, without_cons_known hnames hn', ih]
  | drop hnames hn _ ih => rw [without_cons_known hnames hn, ih]
  | add hnames hn _ ih => rw [without_cons_known hnames hn, ih]

end Respelled

/-! ## Several keys -/

/-- **The preferred key decides**: the others for the same may be left out. -/
theorem givesSame_without (hnames : names ∈ w.synonyms)
    (hkey : names.find? (fun name => (d.given? name).isSome) = some key) :
    GivesSame w d (d.without (names.erase key)) := by
  intro names' hnames'
  by_cases hsame : names' = names
  · subst hsame
    have hmem : key ∈ names' := List.mem_of_find?_eq_some hkey
    rw [firstGiven?_of_find? hkey, firstGiven?_of_only hmem, given?_without,
      if_neg (w.nodup names' hnames).not_mem_erase]
    intro n hn hne
    rw [given?_without, if_pos ((List.mem_erase_of_ne hne).mpr hn)]
  · refine firstGiven?_congr fun n hn => ?_
    rw [given?_without, if_neg]
    exact fun hmem => hsame (w.disjoint _ hnames' _ hnames n hn (List.mem_of_mem_erase hmem))

theorem without_erase_known (hnames : names ∈ w.synonyms) (key : String) (d : Dict) :
    (d.without (names.erase key)).without w.known = d.without w.known :=
  without_without (List.Subset.trans List.erase_subset (w.subset_known names hnames)) d

/-! ## Other places -/

/-- **The places of the entries** do not matter for what is given. -/
theorem given?_perm (hd : d.IsMapping) (hd' : d'.IsMapping) (h : d.Perm d') (name : String) :
    d.given? name = d'.given? name := by
  ext v
  rw [given?_eq_some hd, given?_eq_some hd', h.mem_iff]

theorem givesSame_perm (hd : d.IsMapping) (hd' : d'.IsMapping) (h : d.Perm d') :
    GivesSame w d d' :=
  fun _ _ => firstGiven?_congr fun name _ => given?_perm hd hd' h name

end Dict

/-! ## Rules and presentations -/

open Dict (Respelled GivesSame)

/-- Presentations of mappings that give the same, the extras apart. -/
theorem Presentation.ofDict_congr (h : GivesSame vocabulary d d') :
    ofDict d' = { ofDict d with extras := d'.without knownKeys } := by
  have hsingle (name : String) (hname : [name] ∈ vocabulary.synonyms) :
      d'.given? name = d.given? name := by
    rw [← Dict.firstGiven?_singleton, ← Dict.firstGiven?_singleton, h [name] hname]
  have hvalue (name : String) (hname : [name] ∈ vocabulary.synonyms) :
      d'.getD name = d.getD name := by
    rw [Dict.getD_eq, Dict.getD_eq, h [name] hname]
  simp only [ofDict, hsingle "variant" (by decide), hsingle "control" (by decide),
    hsingle "label" (by decide), hsingle "hint" (by decide), hvalue "render" (by decide),
    hvalue "attrs" (by decide), ← h wrapperClassSpellings (by decide),
    ← h labelClassSpellings (by decide), ← h inputClassSpellings (by decide),
    ← h errorClassSpellings (by decide)]

/-- Presentations of mappings that give the same and have the same extras. -/
theorem Presentation.ofDict_eq (h : GivesSame vocabulary d d')
    (hextras : d'.without knownKeys = d.without knownKeys) : ofDict d' = ofDict d := by
  rw [ofDict_congr h, hextras]
  rfl

/-- The classes of a presentation, each with the keys for it. -/
def Presentation.classParts : List (List String × (Presentation → Option Value)) :=
  [(wrapperClassSpellings, wrapperClass), (labelClassSpellings, labelClass),
    (inputClassSpellings, inputClass), (errorClassSpellings, errorClass)]

/-- A class is the first that is given under its keys. -/
theorem Presentation.part_ofDict {part : Presentation → Option Value}
    (h : (names, part) ∈ classParts) (d : Dict) : part (ofDict d) = d.firstGiven? names := by
  simp only [classParts, List.mem_cons, Prod.mk.injEq, List.not_mem_nil, or_false] at h
  rcases h with ⟨rfl, rfl⟩ | ⟨rfl, rfl⟩ | ⟨rfl, rfl⟩ | ⟨rfl, rfl⟩ <;> rfl

namespace Rule

theorem mem_synonyms (x : Attribute) : x.spellings ∈ vocabulary.synonyms :=
  List.mem_map_of_mem (Attribute.mem_all x)

/-- Rules of mappings that give the same, the extras apart. -/
theorem ofDict_givesSame (h : GivesSame vocabulary d d') :
    ofDict d' = (ofDict d).map ({ · with extras := d'.without knownKeys }) := by
  have hui : d.firstGiven? ["ui"] = d'.firstGiven? ["ui"] := h _ (mem_synonyms .ui)
  refine ofDict_congr (fun x _ => h _ (mem_synonyms x)) ?_ ?_
  · rw [Dict.getD_eq, Dict.getD_eq, hui]
  · rw [isGiven_eq_isSome, isGiven_eq_isSome, h _ (mem_synonyms .ui)]

theorem map_extras_ofDict (d : Dict) :
    (ofDict d).map ({ · with extras := d.without knownKeys }) = ofDict d := by
  cases h : ofDict d with
  | error e => rfl
  | ok r =>
      rw [← (beyondParts_ofDict h).2.1]
      cases r
      rfl

theorem ofDict_eq (h : GivesSame vocabulary d d')
    (hextras : d'.without knownKeys = d.without knownKeys) : ofDict d' = ofDict d := by
  rw [ofDict_givesSame h, hextras, map_extras_ofDict]

/-- Only what stands under `ui` is another presentation. -/
theorem ofDict_set_ui {u u' : Dict} (hgiven : d.get? "ui" = some (.dict u))
    (hsame : Presentation.ofDict u' = Presentation.ofDict u) :
    ofDict (d.set "ui" (.dict u')) = ofDict d := by
  have hui : d.getD "ui" = .dict u := by rw [Dict.getD, hgiven]; rfl
  have hui' : (d.set "ui" (.dict u')).getD "ui" = .dict u' := by
    rw [Dict.getD, Dict.set, Dict.get?_insert]
    rfl
  have hread : ofDict (d.set "ui" (.dict u')) =
      (ofDict d).map ({ · with extras := (d.set "ui" (.dict u')).without knownKeys }) := by
    refine ofDict_congr (fun x hx => Dict.firstGiven?_congr fun n hn => ?_) ?_ ?_
    · have hne : "ui" ≠ n := by
        rintro rfl
        exact hx (eq_of_mem_spellings hn (.head _))
      rw [Dict.given?_set, if_neg hne]
    · rw [hui, hui', Value.presentation?, Value.presentation?, hsame]
    · have hspelled : Attribute.ui.spellings = ["ui"] := rfl
      have hthere : d.given? "ui" = some (.dict u) := by
        rw [Dict.given?, hgiven]
        rfl
      rw [isGiven_eq_isSome, isGiven_eq_isSome, hspelled, Dict.firstGiven?_singleton,
        Dict.firstGiven?_singleton, Dict.given?_set, if_pos rfl, hthere]
      rfl
  rw [hread, Dict.set, Dict.without_insert (by decide), map_extras_ofDict]

theorem normalize_dict_congr (h : ofDict d' = ofDict d) :
    normalize (.dict d') = normalize (.dict d) := by
  rw [normalize_dict, normalize_dict, h]

/-- What is given for the presentation stays when keys are replaced. -/
theorem get?_ui_of_respelled {u : Dict} (hd : d.IsMapping) (hd' : d'.IsMapping)
    (h : Respelled vocabulary d d') (hgiven : d.get? "ui" = some (.dict u)) :
    d'.get? "ui" = some (.dict u) := by
  obtain ⟨n, hn, hmem⟩ := h.exists_mem (mem_synonyms .ui) (.head _)
    ((Dict.get?_eq_some hd).mp hgiven) nofun
  obtain rfl : n = "ui" := List.mem_singleton.mp hn
  exact (Dict.get?_eq_some hd').mpr hmem

/-- The preferred key decides about an attribute. -/
theorem normalize_without_others {x : Attribute} (hcounts : Counts d x key) :
    normalize (.dict (d.without (x.spellings.erase key))) = normalize (.dict d) :=
  normalize_dict_congr (ofDict_eq (Dict.givesSame_without (mem_synonyms x) hcounts)
    (Dict.without_erase_known (mem_synonyms x) key d))

/-- An attribute of the rule is what a value says about it. -/
def ReadsOff (r : Rule) (v : Value) : Attribute → Prop
  | .required => r.required = v.truthy
  | .type => ∃ type, v.display? = .ok type ∧ r.type = some type
  | .email => r.email = (v.truthy || r.type == some "email")
  | .url => r.url = (v.truthy || r.type == some "url")
  | .number => r.number = (v.truthy || r.type == some "number")
  | .min => v.length? = .ok r.min
  | .max => v.length? = .ok r.max
  | .minValue => v.limit? = .ok r.minValue
  | .maxValue => v.limit? = .ok r.maxValue
  | .pattern => r.pattern = v.patternSpec?
  | .validate => r.validate = v.function?
  | .label => r.label = some v
  | .hint => r.hint = some v
  | .placeholder => r.placeholder = some v
  | .id => r.id = some v
  | .className => r.className = some v
  | .attrs => r.attrs = v.dict?.getD []
  | .ui => r.ui = v.presentation?

/-- **An attribute is read off the key that counts.** -/
theorem readsOff_of_counts {x : Attribute} {r : Rule} (hcounts : Counts d x key)
    (hr : ofDict d = .ok r) : ∃ v, d.given? key = some v ∧ r.ReadsOff v x := by
  have hsome : (d.given? key).isSome = true :=
    List.find?_some (p := fun name => (d.given? name).isSome) hcounts
  obtain ⟨v, hv⟩ := Option.isSome_iff_exists.mp hsome
  have hfirst : d.firstGiven? x.spellings = some v :=
    (Dict.firstGiven?_of_find? hcounts).trans hv
  have hvalue {name : String} (hname : d.firstGiven? [name] = some v) : d.getD name = v := by
    rw [Dict.getD_eq, hname, Option.getD_some]
  have hgiven {name : String} (hname : d.firstGiven? [name] = some v) : d.given? name = some v :=
    (Dict.firstGiven?_singleton d name).symm.trans hname
  simp only [ofDict, bind_eq_ok] at hr
  obtain ⟨type, htype, min, hmin, max, hmax, minValue, hminValue, maxValue, hmaxValue, hr⟩ := hr
  obtain rfl := Except.ok.inj hr
  refine ⟨v, hv, ?_⟩
  cases x with
  | type =>
      have hdeclared : d.given? "type" = some v := hgiven hfirst
      rw [declaredType, hdeclared, liftExcess_eq_ok] at htype
      cases hdisplay : v.display? with
      | error e =>
          rw [hdisplay] at htype
          cases htype
      | ok text =>
          rw [hdisplay] at htype
          exact ⟨text, hdisplay, (Except.ok.inj htype).symm⟩
  | min => rwa [hfirst] at hmin
  | max => rwa [hfirst] at hmax
  | minValue => rwa [hfirst] at hminValue
  | maxValue => rwa [hfirst] at hmaxValue
  | className => exact hfirst
  | label | hint | placeholder | id => exact hgiven hfirst
  | email => exact congrArg (fun u : Value => u.truthy || type == some "email") (hvalue hfirst)
  | url => exact congrArg (fun u : Value => u.truthy || type == some "url") (hvalue hfirst)
  | number => exact congrArg (fun u : Value => u.truthy || type == some "number") (hvalue hfirst)
  | required => exact congrArg Value.truthy (hvalue hfirst)
  | pattern => exact congrArg Value.patternSpec? (hvalue hfirst)
  | validate => exact congrArg Value.function? (hvalue hfirst)
  | attrs => exact congrArg (·.dict?.getD []) (hvalue hfirst)
  | ui => exact congrArg Value.presentation? (hvalue hfirst)

/-- The order of the entries decides about the order of the extras. -/
theorem normalize_perm (hd : d.IsMapping) (hd' : d'.IsMapping) (h : d.Perm d') :
    (∀ e, (normalize (.dict d)).outcome = .error e ↔ (normalize (.dict d')).outcome = .error e) ∧
      ∀ r, (normalize (.dict d)).outcome = .ok r → ∃ extras, r.extras.Perm extras ∧
        (normalize (.dict d')).outcome = .ok { r with extras := extras } := by
  have hrule := ofDict_givesSame (Dict.givesSame_perm hd hd' h)
  simp only [outcome_normalize_dict, hrule]
  refine ⟨fun e => ?_, fun r hr => ⟨d'.without knownKeys, ?_, ?_⟩⟩
  · cases ofDict d <;> simp [Except.map]
  · rw [(beyondParts_ofDict hr).2.1]
    exact h.filter _
  · rw [hr]
    rfl

/-- **The rule of a mapping does not depend on how its keys are spelled.** Where each thing has one
key with a value, keys may be replaced by any others for the same, in the mapping and in that of its
presentation: the rule is the same, with all it provides and its extras in their order. Where there
are several, the preferred one decides: the attribute is read off it, and the others may be left
out. In any case the order of the entries decides about nothing but the order of the extras.
Presentations by themselves are read in the same way. -/
theorem normalize_spellings (hd : d.IsMapping) (hd' : d'.IsMapping) :
    (d.OneSpelling vocabulary → Respelled vocabulary d d' →
      normalize (.dict d') = normalize (.dict d) ∧
      ∀ u u' : Dict, d.get? "ui" = some (.dict u) → u.IsMapping → u'.IsMapping →
        u.OneSpelling Presentation.vocabulary → Respelled Presentation.vocabulary u u' →
        normalize (.dict (d'.set "ui" (.dict u'))) = normalize (.dict d)) ∧
    (d.OneSpelling Presentation.vocabulary → Respelled Presentation.vocabulary d d' →
      Presentation.ofDict d' = Presentation.ofDict d) ∧
    (∀ x key, Counts d x key →
      (∀ r, (normalize (.dict d)).outcome = .ok r → ∃ v, d.given? key = some v ∧ r.ReadsOff v x) ∧
      normalize (.dict (d.without (x.spellings.erase key))) = normalize (.dict d)) ∧
    (∀ names ∈ Presentation.vocabulary.synonyms, ∀ key,
      names.find? (fun name => (d.given? name).isSome) = some key →
      (∀ part, (names, part) ∈ Presentation.classParts →
        part (Presentation.ofDict d) = d.given? key) ∧
      Presentation.ofDict (d.without (names.erase key)) = Presentation.ofDict d) ∧
    (d.Perm d' →
      (∀ e, (normalize (.dict d)).outcome = .error e ↔ (normalize (.dict d')).outcome = .error e) ∧
      (∀ r, (normalize (.dict d)).outcome = .ok r → ∃ extras, r.extras.Perm extras ∧
        (normalize (.dict d')).outcome = .ok { r with extras := extras }) ∧
      ∃ extras, (Presentation.ofDict d).extras.Perm extras ∧
        Presentation.ofDict d' = { Presentation.ofDict d with extras := extras }) := by
  refine ⟨fun hone h => ?_, fun hone h => ?_, fun x key hcounts => ?_,
    fun names hnames key hkey => ?_, fun h => ?_⟩
  · have hsame := ofDict_eq (h.givesSame hd hd' hone) h.without_known
    refine ⟨normalize_dict_congr hsame, fun u u' hgiven hu hu' honeU hrespelled => ?_⟩
    have hui := get?_ui_of_respelled hd hd' h hgiven
    have hpresentation := Presentation.ofDict_eq (hrespelled.givesSame hu hu' honeU)
      hrespelled.without_known
    exact normalize_dict_congr ((ofDict_set_ui hui hpresentation).trans hsame)
  · exact Presentation.ofDict_eq (h.givesSame hd hd' hone) h.without_known
  · refine ⟨fun r hr => ?_, normalize_without_others hcounts⟩
    rw [outcome_normalize_dict] at hr
    exact readsOff_of_counts hcounts hr
  · refine ⟨fun part hpart => ?_, Presentation.ofDict_eq (Dict.givesSame_without hnames hkey)
      (Dict.without_erase_known hnames key d)⟩
    exact (Presentation.part_ofDict hpart d).trans (Dict.firstGiven?_of_find? hkey)
  · obtain ⟨hfaults, hrules⟩ := normalize_perm hd hd' h
    exact ⟨hfaults, hrules, _, h.filter _,
      Presentation.ofDict_congr (Dict.givesSame_perm hd hd' h)⟩

/-- A mapping with an entry that has no value, and with a presentation. -/
def sizeEntries : Dict :=
  [(.text "min", .null), (.text "minLength", .int 3), (.text "step", .int 1),
    (.text "ui", .dict [(.text "labelClass", .text "wide")]), (.text "className", .text "short")]

/-- The same with other keys, the presentation apart. -/
def sizeEntries' : Dict :=
  [(.text "min_length", .int 3), (.text "step", .int 1),
    (.text "ui", .dict [(.text "labelClass", .text "wide")]), (.text "class_name", .text "short")]

/-- Two keys for the least length, both with values. -/
def doubleEntries : Dict :=
  [(.text "minLength", .int 5), (.text "label", .text "Size"), (.text "min", .int 3)]

theorem normalize_spellings_size :
    normalize (.dict (sizeEntries'.set "ui" (.dict [(.text "label_class", .text "wide")]))) =
      normalize (.dict sizeEntries) ∧
    normalize (.dict (sizeEntries.without ["min", "min_length"])) =
      normalize (.dict sizeEntries) ∧
    (∃ r, (normalize (.dict doubleEntries)).outcome = .ok r ∧ r.min = some 3) ∧
    normalize (.dict (doubleEntries.without ["minLength", "min_length"])) =
      normalize (.dict doubleEntries) := by
  have hd : sizeEntries.IsMapping := by
    constructor <;> simp [sizeEntries, Dict.IsKeyed, Dict.keys, Value.isKey, Value.same]
  have hd' : sizeEntries'.IsMapping := by
    constructor <;> simp [sizeEntries', Dict.IsKeyed, Dict.keys, Value.isKey, Value.same]
  have hsingle (name : String) (v : Value) : Dict.IsMapping [(.text name, v)] := by
    constructor <;> simp [Dict.IsKeyed, Dict.keys, Value.isKey]
  have hmin := mem_synonyms .min
  have hclass := mem_synonyms .className
  have hrespelled : Respelled vocabulary sizeEntries sizeEntries' :=
    .drop hmin (by decide) (.respell _ hmin (by decide) (by decide) (.keep _ (.keep _
      (.respell _ hclass (by decide) (by decide) .nil))))
  have hlabel : Presentation.labelClassSpellings ∈ Presentation.vocabulary.synonyms := by decide
  obtain ⟨hrule, -, hpreferred, -⟩ := normalize_spellings hd hd'
  obtain ⟨-, hui⟩ := hrule (by decide) hrespelled
  have hdouble : doubleEntries.IsMapping := by
    constructor <;> simp [doubleEntries, Dict.IsKeyed, Dict.keys, Value.isKey, Value.same]
  obtain ⟨-, -, hboth, -⟩ := normalize_spellings hdouble hd
  obtain ⟨hread, hleft⟩ := hboth .min "min" rfl
  refine ⟨hui _ _ rfl (hsingle _ _) (hsingle _ _) (by decide) ?_,
    (hpreferred .min "minLength" rfl).2, ⟨_, rfl, ?_⟩, hleft⟩
  · exact .respell _ hlabel (by decide) (by decide) .nil
  · obtain ⟨v, hv, hmin⟩ := hread _ rfl
    obtain rfl : .int 3 = v := Option.some.inj hv
    exact (Except.ok.inj hmin).symm

end Rule
end FieldRules
