import FieldRules.Proofs.Options.Plain

/-!
# Proofs — Precedence

Where each option comes from. Plain options are resolved to what they give, or else to what the
variable of the environment says that has the default of the option; a form's id and the button's
text have to be more than an empty text (`TextOption.text`). It is so in every environment whose
settings can be read (`resolve_takes`), and neither the spelling of the keys nor the order of the
entries matters.
-/

namespace FieldRules.Options

open Dict (Speaks)

variable {d d' : Dict} {names : List String} {v : Value} {p : Part} {x : TextOption}
  {env : Environment} {library : Library}

/-! ## What fits -/

/-- What is given under one of some keys stands there. -/
theorem exists_mem_of_firstGiven? (hd : d.IsMapping) (h : d.firstGiven? names = some v) :
    ∃ n ∈ names, (.text n, v) ∈ d ∧ v ≠ .null := by
  obtain ⟨n, hn, hgiven⟩ := List.exists_of_findSome?_eq_some h
  exact ⟨n, hn, (Dict.given?_eq_some hd).mp hgiven⟩

/-- What a section gives stands in it. -/
theorem exists_mem_of_sectionGiven? (hd : IsPlain d) (h : sectionGiven? d p names = some v) :
    ∃ entries, IsPlainSection p entries ∧ ∃ n ∈ names, (.text n, v) ∈ entries ∧ v ≠ .null := by
  rcases readPart_cases hd p with ⟨entries, -, hplain, -, hgiven⟩ | ⟨-, -, hgiven⟩
  · rw [hgiven] at h
    exact ⟨entries, hplain, exists_mem_of_firstGiven? hplain.isMapping h⟩
  · rw [hgiven] at h
    cases h

theorem IsLeaf.exists_text (h : IsLeaf v) (hnull : v ≠ .null) : ∃ s, v = .text s := by
  cases h with
  | null => exact absurd rfl hnull
  | text s => exact ⟨s, rfl⟩

/-- Plain options give texts. -/
theorem TextOption.exists_of_given? (hd : IsPlain d) (h : x.given? d = some v) :
    ∃ s, v = .text s := by
  -- the keys that may hold something else than a text are none of this option
  have hkeys : ∀ n ∈ x.keys, n ≠ "attrs" := by cases x <;> decide
  have hflat : ∀ n ∈ x.flatKeys, ∀ p : Part, n ≠ p.name := by
    intro n hn p
    revert hn
    cases x <;> cases p <;> revert n <;> decide
  rcases Option.or_eq_some_iff.mp h with hsection | ⟨-, hbeside⟩
  · obtain ⟨entries, hplain, n, hn, hmem, hnull⟩ := exists_mem_of_sectionGiven? hd hsection
    exact (hplain.leaf _ hmem fun h => hkeys n hn (Value.text.inj h)).exists_text hnull
  · obtain ⟨n, hn, hmem, hnull⟩ := exists_mem_of_firstGiven? hd.isMapping hbeside
    exact (hd.leaf _ hmem fun p h => hflat n hn p (Value.text.inj h)).exists_text hnull

theorem isAttributes_of_sectionGiven? (hd : IsPlain d) (h : sectionGiven? d p ["attrs"] = some v) :
    IsAttributes v := by
  obtain ⟨entries, hplain, n, hn, hmem, hnull⟩ := exists_mem_of_sectionGiven? hd h
  obtain rfl := List.mem_singleton.mp hn
  exact (hplain.attrs v hmem).resolve_left hnull

/-- There is nothing in plain options that does not fit. -/
theorem fits_readSections (hd : IsPlain d) : (readSections d).Fits where
  text x v hv := by
    rw [found?_readSections hd] at hv
    exact x.exists_of_given? hd (Option.eq_some_of_filter_eq_some hv)
  attrs p hp v hv := by
    rw [get?_attrs hd hp] at hv
    exact isAttributes_of_sectionGiven? hd hv

/-! ## Filling in -/

theorem found?_eq_some (hd : IsPlain d) {s : String} :
    x.found? (readSections d) = some (.text s) ↔
      x.given? d = some (.text s) ∧ (x.needsText = true → s ≠ "") := by
  rw [found?_readSections hd, Option.filter_eq_some_iff]
  refine and_congr_right fun _ => ?_
  cases hneeds : x.needsText <;> simp [TextOption.counts, Value.truthy, hneeds]

theorem isGiven_iff (hd : IsPlain d) : x.IsGiven d ↔ x.found? (readSections d) ≠ none := by
  constructor
  · rintro ⟨s, hs⟩ hnone
    rw [(found?_eq_some hd).mpr hs] at hnone
    cases hnone
  · intro hsome
    obtain ⟨v, hv⟩ := Option.ne_none_iff_exists'.mp hsome
    obtain ⟨s, rfl⟩ := (fits_readSections hd).text x v hv
    exact ⟨s, (found?_eq_some hd).mp hv⟩

/-- The settings are asked for where an option that has one is not given. -/
theorem isComplete_readSections (hd : IsPlain d) :
    (readSections d).IsComplete ↔ ∀ x : TextOption, x.hasSetting = true → x.IsGiven d :=
  forall₂_congr fun _ _ => (isGiven_iff hd).symm

/-- An option that is given is its own text. -/
theorem TextOption.text_of_found? (hd : IsPlain d) {s : String}
    (h : x.found? (readSections d) = some (.text s)) : x.text env d = s := by
  obtain ⟨hgiven, hcounts⟩ := (found?_eq_some hd).mp h
  have hs : (x.needsText && s.isEmpty) = false := by
    cases hneeds : x.needsText <;> simp_all
  simp [TextOption.text, hgiven, hs]

/-- An option that is not given is its default. -/
theorem TextOption.text_of_not_found? (hd : IsPlain d) (h : x.found? (readSections d) = none) :
    x.text env d = x.default env := by
  rw [TextOption.text]
  cases hgiven : x.given? d with
  | none => rfl
  | some v =>
      obtain ⟨s, rfl⟩ := x.exists_of_given? hd hgiven
      have hblank : (x.needsText && s.isEmpty) = true := by
        by_contra hcounts
        have hfound := (found?_eq_some hd).mpr ⟨hgiven, fun hneeds hs => by simp_all⟩
        rw [h] at hfound
        cases hfound
      simp [hblank]

theorem attrs_readSections (hd : IsPlain d) (hp : p ≠ .classes) :
    (readSections d).attrs p = attributesGiven d p := by
  unfold Sections.attrs attributesGiven
  rw [get?_attrs hd hp]
  cases hgiven : sectionGiven? d p ["attrs"] with
  | none => rfl
  | some v =>
      cases isAttributes_of_sectionGiven? hd hgiven
      rfl

/-- The settings of an environment have its defaults. -/
theorem TextOption.default_of_settings (h : library.IsDocumented) {settings : Settings}
    (hsettings : library.settings env = .ok settings) (x : TextOption) :
    x.default env = (x.setting? settings).getD "" := by
  rw [h.settings_eq env settings hsettings]
  cases x <;> rfl

/-- Plain options are filled in from what they give and the defaults. -/
theorem takes_of_options (h : library.IsDocumented) (hd : IsPlain d) {o : RenderOptions}
    (ho : library.options (library.settings env) (readSections d) = .ok o) : Takes env d o where
  text x := by
    cases hfound : x.found? (readSections d) with
    | some v =>
        obtain ⟨s, rfl⟩ := (fits_readSections hd).text x v hfound
        rw [TextOption.text_of_found? hd hfound]
        exact h.options_text _ _ _ ho x s hfound
    | none =>
        rw [TextOption.text_of_not_found? hd hfound]
        cases hsetting : x.hasSetting with
        | true =>
            obtain ⟨settings, hsettings, hvalue⟩ := h.options_setting _ _ _ ho x hfound hsetting
            rw [TextOption.default_of_settings h hsettings, hvalue, Option.getD_some]
        | false =>
            rw [h.options_empty _ _ _ ho x hfound hsetting]
            cases x <;> first | rfl | cases hsetting
  formAttrs := (h.options_attrs _ _ _ ho .form (by decide)).trans
    (attrs_readSections hd (by decide))
  submitAttrs := (h.options_attrs _ _ _ ho .submit (by decide)).trans
    (attrs_readSections hd (by decide))

theorem resolve_eq (h : library.IsDocumented) (hd : IsPlain d) (env : Environment) :
    resolve ⟨library, env⟩ (.dict d) = (readSections d).resolve ⟨library, env⟩ := by
  rw [resolve_dict, ofDict_eq h hd]
  rfl

/-- Plain options are resolved where the settings can be read or are not needed. -/
theorem exists_takes (h : library.IsDocumented) (hd : IsPlain d)
    (hsettings : env.IsReadable ∨ ∀ x : TextOption, x.hasSetting = true → x.IsGiven d) :
    ∃ o, resolve ⟨library, env⟩ (.dict d) = .ok o ∧ Takes env d o := by
  have hready : (readSections d).IsComplete ∨ ∃ r, library.settings env = .ok r :=
    hsettings.symm.imp (isComplete_readSections hd).mpr (h.settings_ok env)
  obtain ⟨o, ho⟩ := h.options_ok _ _ (fits_readSections hd) hready
  refine ⟨o, ?_, takes_of_options h hd ho⟩
  rw [resolve_eq h hd, Sections.resolve]
  simp only [Deployment.settings, ho]

/-- Settings that are needed and cannot be read are complained about. -/
theorem resolve_of_unreadable (h : library.IsDocumented) (hd : IsPlain d)
    (henv : ¬ env.IsReadable)
    (hneeds : ¬ ∀ x : TextOption, x.hasSetting = true → x.IsGiven d) :
    ∃ text complaints, library.settings env = .error (.unfit text complaints) ∧
      resolve ⟨library, env⟩ (.dict d) =
        .error (.usage (UsageError.unfitOptions text complaints "options")) := by
  obtain ⟨text, complaints, hsettings⟩ := h.settings_error env henv
  refine ⟨text, complaints, hsettings, ?_⟩
  have hstop := h.options_incomplete (.unfit text complaints) _ (fits_readSections hd)
    (mt (isComplete_readSections hd).mp hneeds)
  rw [resolve_eq h hd, Sections.resolve]
  simp only [Deployment.settings, hsettings, hstop]

/-! ## Other spellings and orders -/

/-- Options that differ in the spelling of their keys or the order of their entries, beside the
sections or in one of them. -/
inductive Rearranged : Dict → Dict → Prop
  | order {d d' : Dict} (h : d.Perm d') : Rearranged d d'
  | spelling {d d' : Dict} (h : Dict.Respelled vocabulary d d') : Rearranged d d'
  | part {d : Dict} (p : Part) {u u' : Dict} (hpart : d.get? p.name = some (.dict u))
      (h : u.Perm u' ∨ Dict.Respelled p.vocabulary u u') :
      Rearranged d (d.set p.name (.dict u'))

/-- Both options give the same, in each section and beside them. -/
structure GivesAlike (d d' : Dict) : Prop where
  parts : ∀ p : Part, ∀ names ∈ p.vocabulary.synonyms,
    sectionGiven? d p names = sectionGiven? d' p names
  beside : ∀ x : TextOption, d.firstGiven? x.flatKeys = d'.firstGiven? x.flatKeys

theorem GivesAlike.of_givesSame (h : Dict.GivesSame vocabulary d d') : GivesAlike d d' where
  parts p names _ := by
    have hpart : d.given? p.name = d'.given? p.name := by
      rw [← Dict.firstGiven?_singleton, ← Dict.firstGiven?_singleton]
      exact h _ (by cases p <;> decide)
    rw [sectionGiven?, sectionGiven?, hpart]
  beside x := by
    by_cases hx : x.flatKeys = []
    · rw [hx]
      rfl
    · refine h _ ?_
      revert hx
      cases x <;> decide

/-- Options that are rearranged give the same. -/
theorem Rearranged.givesAlike (hd : IsPlain d) (hd' : IsPlain d') (h : Rearranged d d') :
    GivesAlike d d' := by
  cases h with
  | order h => exact .of_givesSame (Dict.givesSame_perm hd.isMapping hd'.isMapping h)
  | spelling h =>
      exact .of_givesSame (h.givesSame hd.isMapping hd'.isMapping hd.toSpeaks.oneSpelling)
  | @part p u u' hpart h =>
      have hu := hd.parts p u ((Dict.get?_eq_some hd.isMapping).mp hpart)
      have hpart' : (d.set p.name (.dict u')).get? p.name = some (.dict u') := by
        rw [Dict.set, Dict.get?_insert]
        simp
      have hu' := hd'.parts p u' ((Dict.get?_eq_some hd'.isMapping).mp hpart')
      have hsame : Dict.GivesSame p.vocabulary u u' := by
        rcases h with h | h
        · exact Dict.givesSame_perm hu.isMapping hu'.isMapping h
        · exact h.givesSame hu.isMapping hu'.isMapping hu.toSpeaks.oneSpelling
      -- nothing changes but the section itself, and no option beside it has its name
      refine ⟨fun q names hnames => ?_, fun x => Dict.firstGiven?_congr fun n hn => ?_⟩
      · rw [sectionGiven?, sectionGiven?, Dict.given?_set]
        by_cases hq : q = p
        · subst hq
          rw [if_pos rfl, given?_eq_dict.mpr hpart]
          exact hsame names hnames
        · have hname : p.name ≠ q.name := by
            revert hq
            cases p <;> cases q <;> decide
          rw [if_neg hname]
      · have hname : p.name ≠ n := by
          rintro rfl
          revert hn
          cases x <;> cases p <;> decide
        rw [Dict.given?_set, if_neg hname]

theorem GivesAlike.given? (h : GivesAlike d d') (x : TextOption) : x.given? d = x.given? d' := by
  have hkeys : x.keys ∈ x.part.vocabulary.synonyms := by cases x <;> decide
  rw [TextOption.given?, TextOption.given?, h.beside x, h.parts x.part x.keys hkeys]

/-- Options that give the same stand for the same. -/
theorem Takes.eq {o o' : RenderOptions} (h : Takes env d o) (h' : Takes env d' o')
    (hsame : GivesAlike d d') : o' = o := by
  have htext (x : TextOption) : x.value o' = x.value o := by
    rw [h.text, h'.text, TextOption.text, TextOption.text, hsame.given?]
  have hform : o'.form.attrs = o.form.attrs := by
    rw [h.formAttrs, h'.formAttrs, attributesGiven, attributesGiven,
      hsame.parts .form ["attrs"] (by decide)]
  have hsubmit : o'.submit.attrs = o.submit.attrs := by
    rw [h.submitAttrs, h'.submitAttrs, attributesGiven, attributesGiven,
      hsame.parts .submit ["attrs"] (by decide)]
  obtain ⟨⟨_, _, _, _, _⟩, ⟨_, _, _⟩, ⟨_, _, _, _, _⟩⟩ := o
  obtain ⟨⟨_, _, _, _, _⟩, ⟨_, _, _⟩, ⟨_, _, _, _, _⟩⟩ := o'
  simp only [RenderOptions.mk.injEq, FormOptions.mk.injEq, SubmitOptions.mk.injEq,
    ClassOptions.mk.injEq]
  exact ⟨⟨htext .formId, htext .action, htext .method, htext .formClass, hform⟩,
    ⟨htext .submitText, htext .submitClass, hsubmit⟩,
    htext .fieldGroup, htext .label, htext .input, htext .error, htext .hint⟩

/-- **Rearranged options are resolved to the same.** -/
theorem resolve_rearranged (h : library.IsDocumented) (env : Environment) (hd : IsPlain d)
    (hd' : IsPlain d') (hsame : Rearranged d d') :
    resolve ⟨library, env⟩ (.dict d') = resolve ⟨library, env⟩ (.dict d) := by
  have halike := hsame.givesAlike hd hd'
  have hgiven (x : TextOption) : x.IsGiven d' ↔ x.IsGiven d := by
    rw [TextOption.IsGiven, TextOption.IsGiven, halike.given?]
  -- the settings are asked for by both or by neither
  by_cases hsettings : env.IsReadable ∨ ∀ x : TextOption, x.hasSetting = true → x.IsGiven d
  · obtain ⟨o, ho, htakes⟩ := exists_takes h hd hsettings
    obtain ⟨o', ho', htakes'⟩ : ∃ o', resolve ⟨library, env⟩ (.dict d') = .ok o' ∧
        Takes env d' o' := exists_takes h hd' (by simpa only [hgiven] using hsettings)
    rw [ho, ho', htakes.eq htakes' halike]
  · obtain ⟨henv, hneeds⟩ := not_or.mp hsettings
    obtain ⟨text, complaints, htext, hstop⟩ := resolve_of_unreadable h hd henv hneeds
    obtain ⟨text', complaints', htext', hstop'⟩ := resolve_of_unreadable h hd' henv
      (by simpa only [hgiven] using hneeds)
    cases htext.symm.trans htext'
    rw [hstop, hstop']

/-! ## Precedence -/

/-- **Where the options come from**, whatever library does what is documented. Plain options are
resolved in every environment whose settings can be read, and in any other as long as all options
that have a setting are given: each option is that of its section, or else that beside the sections,
or else the default of the environment; an empty id of the form and an empty text of the button do
not count. Settings that are needed and cannot be read are complained about. Neither the spelling of
the keys nor the order of the entries makes a difference. -/
theorem resolve_takes (h : library.IsDocumented) (env : Environment) (hd : IsPlain d) :
    (env.IsReadable ∨ (∀ x : TextOption, x.hasSetting = true → x.IsGiven d) →
      ∃ o, resolve ⟨library, env⟩ (.dict d) = .ok o ∧ Takes env d o) ∧
    (¬ env.IsReadable → (¬ ∀ x : TextOption, x.hasSetting = true → x.IsGiven d) →
      ∃ text complaints, library.settings env = .error (.unfit text complaints) ∧
        resolve ⟨library, env⟩ (.dict d) =
          .error (.usage (UsageError.unfitOptions text complaints "options"))) ∧
    ∀ d', IsPlain d' → Rearranged d d' →
      resolve ⟨library, env⟩ (.dict d') = resolve ⟨library, env⟩ (.dict d) :=
  ⟨exists_takes h hd, resolve_of_unreadable h hd,
    fun _ hd' hsame => resolve_rearranged h env hd hd' hsame⟩

/-- Another order of plain options is plain. -/
theorem IsPlain.perm (hd : IsPlain d) (h : d.Perm d') (hd' : d'.IsMapping) : IsPlain d' := by
  have hhas (n : String) : d'.has n = true → d.has n = true := by
    rw [Dict.has_eq_true, Dict.has_eq_true]
    exact (h.map _).mem_iff.mpr
  exact {
    isMapping := hd'
    known := fun k hk => hd.known k ((h.map _).mem_iff.mpr hk)
    single := fun names hnames n hn m hm hhasN hhasM =>
      hd.single names hnames n hn m hm (hhas n hhasN) (hhas m hhasM)
    leaf := fun e he => hd.leaf e (h.mem_iff.mpr he)
    parts := fun p entries hmem => hd.parts p entries (h.mem_iff.mpr hmem) }

/-- An environment that is made for searches. -/
def searchEnvironment : Environment := fun name =>
  if name = "UNIVAL_FORM_METHOD" then some "GET"
  else if name = "UNIVAL_SUBMIT_TEXT" then some "Search"
  else none

/-- The button has a class and an empty text. -/
def searchButton : Dict :=
  [(.text "text", .text ""), (.text "class_name", .text "wide")]

def searchOptions : Dict :=
  [(.text "formId", .text "search"), (.text "class_name", .null),
    (.text "submit", .dict searchButton)]

theorem isPlainSection_searchButton : IsPlainSection .submit searchButton where
  isMapping := by
    constructor <;> simp [searchButton, Dict.IsKeyed, Dict.keys, Value.isKey, Value.same]
  known := by simp [searchButton, Part.vocabulary]
  single := by decide
  leaf := List.forall_mem_cons.mpr ⟨fun _ => .text _, by simp [IsLeaf.text]⟩
  attrs := by simp [searchButton]

theorem isPlain_searchOptions : IsPlain searchOptions where
  isMapping := by
    constructor <;> simp [searchOptions, Dict.IsKeyed, Dict.keys, Value.isKey, Value.same]
  known := by simp [searchOptions, vocabulary]
  single := by decide
  leaf := List.forall_mem_cons.mpr ⟨fun _ => .text _, List.forall_mem_cons.mpr ⟨fun _ => .null,
    List.forall_mem_singleton.mpr fun h => absurd rfl (h .submit)⟩⟩
  parts p entries hmem := by
    have hcases : p.name = "submit" ∧ entries = searchButton := by
      simpa [searchOptions] using hmem
    obtain ⟨hname, rfl⟩ := hcases
    have hpart : p = .submit := by
      revert hname
      cases p <;> decide
    rw [hpart]
    exact isPlainSection_searchButton

theorem isPlain_reverse_searchOptions : IsPlain searchOptions.reverse :=
  isPlain_searchOptions.perm (List.reverse_perm _).symm (by
    constructor <;> simp [searchOptions, Dict.IsKeyed, Dict.keys, Value.isKey, Value.same])

/-- An environment that says no truth value where it has to. -/
def uncertainEnvironment : Environment := fun name =>
  if name = "UNIVAL_LOG_JSON" then some "maybe" else none

theorem isReadable_search : searchEnvironment.IsReadable := nofun

theorem not_isReadable_uncertain : ¬ uncertainEnvironment.IsReadable := by
  intro h
  have hword : Settings.IsTruthWord "maybe" := h "maybe" rfl
  exact absurd hword (by decide +kernel)

theorem not_isGiven_searchAction : ¬ TextOption.action.IsGiven searchOptions := by
  rintro ⟨s, hs, -⟩
  have hnone : TextOption.action.given? searchOptions = none := by decide
  rw [hnone] at hs
  cases hs

theorem resolve_takes_search :
    (∃ o, resolve ⟨.standard, searchEnvironment⟩ (.dict searchOptions) = .ok o ∧
      o.form.id = "search" ∧ o.form.method = "GET" ∧ o.form.className = "form" ∧
      o.submit.text = "Search" ∧ o.submit.className = "wide" ∧
      resolve ⟨.standard, searchEnvironment⟩ (.dict searchOptions.reverse) = .ok o) ∧
    ∃ e, resolve ⟨.standard, uncertainEnvironment⟩ (.dict searchOptions) = .error (.usage e) := by
  obtain ⟨htakes, -, hrearranged⟩ :=
    resolve_takes Library.standard_isDocumented searchEnvironment isPlain_searchOptions
  obtain ⟨-, hfault, -⟩ :=
    resolve_takes Library.standard_isDocumented uncertainEnvironment isPlain_searchOptions
  obtain ⟨o, ho, hgiven⟩ := htakes (.inl isReadable_search)
  obtain ⟨text, complaints, -, hstop⟩ :=
    hfault not_isReadable_uncertain fun h => not_isGiven_searchAction (h .action rfl)
  refine ⟨⟨o, ho, hgiven.text .formId, hgiven.text .method, hgiven.text .formClass,
    hgiven.text .submitText, hgiven.text .submitClass, ?_⟩, _, hstop⟩
  rw [hrearranged _ isPlain_reverse_searchOptions (.order (List.reverse_perm _).symm), ho]

/-- No library that does what is documented resolves plain options in every environment. -/
theorem not_forall_takes : ¬ ∃ library : Library, library.IsDocumented ∧
    ∀ (env : Environment) (d : Dict), IsPlain d →
      ∃ o, resolve ⟨library, env⟩ (.dict d) = .ok o ∧ Takes env d o := by
  rintro ⟨library, h, htakes⟩
  obtain ⟨o, ho, -⟩ := htakes uncertainEnvironment searchOptions isPlain_searchOptions
  obtain ⟨text, complaints, -, hstop⟩ := resolve_of_unreadable h isPlain_searchOptions
    not_isReadable_uncertain fun hgiven => not_isGiven_searchAction (hgiven .action rfl)
  rw [hstop] at ho
  cases ho

end FieldRules.Options
