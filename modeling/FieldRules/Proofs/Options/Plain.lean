import FieldRules.Proofs.Options.Keys
import FieldRules.Proofs.Rule.Respelling

/-!
# Proofs — Plain

Plain options: mappings that use known keys, each in one spelling, and hold texts. What they give
for an option is told without the reading of them: it is looked up in the section of the option, and
else under a key of its own beside the sections (`TextOption.given?`). The reading renames keys,
moves what stands beside a section into it and drops what does not count; it ends with just that
under the common key of the option (`get?_readSections`), which is what is found for the option
(`found?_readSections`).
-/

namespace FieldRules

namespace Dict

variable {d : Dict} {names : List String} {name : String} {v : Value} {w : Vocabulary}

/-! ## Mappings without nulls -/

/-- The entries that are not `null`. -/
def compact (d : Dict) : Dict :=
  d.filter fun e => !e.2.isNull

theorem get?_compact (hd : d.IsMapping) (name : String) : d.compact.get? name = d.given? name := by
  ext v
  rw [compact, get?_eq_some (hd.filter _), given?_eq_some hd, List.mem_filter, Bool.not_eq_true',
    Options.isNull_eq_false]

theorem getD_compact (hd : d.IsMapping) (name : String) : d.compact.getD name = d.getD name := by
  rw [getD, get?_compact hd, getD_eq, firstGiven?_singleton]

/-! ## Mappings in a vocabulary -/

/-- All keys are from the vocabulary, and for each thing there is at most one. -/
structure Speaks (w : Vocabulary) (d : Dict) : Prop where
  isMapping : d.IsMapping
  known : ∀ k ∈ d.keys, ∃ names ∈ w.synonyms, ∃ n ∈ names, k = .text n
  single : ∀ names ∈ w.synonyms, ∀ n ∈ names, ∀ n' ∈ names,
    d.has n = true → d.has n' = true → n = n'

theorem Speaks.oneSpelling (h : d.Speaks w) : d.OneSpelling w :=
  fun names hnames n hn n' hn' hgiven hgiven' =>
    h.single names hnames n hn n' hn' (has_of_given? hgiven) (has_of_given? hgiven')

/-- Where one key has a value at most, that value is what is given. -/
theorem OneSpelling.firstGiven?_eq_some (h : d.OneSpelling w) (hnames : names ∈ w.synonyms) :
    d.firstGiven? names = some v ↔ ∃ n ∈ names, d.given? n = some v := by
  constructor
  · intro hfirst
    exact List.exists_of_findSome?_eq_some hfirst
  · rintro ⟨n, hn, hgiven⟩
    rw [← hgiven]
    refine firstGiven?_of_only hn fun m hm hne => ?_
    by_contra hsome
    have hgivenM : (d.given? m).isSome = true := Option.isSome_iff_ne_none.mpr hsome
    exact hne (h names hnames m hm n hn hgivenM (by rw [hgiven]; rfl))

end Dict

namespace Options

open Dict (Speaks)

/-! ## Options by name -/

namespace TextOption

/-- The keys of an option in its section, the common one first. -/
def keys : TextOption → List String
  | .formId => ["id"]
  | .action => ["action"]
  | .method => ["method"]
  | .formClass => ["className", "class_name"]
  | .submitText => ["text"]
  | .submitClass => ["className", "class_name"]
  | .fieldGroup => ["fieldGroup", "field_group"]
  | .label => ["label"]
  | .input => ["input"]
  | .error => ["error"]
  | .hint => ["hint"]

/-- The keys of an option beside the sections. -/
def flatKeys : TextOption → List String
  | .formId => ["formId"]
  | .action => ["action"]
  | .method => ["method"]
  | .formClass => ["className", "class_name"]
  | .submitText => ["submitText"]
  | _ => []

/-- An empty text does not count. -/
def needsText : TextOption → Bool
  | .formId | .submitText => true
  | _ => false

end TextOption

/-- The keys of options. -/
def vocabulary : Vocabulary where
  synonyms := [["form"], ["submit"], ["classes"], ["formId"], ["action"], ["method"],
    ["className", "class_name"], ["submitText"]]
  known := ["form", "submit", "classes", "formId", "action", "method", "className", "class_name",
    "submitText"]
  disjoint := by decide
  nodup := by decide
  subset_known := by decide

/-- The keys of a section. -/
def Part.vocabulary : Part → Vocabulary
  | .form =>
    { synonyms := [["id"], ["action"], ["method"], ["className", "class_name"], ["attrs"]]
      known := ["id", "action", "method", "className", "class_name", "attrs"]
      disjoint := by decide
      nodup := by decide
      subset_known := by decide }
  | .submit =>
    { synonyms := [["text"], ["className", "class_name"], ["attrs"]]
      known := ["text", "className", "class_name", "attrs"]
      disjoint := by decide
      nodup := by decide
      subset_known := by decide }
  | .classes =>
    { synonyms := [["fieldGroup", "field_group"], ["label"], ["input"], ["error"], ["hint"]]
      known := ["fieldGroup", "field_group", "label", "input", "error", "hint"]
      disjoint := by decide
      nodup := by decide
      subset_known := by decide }

/-! ## What options give -/

/-- What a section gives under the first of some keys. -/
def sectionGiven? (d : Dict) (p : Part) (names : List String) : Option Value :=
  match d.given? p.name with
  | some (.dict entries) => Dict.firstGiven? entries names
  | _ => none

namespace TextOption

/-- What is given for an option: in its section, or else beside it. -/
def given? (d : Dict) (x : TextOption) : Option Value :=
  (sectionGiven? d x.part x.keys).or (d.firstGiven? x.flatKeys)

/-- The default of an option: the setting that stands for it, empty where none does. -/
def default (env : Environment) (x : TextOption) : String :=
  (x.setting? (.ofVariables env false)).getD ""

/-- The text of an option: the one that is given, or else the default. -/
def text (env : Environment) (d : Dict) (x : TextOption) : String :=
  match x.given? d with
  | some (.text s) => if x.needsText && s.isEmpty then x.default env else s
  | _ => x.default env

end TextOption

/-- The attributes that a section gives. -/
def attributesGiven (d : Dict) (p : Part) : Dict :=
  ((sectionGiven? d p ["attrs"]).bind Value.dict?).getD []

/-- The options are those that are given, with the defaults of the environment. -/
structure Takes (env : Environment) (d : Dict) (o : RenderOptions) : Prop where
  text : ∀ x : TextOption, x.value o = x.text env d
  formAttrs : o.form.attrs = attributesGiven d .form
  submitAttrs : o.submit.attrs = attributesGiven d .submit

/-- The option is given, with a text that counts. -/
def TextOption.IsGiven (d : Dict) (x : TextOption) : Prop :=
  ∃ s, x.given? d = some (.text s) ∧ (x.needsText = true → s ≠ "")

/-! ## Plain options -/

/-- Nothing, or a text. -/
inductive IsLeaf : Value → Prop
  | null : IsLeaf .null
  | text (s : String) : IsLeaf (.text s)

/-- A section with known keys, which holds texts, and attributes where it may. -/
structure IsPlainSection (p : Part) (entries : Dict) : Prop
    extends Speaks p.vocabulary entries where
  leaf : ∀ e ∈ entries, e.1 ≠ .text "attrs" → IsLeaf e.2
  attrs : ∀ v, (.text "attrs", v) ∈ entries → v = .null ∨ IsAttributes v

/-- Options with known keys, which hold texts, and plain sections. -/
structure IsPlain (d : Dict) : Prop extends Speaks vocabulary d where
  leaf : ∀ e ∈ d, (∀ p : Part, e.1 ≠ .text p.name) → IsLeaf e.2
  parts : ∀ (p : Part) (entries : Dict), (.text p.name, .dict entries) ∈ d →
    IsPlainSection p entries

variable {d d' : Dict} {names : List String} {v : Value} {p : Part} {x : TextOption}
  {env : Environment} {library : Library}

/-! ## Reading a section -/

/-- A name in its common spelling, if it is the name of an option. -/
def commonName (n : String) : String :=
  ((TextOption.all.find? fun x => x.name == n).map TextOption.capitalName).getD n

/-- A key in its common spelling. -/
def commonKey : Value → Value
  | .text s => .text (commonName s)
  | k => k

/-- The entries of a section that have a value, under their common keys. -/
def commonEntries (d : Dict) : Dict :=
  d.compact.map fun e => (commonKey e.1, e.2)

/-- Names that a library spells in the common way. -/
def SpellsIn (library : Library) (w : Vocabulary) : Prop :=
  ∀ names ∈ w.synonyms, ∀ n ∈ names,
    sectionKey library (.text n) = .ok (.text (commonName n))

/-- The keys of a section are spelled in the common way: one that has a low line is the name of an
option, and any other one stays as it is. -/
theorem spellsIn (h : library.IsDocumented) (p : Part) : SpellsIn library p.vocabulary := by
  have hnames : ∀ names ∈ p.vocabulary.synonyms, ∀ n ∈ names,
      (n.toList.contains '_' = true ∧
        ∃ x ∈ TextOption.all, x.name = n ∧ x.capitalName = commonName n) ∨
      (n.toList.contains '_' = false ∧ commonName n = n) := by
    cases p <;> decide
  intro names hmem n hn
  rcases hnames names hmem n hn with ⟨hline, x, -, rfl, halias⟩ | ⟨hline, hsame⟩
  · rw [sectionKey, if_pos hline, h.camel_name x (List.contains_iff_mem.mp hline), ← halias]
    rfl
  · rw [sectionKey, hline, hsame]
    rfl

/-- A section whose keys are spelled in the common way is read. -/
theorem sectionEntries_eq (h : ∀ k ∈ Dict.keys d, ∃ n, k = .text n ∧
      sectionKey library (.text n) = .ok (.text (commonName n))) :
    sectionEntries library d = .ok (commonEntries d) := by
  induction d with
  | nil => rfl
  | cons e rest ih =>
      obtain ⟨k, v⟩ := e
      obtain ⟨⟨n, rfl, hkey⟩, hrest⟩ := List.forall_mem_cons.mp h
      rw [sectionEntries, ih hrest]
      cases hnull : v.isNull with
      | true => simp [commonEntries, Dict.compact, hnull]
      | false =>
          rw [hkey]
          simp only [commonEntries, Dict.compact, commonKey, hnull, List.filter_cons,
            Bool.not_false, if_true, List.map_cons]
          rfl

theorem mem_commonEntries {key : String} (h : ∀ k ∈ Dict.keys d, ∃ n, k = .text n) :
    (.text key, v) ∈ commonEntries d ↔ ∃ n, commonName n = key ∧ (.text n, v) ∈ d ∧ v ≠ .null := by
  simp only [commonEntries, Dict.compact, List.mem_map, List.mem_filter, Bool.not_eq_true',
    isNull_eq_false]
  constructor
  · rintro ⟨⟨k, u⟩, ⟨hmem, hnull⟩, heq⟩
    obtain ⟨n, rfl⟩ := h k (List.mem_map_of_mem hmem)
    obtain ⟨hkey, rfl⟩ := Prod.mk.inj heq
    exact ⟨n, Value.text.inj hkey, hmem, hnull⟩
  · rintro ⟨n, rfl, hmem, hnull⟩
    exact ⟨_, ⟨hmem, hnull⟩, rfl⟩

/-- Keys have the same common spelling just if they are for the same thing. -/
def SharesSpelling (w : Vocabulary) : Prop :=
  ∀ names ∈ w.synonyms, ∀ names' ∈ w.synonyms, ∀ n ∈ names, ∀ n' ∈ names',
    (commonName n = commonName n' ↔ names = names')

theorem sharesSpelling (p : Part) : SharesSpelling p.vocabulary := by
  unfold SharesSpelling
  cases p <;> decide

variable {w : Vocabulary}

theorem exists_text (hd : Speaks w d) : ∀ k ∈ Dict.keys d, ∃ n, k = .text n := by
  intro k hk
  obtain ⟨names, -, n, -, rfl⟩ := hd.known k hk
  exact ⟨n, rfl⟩

/-- Keys of one mapping that are spelled the same are the same. -/
theorem eq_of_commonName (hd : Speaks w d) (hw : SharesSpelling w) {n n' : String}
    (hn : .text n ∈ Dict.keys d) (hn' : .text n' ∈ Dict.keys d) (h : commonName n = commonName n') :
    n = n' := by
  obtain ⟨names, hnames, m, hm, hmn⟩ := hd.known _ hn
  obtain ⟨names', hnames', m', hm', hmn'⟩ := hd.known _ hn'
  obtain rfl := Value.text.inj hmn
  obtain rfl := Value.text.inj hmn'
  obtain rfl := (hw names hnames names' hnames' n hm n' hm').mp h
  exact hd.single names hnames n hm n' hm' (Dict.has_eq_true.mpr hn) (Dict.has_eq_true.mpr hn')

theorem isMapping_commonEntries (hd : Speaks w d) (hw : SharesSpelling w) :
    (commonEntries d).IsMapping := by
  have hkeys : Dict.keys (commonEntries d) =
      (Dict.keys d.compact).map commonKey := by
    simp [commonEntries, Dict.keys, Function.comp_def]
  have hsub : (Dict.keys d.compact).Sublist (Dict.keys d) :=
    List.filter_sublist.map _
  constructor
  · intro k hk
    rw [hkeys] at hk
    obtain ⟨j, hj, rfl⟩ := List.mem_map.mp hk
    obtain ⟨n, rfl⟩ := exists_text hd j (hsub.subset hj)
    rfl
  · rw [hkeys, List.pairwise_map]
    refine (hd.isMapping.different.sublist hsub).imp_of_mem fun {j k} hj hk hdifferent => ?_
    obtain ⟨n, rfl⟩ := exists_text hd j (hsub.subset hj)
    obtain ⟨n', rfl⟩ := exists_text hd k (hsub.subset hk)
    rw [commonKey, commonKey, Dict.same_text, Dict.keyIs_text]
    refine beq_false_of_ne fun heq => ?_
    rw [eq_of_commonName hd hw (hsub.subset hj) (hsub.subset hk) heq] at hdifferent
    simp [Dict.same_text] at hdifferent

/-- **A section gives under a common key** what it gave under the keys for the same. -/
theorem get?_commonEntries (hd : Speaks w d) (hw : SharesSpelling w) (hnames : names ∈ w.synonyms)
    {key : String} (hkey : key ∈ names) (hcommon : commonName key = key) :
    (commonEntries d).get? key = d.firstGiven? names := by
  ext v
  rw [Dict.get?_eq_some (isMapping_commonEntries hd hw), mem_commonEntries (exists_text hd),
    hd.oneSpelling.firstGiven?_eq_some hnames]
  constructor
  · rintro ⟨n, hn, hmem⟩
    obtain ⟨names', hnames', m, hm, hmn⟩ := hd.known _ (List.mem_map_of_mem hmem.1)
    obtain rfl := Value.text.inj hmn
    obtain rfl := (hw names' hnames' names hnames n hm key hkey).mp (hn.trans hcommon.symm)
    exact ⟨n, hm, (Dict.given?_eq_some hd.isMapping).mpr hmem⟩
  · rintro ⟨n, hn, hgiven⟩
    refine ⟨n, ?_, (Dict.given?_eq_some hd.isMapping).mp hgiven⟩
    rw [(hw names hnames names hnames n hn key hkey).mpr rfl, hcommon]

/-! ## Reading the sections -/

/-- A section as it is read. -/
def readPart (d : Dict) (p : Part) : Dict :=
  match d.given? p.name with
  | some (.dict entries) => commonEntries entries
  | _ => []

theorem given?_eq_dict {name : String} {entries : Dict} :
    d.given? name = some (.dict entries) ↔ d.get? name = some (.dict entries) := by
  unfold Dict.given?
  cases d.get? name with
  | none => simp
  | some v => cases v <;> simp [Value.present?]

theorem readPart_cases (hd : IsPlain d) (p : Part) :
    (∃ entries, d.get? p.name = some (.dict entries) ∧ IsPlainSection p entries ∧
      readPart d p = commonEntries entries ∧
      ∀ names, sectionGiven? d p names = Dict.firstGiven? entries names) ∨
    ((∀ entries, d.get? p.name ≠ some (.dict entries)) ∧ readPart d p = [] ∧
      ∀ names, sectionGiven? d p names = none) := by
  unfold readPart sectionGiven?
  by_cases h : ∃ entries, d.given? p.name = some (.dict entries)
  · obtain ⟨entries, hentries⟩ := h
    have hget := given?_eq_dict.mp hentries
    have hplain := hd.parts p entries ((Dict.get?_eq_some hd.isMapping).mp hget)
    exact .inl ⟨entries, hget, hplain, by rw [hentries], fun names => by rw [hentries]⟩
  · have hne : ∀ entries, d.given? p.name ≠ some (.dict entries) := not_exists.mp h
    refine .inr ⟨fun entries => mt given?_eq_dict.mpr (hne entries), ?_, fun names => ?_⟩
    · split
      · next entries hentries => exact absurd hentries (hne entries)
      · rfl
    · split
      · next entries hentries => exact absurd hentries (hne entries)
      · rfl

theorem sectionOf_eq (h : library.IsDocumented) (hd : IsPlain d) (p : Part) :
    sectionOf library d p = .ok (readPart d p) := by
  rcases readPart_cases hd p with ⟨entries, hget, hplain, hread, -⟩ | ⟨hne, hread, -⟩
  · have hspeaks := hplain.toSpeaks
    have hkeys : ∀ k ∈ Dict.keys entries, ∃ n, k = .text n ∧
        sectionKey library (.text n) = .ok (.text (commonName n)) := by
      intro k hk
      obtain ⟨names, hnames, n, hn, rfl⟩ := hspeaks.known k hk
      exact ⟨n, rfl, spellsIn h p names hnames n hn⟩
    rw [sectionOf, hget, hread]
    simp only [sectionEntries_eq hkeys, Dict.ofEntries]
    show Except.ok (Dict.union [] (commonEntries entries)) = _
    rw [Dict.nil_union (isMapping_commonEntries hspeaks (sharesSpelling p))]
  · rw [sectionOf, hread]
    split
    · next entries hentries => exact absurd hentries (hne entries)
    · rfl

theorem isMapping_readPart (hd : IsPlain d) (p : Part) : (readPart d p).IsMapping := by
  rcases readPart_cases hd p with ⟨entries, -, hplain, hread, -⟩ | ⟨-, hread, -⟩
  · rw [hread]
    exact isMapping_commonEntries hplain.toSpeaks (sharesSpelling p)
  · rw [hread]
    exact .nil

/-- What is read of a section is what it gives. -/
theorem get?_readPart (hd : IsPlain d) (hnames : names ∈ p.vocabulary.synonyms) {key : String}
    (hkey : key ∈ names) (hcommon : commonName key = key) :
    (readPart d p).get? key = sectionGiven? d p names := by
  rcases readPart_cases hd p with ⟨entries, -, hplain, hread, hgiven⟩ | ⟨-, hread, hgiven⟩
  · rw [hread, hgiven]
    exact get?_commonEntries hplain.toSpeaks (sharesSpelling p) hnames hkey hcommon
  · rw [hread, hgiven]
    rfl

/-! ## Options beside the sections -/

theorem get?_flatEntry (name key : String) (v : Value) :
    (flatEntry name v).get? key = if name = key then v.present? else none := by
  cases v <;> simp [flatEntry, Value.isNull, Value.present?, Dict.get?_cons]

/-- Of two spellings of which one is used at most, that one is read. -/
theorem present?_className (hd : Speaks vocabulary d) :
    ((d.get? "className").getD (d.getD "class_name")).present? =
      d.firstGiven? ["className", "class_name"] := by
  have hboth : d.firstGiven? ["className", "class_name"] =
      (d.given? "className").or (d.given? "class_name") := by
    simp only [Dict.firstGiven?, List.findSome?_cons, List.findSome?_nil]
    cases d.given? "className" <;> cases d.given? "class_name" <;> rfl
  rw [hboth]
  cases hcamel : d.get? "className" with
  | none => simpa [Dict.given?, hcamel] using Dict.present?_getD d "class_name"
  | some v =>
      cases hsnake : d.get? "class_name" with
      | none => simp [Dict.given?, hcamel, hsnake]
      | some u =>
          have hsame : "className" = "class_name" :=
            hd.single ["className", "class_name"] (by decide) _ (by decide) _ (by decide)
              (by rw [Dict.has, hcamel]; rfl) (by rw [Dict.has, hsnake]; rfl)
          exact absurd hsame (by decide)

theorem get?_dropBlank (d : Dict) (name key : String) :
    (dropBlank d name).get? key = (d.get? key).filter fun v => key != name || v.truthy := by
  unfold dropBlank
  by_cases hkey : key = name
  · subst hkey
    cases hget : d.get? key with
    | none => simp [Dict.getD, hget, Value.truthy, Dict.get?_erase]
    | some v =>
        cases hv : v.truthy <;> simp [Dict.getD, hget, hv, Dict.get?_erase, Option.filter_some]
  · have hkeep : ∀ o : Option Value, (o.filter fun v => key != name || v.truthy) = o := by
      intro o
      cases o <;> simp [hkey]
    rw [hkeep]
    split
    · rfl
    · rw [Dict.get?_erase, if_neg hkey]

/-! ## All sections -/

/-- The sections as they are read, with what stands beside them. -/
def readSections (d : Dict) : Sections where
  form := dropBlank (Dict.union (flatForm d) (readPart d .form)) "id"
  submit := dropBlank (Dict.union (flatSubmit d) (readPart d .submit)) "text"
  classes := readPart d .classes

theorem ofDict_eq (h : library.IsDocumented) (hd : IsPlain d) :
    Sections.ofDict library d = .ok (readSections d) := by
  rw [Sections.ofDict, sectionOf_eq h hd, sectionOf_eq h hd, sectionOf_eq h hd]
  rfl

/-- A value that counts for an option. -/
def TextOption.counts (x : TextOption) (v : Value) : Bool :=
  !x.needsText || v.truthy

theorem TextOption.get?_readPart (hd : IsPlain d) (x : TextOption) :
    (readPart d x.part).get? x.capitalName = sectionGiven? d x.part x.keys := by
  refine Options.get?_readPart hd ?_ ?_ ?_ <;> cases x <;> decide

/-- What the options beside the sections give for the form. -/
theorem get?_flatForm (hd : Speaks vocabulary d) (hx : x.part = .form) :
    (flatForm d).get? x.capitalName = d.firstGiven? x.flatKeys := by
  have hsingle (name : String) : d.firstGiven? [name] = (d.getD name).present? := by
    rw [Dict.firstGiven?_singleton, Dict.present?_getD]
  have hclass := present?_className hd
  simp only [flatForm, Dict.get?_append, get?_flatEntry]
  cases x with
  | formId => simp [TextOption.capitalName, TextOption.name, TextOption.flatKeys, hsingle]
  | action => simp [TextOption.capitalName, TextOption.name, TextOption.flatKeys, hsingle]
  | method => simp [TextOption.capitalName, TextOption.name, TextOption.flatKeys, hsingle]
  | formClass => simp [TextOption.capitalName, TextOption.flatKeys, hclass]
  | _ => cases hx

theorem filter_present? (v : Value) :
    v.present?.filter Value.truthy = if v.truthy then some v else none := by
  cases v <;> simp [Value.present?, Value.truthy, Option.filter_some]

/-- What they give for the button: a text that is not empty. -/
theorem get?_flatSubmit (d : Dict) (key : String) :
    (flatSubmit d).get? key =
      if "text" = key then (d.given? "submitText").filter Value.truthy else none := by
  unfold flatSubmit
  rw [← Dict.present?_getD, filter_present?]
  cases htext : (d.getD "submitText").truthy <;> simp [htext, Dict.get?_cons]

/-- What is read for an option is what is given for it, if it counts. -/
theorem get?_readSections (hd : IsPlain d) (x : TextOption) :
    ((readSections d).part x.part).get? x.capitalName = (x.given? d).filter x.counts := by
  unfold TextOption.given?
  rw [← x.get?_readPart hd]
  cases hpart : x.part with
  | form =>
      show (dropBlank (Dict.union (flatForm d) (readPart d .form)) "id").get? x.capitalName = _
      rw [get?_dropBlank, Dict.get?_union _ (isMapping_readPart hd .form),
        get?_flatForm hd.toSpeaks hpart]
      cases x with
      | formId => rfl
      | action => rfl
      | method => rfl
      | formClass => rfl
      | _ => cases hpart
  | submit =>
      show (dropBlank (Dict.union (flatSubmit d) (readPart d .submit)) "text").get?
        x.capitalName = _
      rw [get?_dropBlank, Dict.get?_union _ (isMapping_readPart hd .submit), get?_flatSubmit]
      cases x with
      | submitText =>
          -- an empty text beside the section is left out at once, one in the section afterwards
          have hkey : TextOption.submitText.capitalName = "text" := rfl
          have hflat : d.firstGiven? TextOption.submitText.flatKeys = d.given? "submitText" :=
            Dict.firstGiven?_singleton d "submitText"
          rw [hkey, hflat, if_pos rfl]
          cases (readPart d .submit).get? "text" with
          | none =>
              cases d.given? "submitText" with
              | none => rfl
              | some v =>
                  cases hv : v.truthy <;>
                    simp [hv, Option.filter_some, TextOption.counts, TextOption.needsText]
          | some v => rfl
      | submitClass => rfl
      | _ => cases hpart
  | classes =>
      have hflat : x.flatKeys = [] := by
        cases x with
        | fieldGroup | label | input | error | hint => rfl
        | _ => cases hpart
      have hcounts (v : Value) : x.counts v = true := by
        cases x with
        | fieldGroup | label | input | error | hint => rfl
        | _ => cases hpart
      have hnone : d.firstGiven? [] = none := rfl
      rw [hflat, hnone, Option.or_none]
      show (readPart d .classes).get? x.capitalName = _
      cases (readPart d .classes).get? x.capitalName <;> simp [Option.filter_some, hcounts]

/-- No key is read as a name that has another spelling. -/
theorem commonName_ne (hx : x.capitalName ≠ x.name) (n : String) : commonName n ≠ x.name := by
  intro hn
  unfold commonName at hn
  cases hfind : TextOption.all.find? fun y => y.name == n with
  | none =>
      rw [hfind] at hn
      have hname := List.find?_eq_none.mp hfind x x.mem_all
      exact hname (beq_iff_eq.mpr hn.symm)
  | some y =>
      rw [hfind] at hn
      have hother : y.capitalName ≠ x.name := by
        revert hx
        cases x <;> cases y <;> decide
      exact hother hn

theorem get?_readPart_name (hd : IsPlain d) (hx : x.capitalName ≠ x.name) (p : Part) :
    (readPart d p).get? x.name = none := by
  rcases readPart_cases hd p with ⟨entries, -, hplain, hread, -⟩ | ⟨-, hread, -⟩
  · rw [hread, Option.eq_none_iff_forall_ne_some]
    intro v hv
    have hmem := (Dict.get?_eq_some (isMapping_commonEntries hplain.toSpeaks
      (sharesSpelling p))).mp hv
    obtain ⟨n, hn, -⟩ := (mem_commonEntries (exists_text hplain.toSpeaks)).mp hmem
    exact commonName_ne hx n hn
  · rw [hread]
    rfl

/-- What is read has the common keys alone. -/
theorem get?_readSections_name (hd : IsPlain d) (hx : x.capitalName ≠ x.name) :
    ((readSections d).part x.part).get? x.name = none := by
  have hread := get?_readPart_name hd hx
  cases x with
  | formClass =>
      show (dropBlank (Dict.union (flatForm d) (readPart d .form)) "id").get? _ = none
      rw [get?_dropBlank, Dict.get?_union _ (isMapping_readPart hd .form), hread]
      simp [flatForm, Dict.get?_append, get?_flatEntry, TextOption.name]
  | submitClass =>
      show (dropBlank (Dict.union (flatSubmit d) (readPart d .submit)) "text").get? _ = none
      rw [get?_dropBlank, Dict.get?_union _ (isMapping_readPart hd .submit), hread,
        get?_flatSubmit]
      simp [TextOption.name]
  | fieldGroup => exact hread .classes
  | _ => exact absurd rfl hx

/-- **What the sections hold for an option** is what is given for it, if it counts. -/
theorem found?_readSections (hd : IsPlain d) (x : TextOption) :
    x.found? (readSections d) = (x.given? d).filter x.counts := by
  rw [TextOption.found?, ← get?_readSections hd]
  by_cases hx : x.capitalName = x.name
  · rw [← hx, Option.or_self]
  · rw [get?_readSections_name hd hx, Option.or_none]

/-- The attributes that are read are those that the section gives. -/
theorem get?_attrs (hd : IsPlain d) (hp : p ≠ .classes) :
    ((readSections d).part p).get? "attrs" = sectionGiven? d p ["attrs"] := by
  have hkeep : ∀ (o : Option Value) (name : String), name ≠ "attrs" →
      (o.filter fun v => "attrs" != name || v.truthy) = o := by
    intro o name hname
    cases o <;> simp [hname.symm]
  cases p with
  | form =>
      rw [← get?_readPart hd (by decide) (.head []) (by decide)]
      show (dropBlank (Dict.union (flatForm d) (readPart d .form)) "id").get? "attrs" = _
      rw [get?_dropBlank, hkeep _ _ (by decide), Dict.get?_union _ (isMapping_readPart hd .form)]
      simp [flatForm, Dict.get?_append, get?_flatEntry]
  | submit =>
      rw [← get?_readPart hd (by decide) (.head []) (by decide)]
      show (dropBlank (Dict.union (flatSubmit d) (readPart d .submit)) "text").get? "attrs" = _
      rw [get?_dropBlank, hkeep _ _ (by decide), Dict.get?_union _ (isMapping_readPart hd .submit),
        get?_flatSubmit]
      simp
  | classes => exact absurd rfl hp

end Options
end FieldRules
