import FieldRules.Proofs.Options.Documented

/-!
# Proofs — Keys

How resolving options ends, whatever their shape. A section is read unless a key in it, with a value
under it, is neither a text nor a tuple without a low line (`HasForeignKey`). Options with such a
key end at it, with no word on what is wrong with them; all others are resolved or refused in
words, by every library that does what is documented (`resolve_ends`).
-/

namespace FieldRules.Options

variable {k v options : Value} {d entries : Dict} {library : Library} {deployment : Deployment}

/-! ## Keys of sections -/

/-- A key that a section may have: a text, or a tuple without a low line, which nothing uses. -/
inductive IsSectionKey : Value → Prop
  | text (s : String) : IsSectionKey (.text s)
  | tuple {items : List Value} (h : .text "_" ∉ items) : IsSectionKey (.tuple items)

/-- The key stands in a section of the options and has a value. -/
inductive InSection (k : Value) : Value → Prop
  | intro {d entries : Dict} {p : Part} {v : Value}
      (hsection : d.get? p.name = some (.dict entries)) (hentry : (k, v) ∈ entries)
      (hvalue : v ≠ .null) : InSection k (.dict d)

/-- A section of the options has a value under a key that it may not have. -/
def HasForeignKey (options : Value) : Prop :=
  ∃ k, InSection k options ∧ ¬ IsSectionKey k

theorem isNull_eq_false : v.isNull = false ↔ v ≠ .null := by
  cases v <;> simp [Value.isNull]

theorem exists_sectionKey (h : library.IsDocumented) (hk : IsSectionKey k) :
    ∃ key, sectionKey library k = .ok key := by
  cases hk with
  | text s =>
      rw [sectionKey]
      split
      · obtain ⟨t, ht⟩ := h.camel_text s
        rw [ht]
        exact ⟨_, rfl⟩
      · exact ⟨_, rfl⟩
  | tuple hline =>
      refine ⟨_, if_neg fun hany => hline ?_⟩
      obtain ⟨item, hitem, hkey⟩ := List.any_eq_true.mp hany
      rwa [Dict.keyIs_eq_true.mp hkey] at hitem

theorem sectionKey_eq_error (h : library.IsDocumented) (hk : ¬ IsSectionKey k) :
    sectionKey library k = .error .keyNotText := by
  cases k with
  | text s => exact absurd (.text s) hk
  | tuple items =>
      -- a tuple gets as far as the library only with a low line in it
      have hline : items.any (Dict.keyIs "_") = true :=
        Classical.byContradiction fun hnone => hk (.tuple fun hitem =>
          hnone (List.any_eq_true.mpr ⟨_, hitem, Dict.keyIs_eq_true.mpr rfl⟩))
      have hcamel : library.camel (.tuple items) = .error .keyNotText := h.camel_other _ nofun
      rw [sectionKey, if_pos hline, hcamel]
      rfl
  | _ => rfl

/-! ## Reading the sections -/

/-- A section is read, or reading it stops at a key. -/
theorem sectionEntries_cases (h : library.IsDocumented) (d : Dict) :
    ((∃ read, sectionEntries library d = .ok read) ∧
        ∀ e ∈ d, e.2 ≠ .null → IsSectionKey e.1) ∨
      (sectionEntries library d = .error .keyNotText ∧
        ∃ e ∈ d, e.2 ≠ .null ∧ ¬ IsSectionKey e.1) := by
  induction d with
  | nil => exact .inl ⟨⟨[], rfl⟩, nofun⟩
  | cons entry rest ih =>
      obtain ⟨k, v⟩ := entry
      rw [sectionEntries]
      by_cases hnull : v = .null
      · subst hnull
        simpa [Value.isNull] using ih
      · rw [isNull_eq_false.mpr hnull, if_neg Bool.false_ne_true]
        by_cases hk : IsSectionKey k
        · obtain ⟨key, hkey⟩ := exists_sectionKey h hk
          rw [hkey]
          rcases ih with ⟨⟨read, hread⟩, hkeys⟩ | ⟨hstop, e, he, hforeign⟩
          · rw [hread]
            exact .inl ⟨⟨_, rfl⟩, List.forall_mem_cons.mpr ⟨fun _ => hk, hkeys⟩⟩
          · rw [hstop]
            exact .inr ⟨rfl, e, List.mem_cons_of_mem _ he, hforeign⟩
        · rw [sectionKey_eq_error h hk]
          exact .inr ⟨rfl, (k, v), List.mem_cons_self, hnull, hk⟩

theorem sectionOf_cases (h : library.IsDocumented) (d : Dict) (p : Part) :
    ((∃ read, sectionOf library d p = .ok read) ∧ ∀ entries, d.get? p.name = some (.dict entries) →
        ∀ e ∈ entries, e.2 ≠ .null → IsSectionKey e.1) ∨
      (sectionOf library d p = .error .keyNotText ∧ HasForeignKey (.dict d)) := by
  unfold sectionOf
  split
  · next entries hsection =>
      rcases sectionEntries_cases h entries with ⟨⟨read, hread⟩, hkeys⟩ |
        ⟨hstop, e, he, hvalue, hkey⟩
      · refine .inl ⟨⟨_, by rw [hread]; rfl⟩, fun entries' hentries' => ?_⟩
        obtain rfl := Value.dict.inj (Option.some.inj (hsection.symm.trans hentries'))
        exact hkeys
      · exact .inr ⟨by rw [hstop]; rfl, e.1, .intro hsection he hvalue, hkey⟩
  · next hsection =>
      exact .inl ⟨⟨[], rfl⟩, fun entries hentries => absurd hentries (hsection entries)⟩

/-- The sections are read, or reading them stops at a key. -/
theorem Sections.ofDict_cases (h : library.IsDocumented) (d : Dict) :
    ((∃ s, ofDict library d = .ok s) ∧ ¬ HasForeignKey (.dict d)) ∨
      (ofDict library d = .error .keyNotText ∧ HasForeignKey (.dict d)) := by
  unfold ofDict
  rcases sectionOf_cases h d .form with ⟨⟨form, hform⟩, hformKeys⟩ | ⟨hform, hforeign⟩
  · rcases sectionOf_cases h d .submit with ⟨⟨submit, hsubmit⟩, hsubmitKeys⟩ | ⟨hsubmit, hforeign⟩
    · rcases sectionOf_cases h d .classes with ⟨⟨classes, hclasses⟩, hclassesKeys⟩ |
        ⟨hclasses, hforeign⟩
      · rw [hform, hsubmit, hclasses]
        refine .inl ⟨⟨_, rfl⟩, ?_⟩
        rintro ⟨k, @⟨_, entries, p, v, hsection, hentry, hvalue⟩, hkey⟩
        cases p with
        | form => exact hkey (hformKeys entries hsection _ hentry hvalue)
        | submit => exact hkey (hsubmitKeys entries hsection _ hentry hvalue)
        | classes => exact hkey (hclassesKeys entries hsection _ hentry hvalue)
      · rw [hform, hsubmit, hclasses]
        exact .inr ⟨rfl, hforeign⟩
    · rw [hform, hsubmit]
      exact .inr ⟨rfl, hforeign⟩
  · rw [hform]
    exact .inr ⟨rfl, hforeign⟩

/-! ## Resolving -/

/-- Options are refused in words: for what they are instead of a mapping, or because some of them do
not fit, with the words that the library has for it. -/
inductive IsWorded (library : Library) : Fault → Prop
  | shape (v : Value) : IsWorded library (.usage
      (UsageError.invalidOptions ("expected a mapping, got " ++ v.typeName) "options"))
  | unfit {settings : Except Fault Settings} {s : Sections} {text : String}
      {complaints : List Complaint} :
      library.options settings s = .error (.unfit text complaints) →
      IsWorded library (.usage (UsageError.unfitOptions text complaints "options"))

/-- A library fails to make options of sections in words only. -/
theorem Sections.isWorded_of_resolve (h : deployment.library.IsDocumented) (s : Sections) :
    FailsWith (IsWorded deployment.library) (s.resolve deployment) := by
  intro e he
  unfold resolve at he
  split at he
  · next hunfit => exact Except.error.inj he ▸ .unfit hunfit
  · next hother =>
      refine absurd he fun he => ?_
      have hunfit : ∃ text complaints, e = .unfit text complaints := by
        rcases h.options_error _ _ _ he with hunfit | hsettings
        · exact hunfit
        -- the settings are the fault, so the environment cannot be read
        · by_cases henv : deployment.environment.IsReadable
          · obtain ⟨r, hr⟩ := h.settings_ok _ henv
            rw [Deployment.settings, hr] at hsettings
            cases hsettings
          · obtain ⟨text, complaints, herror⟩ := h.settings_error _ henv
            exact ⟨text, complaints, Except.error.inj (hsettings.symm.trans herror)⟩
      obtain ⟨text, complaints, rfl⟩ := hunfit
      exact hother text complaints he

theorem resolve_dict (deployment : Deployment) (d : Dict) :
    resolve deployment (.dict d) =
      Sections.ofDict deployment.library d >>= fun s => s.resolve deployment := by
  cases d <;> rfl

theorem resolve_dict_cases (h : deployment.library.IsDocumented) (d : Dict) :
    (HasForeignKey (.dict d) ∧ resolve deployment (.dict d) = .error .keyNotText) ∨
      (¬ HasForeignKey (.dict d) ∧
        FailsWith (IsWorded deployment.library) (resolve deployment (.dict d))) := by
  rw [resolve_dict]
  rcases Sections.ofDict_cases h d with ⟨⟨s, hs⟩, hkeys⟩ | ⟨hstop, hforeign⟩
  · rw [hs]
    exact .inr ⟨hkeys, s.isWorded_of_resolve h⟩
  · rw [hstop]
    exact .inl ⟨hforeign, rfl⟩

/-- What is no mapping has no key, and is refused in words if it is given. -/
theorem resolve_of_not_dict (h : deployment.library.IsDocumented) (hd : ∀ d, options ≠ .dict d) :
    ¬ HasForeignKey options ∧
      FailsWith (IsWorded deployment.library) (resolve deployment options) := by
  have hkeys : ¬ HasForeignKey options := by
    rintro ⟨_, ⟨-, -, -⟩, -⟩
    exact hd _ rfl
  refine ⟨hkeys, ?_⟩
  unfold resolve
  split
  · split
    · next d _ => exact absurd rfl (hd d)
    · exact .error (.shape _)
  · rcases resolve_dict_cases h [] with ⟨⟨_, ⟨hsection, _, _⟩, _⟩, _⟩ | ⟨-, hworded⟩
    · cases hsection
    · exact hworded

/-- Resolving stops at a key that a section may not have, and else fails in words only. -/
theorem resolve_cases (h : deployment.library.IsDocumented) (options : Value) :
    (HasForeignKey options ∧ resolve deployment options = .error .keyNotText) ∨
      (¬ HasForeignKey options ∧
        FailsWith (IsWorded deployment.library) (resolve deployment options)) := by
  by_cases hd : ∃ d, options = .dict d
  · obtain ⟨d, rfl⟩ := hd
    exact resolve_dict_cases h d
  · exact .inr (resolve_of_not_dict h (not_exists.mp hd))

/-- **How resolving options ends**, whatever the options and the environment are: at a key that a
section may not have, wherever there is one; else with the options to render by, or with a
complaint in words. -/
theorem resolve_ends (h : deployment.library.IsDocumented) (options : Value) :
    ((∃ k, InSection k options ∧ ¬ IsSectionKey k) ∧
        resolve deployment options = .error .keyNotText) ∨
      ((∀ k, InSection k options → IsSectionKey k) ∧
        ((∃ resolved, resolve deployment options = .ok resolved) ∨
          ∃ e, IsWorded deployment.library e ∧ resolve deployment options = .error e)) := by
  rcases resolve_cases h options with hforeign | ⟨hkeys, hworded⟩
  · exact .inl hforeign
  · refine .inr ⟨fun k hk => ?_, ?_⟩
    · exact Classical.byContradiction fun hkey => hkeys ⟨k, hk, hkey⟩
    · cases hresolved : resolve deployment options with
      | ok resolved => exact .inl ⟨resolved, rfl⟩
      | error e => exact .inr ⟨e, hworded e hresolved, rfl⟩

/-- A key that is a number, and one that has no value. -/
def numberedOptions : Value :=
  .dict [(.text "form", .dict [(.int 1, .text "x")]), (.text "classes", .dict [(.int 2, .null)])]

/-- A class for hints that is a number. -/
def numberedHint : Value :=
  .dict [(.text "classes", .dict [(.text "hint", .int 3)])]

theorem resolve_ends_number :
    resolve .standard numberedOptions = .error .keyNotText ∧
      ∃ e, IsWorded .standard e ∧ resolve .standard numberedHint = .error e := by
  have hends := @resolve_ends .standard Library.standard_isDocumented
  constructor
  · rcases hends numberedOptions with ⟨-, hstop⟩ | ⟨hkeys, -⟩
    · exact hstop
    · cases hkeys (.int 1) (.intro (p := .form) rfl List.mem_cons_self nofun)
  · rcases hends numberedHint with ⟨-, hstop⟩ | ⟨-, ⟨resolved, hresolved⟩ | hworded⟩
    · cases hstop
    · cases hresolved
    · exact hworded

/-- A number as the key of an option. -/
theorem resolve_numberKey :
    resolve .standard (.dict [(.text "form", .dict [(.int 1, .text "x")])]) =
      .error .keyNotText := rfl

end FieldRules.Options
