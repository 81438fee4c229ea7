import FieldRules.Options.Standard
import FieldRules.Options.Resolve
import FieldRules.Proofs.Failing
import FieldRules.Proofs.Value.Mapping

/-!
# Proofs — Documented

What the documentation of the library of models says of the three functions that this library calls
(`Library.IsDocumented`), and that the library the program runs with does it
(`Library.standard_isDocumented`). Results on options that depend on the library take a library of
which this holds.
-/

namespace FieldRules

/-! ## Readable environments -/

namespace Settings

/-- The word stands for a truth value, in small letters or capitals. -/
def IsTruthWord (s : String) : Prop :=
  s.toLower ∈ truthWords ++ falsehoodWords

instance (s : String) : Decidable (IsTruthWord s) :=
  inferInstanceAs (Decidable (_ ∈ _))

theorem isSome_readTruth? {s : String} : (readTruth? s).isSome = true ↔ IsTruthWord s := by
  unfold readTruth? IsTruthWord
  rw [List.mem_append]
  by_cases htrue : s.toLower ∈ truthWords
  · simp [htrue]
  · by_cases hfalse : s.toLower ∈ falsehoodWords <;> simp [htrue, hfalse]

end Settings

/-- The setting that is no text is not set, or set to a word for a truth value. -/
def Environment.IsReadable (env : Environment) : Prop :=
  ∀ s, env Settings.logJsonVariable = some s → Settings.IsTruthWord s

namespace Options

/-! ## Sections that fit -/

/-- A mapping with texts as keys. -/
inductive IsAttributes : Value → Prop
  | dict {attrs : Dict} (h : ∀ k ∈ attrs.keys, ∃ s, k = .text s) : IsAttributes (.dict attrs)

/-- What sections hold is of the right kind. -/
structure Sections.Fits (s : Sections) : Prop where
  text : ∀ (x : TextOption) v, x.found? s = some v → ∃ t, v = .text t
  attrs : ∀ p : Part, p ≠ .classes → ∀ v, (s.part p).get? "attrs" = some v → IsAttributes v

/-- Sections hold every option for which there is a setting. -/
def Sections.IsComplete (s : Sections) : Prop :=
  ∀ x : TextOption, x.hasSetting = true → x.found? s ≠ none

end Options

/-! ## Documented behaviour -/

open Options

/-- What is documented of a library of models. -/
structure Library.IsDocumented (library : Library) : Prop where
  /-- A text has a spelling with capitals. -/
  camel_text : ∀ s, ∃ t, library.camel (.text s) = .ok t
  /-- What is no text has none. -/
  camel_other : ∀ k, (∀ s, k ≠ .text s) → library.camel k = .error .keyNotText
  /-- In that spelling the words after the first start with a capital, and low lines are gone. -/
  camel_name : ∀ x : TextOption, '_' ∈ x.name.toList →
    library.camel (.text x.name) = .ok x.capitalName
  /-- A setting that is a text takes any; the other one takes words for truth values. -/
  settings_ok : ∀ env : Environment, env.IsReadable →
    ∃ settings, library.settings env = .ok settings
  settings_error : ∀ env : Environment, ¬ env.IsReadable →
    ∃ text complaints, library.settings env = .error (.unfit text complaints)
  /-- A setting is what its variable says, and has its default where this is not set. -/
  settings_eq : ∀ env settings, library.settings env = .ok settings →
    settings = .ofVariables env settings.logJson
  /-- What fits is accepted. The settings are asked for only where an option is missing. -/
  options_ok : ∀ settings s, s.Fits → (s.IsComplete ∨ ∃ r, settings = .ok r) →
    ∃ o, library.options settings s = .ok o
  /-- What does not fit is refused with complaints, and nothing else happens, except that settings
  which are asked for may be missing. -/
  options_error : ∀ settings s e, library.options settings s = .error e →
    (∃ text complaints, e = .unfit text complaints) ∨ settings = .error e
  /-- Where options fit that have to be completed, missing settings are the only fault. -/
  options_incomplete : ∀ e s, s.Fits → ¬ s.IsComplete → library.options (.error e) s = .error e
  /-- A text is taken from under the spelling with capitals or the name. -/
  options_text : ∀ settings s o, library.options settings s = .ok o →
    ∀ (x : TextOption) t, x.found? s = some (.text t) → x.value o = t
  /-- What is missing is completed from the settings. -/
  options_setting : ∀ settings s o, library.options settings s = .ok o →
    ∀ x : TextOption, x.found? s = none → x.hasSetting = true →
      ∃ r, settings = .ok r ∧ x.setting? r = some (x.value o)
  /-- What is missing and has no setting is empty. -/
  options_empty : ∀ settings s o, library.options settings s = .ok o →
    ∀ x : TextOption, x.found? s = none → x.hasSetting = false → x.value o = ""
  /-- Attributes are taken as they are, and empty where there are none. -/
  options_attrs : ∀ settings s o, library.options settings s = .ok o →
    ∀ p : Part, p ≠ .classes → p.attrs o = s.attrs p

/-! ## The library of the program -/

namespace Settings

variable {env : Environment}

theorem ofEnvironment_of_isReadable (h : env.IsReadable) :
    ∃ b, ofEnvironment env = .ok (ofVariables env b) := by
  unfold ofEnvironment
  cases hlog : env logJsonVariable with
  | none => exact ⟨false, rfl⟩
  | some s =>
      obtain ⟨b, hb⟩ := Option.isSome_iff_exists.mp (isSome_readTruth?.mpr (h s hlog))
      exact ⟨b, by simp only [hb]⟩

theorem ofEnvironment_of_not_isReadable (h : ¬ env.IsReadable) :
    ∃ text complaints, ofEnvironment env = .error (.unfit text complaints) := by
  unfold ofEnvironment
  cases hlog : env logJsonVariable with
  | none => exact absurd (fun s hs => by rw [hlog] at hs; cases hs) h
  | some s =>
      cases hs : readTruth? s with
      | none => exact ⟨_, _, by simp only [hs]; rfl⟩
      | some b =>
          refine absurd (fun t ht => ?_) h
          obtain rfl := Option.some.inj (hlog.symm.trans ht)
          exact isSome_readTruth?.mp (by rw [hs]; rfl)

end Settings

namespace Options

variable {s : Sections} {settings : Settings} {x : TextOption}

theorem camelKey_name (hx : '_' ∈ x.name.toList) : camelKey x.name = x.capitalName := by
  cases x with
  | formClass | submitClass | fieldGroup => decide +kernel
  | _ => exact absurd hx (by decide)

theorem TextOption.complaint?_eq_none :
    x.complaint? s = none ↔ ∀ v, x.found? s = some v → ∃ t, v = .text t := by
  unfold TextOption.complaint?
  cases x.found? s with
  | none => simp
  | some v => cases v <;> simp

theorem attrsComplaints_eq_nil {p : Part}
    (h : ∀ v, (s.part p).get? "attrs" = some v → IsAttributes v) : attrsComplaints s p = [] := by
  unfold attrsComplaints
  cases hget : (s.part p).get? "attrs" with
  | none => rfl
  | some v =>
      obtain @⟨attrs, htexts⟩ := h v hget
      refine List.filterMap_eq_nil_iff.mpr fun e he => ?_
      obtain ⟨t, ht⟩ := htexts e.1 (List.mem_map_of_mem he)
      rw [ht, keyComplaint?]

/-- There is nothing to complain about in sections that fit. -/
theorem Sections.Fits.complaints_eq_nil (h : s.Fits) : s.complaints = [] := by
  have htexts (xs : List TextOption) : xs.filterMap (TextOption.complaint? s) = [] :=
    List.filterMap_eq_nil_iff.mpr fun x _ => TextOption.complaint?_eq_none.mpr (h.text x)
  simp only [complaints, htexts, attrsComplaints_eq_nil (h.attrs .form (by decide)),
    attrsComplaints_eq_nil (h.attrs .submit (by decide)), List.append_nil]

theorem TextOption.mem_all (x : TextOption) : x ∈ all := by
  cases x <;> decide

theorem Sections.needsSettings_eq_false : s.needsSettings = false ↔ s.IsComplete := by
  simp only [needsSettings, List.any_eq_false, Bool.and_eq_true, not_and, Option.isNone_iff_eq_none,
    IsComplete, ne_eq]
  exact ⟨fun h x => h x x.mem_all, fun h x _ => h x⟩

theorem value_fill (s : Sections) (settings : Settings) (x : TextOption) :
    x.value (s.fill settings) = x.fill s settings := by
  cases x <;> rfl

/-- Sections that fit stand for options, where no settings are missing. -/
theorem Sections.construct_of_fits {settings : Except Fault Settings} (hfits : s.Fits)
    (hsettings : s.IsComplete ∨ ∃ r, settings = .ok r) : ∃ o, s.construct settings = .ok o := by
  simp only [construct, hfits.complaints_eq_nil, List.isEmpty_nil, if_true]
  cases settings with
  | ok r => exact ⟨_, rfl⟩
  | error e =>
      have hcomplete : s.IsComplete := hsettings.resolve_right nofun
      rw [needsSettings_eq_false.mpr hcomplete]
      exact ⟨_, rfl⟩

/-- Sections are complained about, or settings are missing. -/
theorem Sections.construct_eq_error {settings : Except Fault Settings} {e : Fault}
    (h : s.construct settings = .error e) :
    (∃ text complaints, e = .unfit text complaints) ∨ settings = .error e := by
  unfold construct at h
  cases settings with
  | ok r =>
      dsimp only at h
      split at h
      · cases h
      · exact .inl ⟨_, _, (Except.error.inj h).symm⟩
  | error e' =>
      dsimp only at h
      split at h
      · exact .inr (congrArg _ (Except.error.inj h))
      · split at h
        · cases h
        · exact .inl ⟨_, _, (Except.error.inj h).symm⟩

/-- Sections stand for options in one way only. -/
theorem Sections.construct_eq_ok {settings : Except Fault Settings} {o : RenderOptions}
    (h : s.construct settings = .ok o) :
    (∃ r, settings = .ok r ∧ o = s.fill r) ∨ (s.IsComplete ∧ o = s.fill {}) := by
  unfold construct at h
  cases settings with
  | ok r =>
      dsimp only at h
      split at h
      · exact .inl ⟨r, rfl, (Except.ok.inj h).symm⟩
      · cases h
  | error e =>
      dsimp only at h
      split at h
      · cases h
      · next hneeds =>
          split at h
          · exact .inr ⟨needsSettings_eq_false.mp (Bool.eq_false_iff.mpr hneeds),
              (Except.ok.inj h).symm⟩
          · cases h

end Options

/-- **The library of the program does what is documented.** -/
theorem Library.standard_isDocumented : standard.IsDocumented where
  camel_text s := ⟨_, rfl⟩
  camel_other k h := by
    cases k with
    | text s => exact absurd rfl (h s)
    | _ => rfl
  camel_name x hx := congrArg Except.ok (camelKey_name hx)
  settings_ok env h := by
    obtain ⟨b, hb⟩ := Settings.ofEnvironment_of_isReadable h
    exact ⟨_, hb⟩
  settings_error env h := Settings.ofEnvironment_of_not_isReadable h
  settings_eq env settings h := by
    by_cases hreadable : env.IsReadable
    · obtain ⟨b, hb⟩ := Settings.ofEnvironment_of_isReadable hreadable
      obtain rfl := Except.ok.inj (hb.symm.trans h)
      rfl
    · obtain ⟨_, _, herror⟩ := Settings.ofEnvironment_of_not_isReadable hreadable
      cases herror.symm.trans h
  options_ok settings s hfits hsettings := Sections.construct_of_fits hfits hsettings
  options_error settings s e h := Sections.construct_eq_error h
  options_incomplete e s _ hincomplete := by
    rw [← Sections.needsSettings_eq_false, Bool.not_eq_false] at hincomplete
    simp only [standard, Sections.construct, hincomplete, if_true]
  options_text settings s o h x t hfound := by
    rcases Sections.construct_eq_ok h with ⟨r, -, rfl⟩ | ⟨-, rfl⟩ <;>
      rw [value_fill, TextOption.fill, hfound]
  options_setting settings s o h x hfound hsetting := by
    rcases Sections.construct_eq_ok h with ⟨r, hr, rfl⟩ | ⟨hcomplete, -⟩
    · refine ⟨r, hr, ?_⟩
      rw [value_fill, TextOption.fill, hfound]
      cases x <;> first | rfl | cases hsetting
    · exact absurd hfound (hcomplete x hsetting)
  options_empty settings s o h x hfound hsetting := by
    rcases Sections.construct_eq_ok h with ⟨r, -, rfl⟩ | ⟨-, rfl⟩ <;>
      rw [value_fill, TextOption.fill, hfound] <;>
      cases x <;> first | rfl | cases hsetting
  options_attrs settings s o h p hp := by
    rcases Sections.construct_eq_ok h with ⟨r, -, rfl⟩ | ⟨-, rfl⟩ <;>
      cases p <;> first | rfl | exact absurd rfl hp

end FieldRules
