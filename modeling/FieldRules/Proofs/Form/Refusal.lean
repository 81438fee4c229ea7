import FieldRules.Proofs.Form.Agreement
import FieldRules.Proofs.Validation.Calls
import FieldRules.Proofs.Validation.Faults

/-!
# Proofs — Refusal

Where a pattern that does not compile is found. A configuration is refused at its first entry whose
own pattern, or that of its rules, is left with a flaw once the two are merged, even if a later
entry takes the field over (`addFields_eq_error`). What is built has patterns that compile only, so
a form of a configuration never finds one while it validates (`Form.failsWith_validate`).
-/

namespace FieldRules

namespace Builder

variable {entry : Value} {entries : List Value} {fields : Named Dict}

/-! ## Entries -/

/-- The entry can be read: its rule and its name if it describes a field, and what it says about the
button if that is what it is for. -/
structure Normalizes (entry : Value) : Prop where
  rule : ∀ f, field? entry = some f → ∃ r, (fieldRule f.2).outcome = .ok r
  name : ∀ f, field? entry = some f → (f.2.getD "name").isWritable = true
  button : (button? entry).all isWritableSubmit = true

/-- The compiler decides on the pattern of the entry, if it describes a field. -/
def Decided (entry : Value) : Prop :=
  ∀ f r, field? entry = some f → (fieldRule f.2).outcome = .ok r → r.Decided

/-- The entry describes the field of that name, and the pattern that is left after merging it with
the rules that it holds has a flaw. -/
def Flawed (entry : Value) (name source : String) (flaw : Pattern.Flaw) (position : Option Nat) :
    Prop :=
  ∃ d r, field? entry = some (name, d) ∧ (fieldRule d).outcome = .ok r ∧
    r.Flawed source flaw position

/-- The pattern of the entry is refused. -/
def Refused (entry : Value) : Prop :=
  ∃ name source flaw position, Flawed entry name source flaw position

/-! ## Fields -/

/-- A pattern with a flaw is reported under the name of its field. -/
theorem compiledRule_of_flawed {f : String × Dict} {r : Rule} {source : String}
    {flaw : Pattern.Flaw} {position : Option Nat} (hr : (fieldRule f.2).outcome = .ok r)
    (hname : (f.2.getD "name").isWritable = true) (h : r.Flawed source flaw position) :
    (compiledRule f).outcome = .error (patternReport (.text f.1) source flaw position) := by
  rw [compiledRule, Traced.outcome_bind, hr, hname]
  show (Traced.ofExcept (r.compiledPattern (.text f.1)) >>= _).outcome = _
  rw [Traced.outcome_bind, Traced.outcome_ofExcept, h.compiledPattern]
  rfl

theorem exists_compiledRule {f : String × Dict} (hentry : field? entry = some f)
    (hnormal : Normalizes entry) (hdecided : Decided entry) (h : ¬ Refused entry) :
    ∃ r, (compiledRule f).outcome = .ok r := by
  obtain ⟨r, hr⟩ := hnormal.rule f hentry
  rcases (hdecided f r hentry hr).cases with ⟨pattern, hpattern⟩ | ⟨source, flaw, position, hflaw⟩
  · exact ⟨r, compiledRule_eq_ok.mpr ⟨hr, hnormal.name f hentry, pattern, hpattern _⟩⟩
  · exact absurd ⟨f.1, source, flaw, position, f.2, r, hentry, hr, hflaw⟩ h

theorem exists_addFields (h : ∀ f ∈ fields, ∃ r, (compiledRule f).outcome = .ok r) (s : Schema) :
    ∃ t, (addFields s fields).outcome = .ok t := by
  induction fields generalizing s with
  | nil => exact ⟨s, rfl⟩
  | cons f rest ih =>
      obtain ⟨⟨r, hr⟩, hrest⟩ := List.forall_mem_cons.mp h
      obtain ⟨t, ht⟩ := ih hrest (s.add f.1 r)
      exact ⟨t, Traced.outcome_bind_eq_ok.mpr ⟨r, hr, ht⟩⟩

/-- **The first field without a rule is reported**, whatever the fields after it. -/
theorem addFields_eq_error {before after : Named Dict} {f : String × Dict} {fault : Fault}
    (hbefore : ∀ b ∈ before, ∃ r, (compiledRule b).outcome = .ok r)
    (h : (compiledRule f).outcome = .error fault) (s : Schema) :
    (addFields s (before ++ f :: after)).outcome = .error fault := by
  obtain ⟨t, ht⟩ := exists_addFields hbefore s
  rw [addFields_append, Traced.outcome_bind, ht]
  show (compiledRule f >>= _).outcome = _
  rw [Traced.outcome_bind, h]
  rfl

/-! ## Configurations -/

variable {config : Value} {options : Except Fault RenderOptions} {o : RenderOptions}

/-- What becomes of a configuration is decided by its fields, once the options are resolved. -/
theorem build_outcome (hentries : entriesOf config = .ok entries) (ho : options = .ok o)
    (hnormal : ∀ entry ∈ entries, Normalizes entry) :
    (build config options).outcome =
      ((addFields Schema.empty (entries.filterMap field?)).outcome).map
        fun s => (s, withButtons o (entries.filterMap button?)) := by
  have hbuttons : WritableButtons entries := by
    intro b hb
    obtain ⟨entry, hmem, hentry⟩ := List.mem_filterMap.mp hb
    simpa [hentry] using (hnormal entry hmem).button
  simp only [build_eq hentries hbuttons, ho, Traced.outcome_bind, Traced.outcome_ofExcept,
    Traced.outcome_pure]
  cases (addFields Schema.empty (entries.filterMap field?)).outcome <;> rfl

theorem forall_fields {P : String × Dict → Prop}
    (h : ∀ entry ∈ entries, ∀ f, field? entry = some f → P f) :
    ∀ f ∈ entries.filterMap field?, P f := by
  intro f hf
  obtain ⟨entry, hmem, hentry⟩ := List.mem_filterMap.mp hf
  exact h entry hmem f hentry

/-- Without a refused pattern the configuration is built. -/
theorem exists_build_of_not_refused (hentries : entriesOf config = .ok entries)
    (ho : options = .ok o) (hnormal : ∀ entry ∈ entries, Normalizes entry)
    (hdecided : ∀ entry ∈ entries, Decided entry) (h : ∀ entry ∈ entries, ¬ Refused entry) :
    ∃ draft, (build config options).outcome = .ok draft := by
  have hfields := forall_fields fun entry hmem f hentry =>
    exists_compiledRule hentry (hnormal entry hmem) (hdecided entry hmem) (h entry hmem)
  obtain ⟨s, hs⟩ := exists_addFields hfields Schema.empty
  refine ⟨(s, withButtons o (entries.filterMap button?)), ?_⟩
  rw [build_outcome hentries ho hnormal, hs]
  rfl

/-- The first refused pattern is reported. -/
theorem build_eq_error {before after : List Value} {name source : String} {flaw : Pattern.Flaw}
    {position : Option Nat} (hentries : entriesOf config = .ok (before ++ entry :: after))
    (ho : options = .ok o) (hnormal : ∀ e ∈ before ++ entry :: after, Normalizes e)
    (hdecided : ∀ b ∈ before, Decided b) (hbefore : ∀ b ∈ before, ¬ Refused b)
    (h : Flawed entry name source flaw position) :
    (build config options).outcome = .error (patternReport (.text name) source flaw position) := by
  obtain ⟨d, r, hentry, hr, hflaw⟩ := h
  have hfields := forall_fields fun b hmem f hb => exists_compiledRule hb
    (hnormal b (List.mem_append_left _ hmem)) (hdecided b hmem) (hbefore b hmem)
  have hname := (hnormal entry List.mem_append_cons_self).name _ hentry
  have hsplit : (before ++ entry :: after).filterMap field? =
      before.filterMap field? ++ (name, d) :: after.filterMap field? := by
    rw [List.filterMap_append, List.filterMap_cons_some hentry]
  rw [build_outcome hentries ho hnormal, hsplit,
    addFields_eq_error hfields (compiledRule_of_flawed hr hname hflaw)]
  rfl

/-- Where some entry is refused, there is a first one, and it is reported. -/
theorem exists_first_refused (hentries : entriesOf config = .ok entries) (ho : options = .ok o)
    (hnormal : ∀ entry ∈ entries, Normalizes entry) (hdecided : ∀ entry ∈ entries, Decided entry)
    (h : ∃ entry ∈ entries, Refused entry) :
    ∃ before entry after name source flaw position,
      entries = before ++ entry :: after ∧ (∀ b ∈ before, ¬ Refused b) ∧
        Flawed entry name source flaw position ∧
        (build config options).outcome =
          .error (patternReport (.text name) source flaw position) := by
  obtain ⟨before, entry, after, rfl, hbefore, name, source, flaw, position, hflawed⟩ :=
    exists_first h
  refine ⟨before, entry, after, name, source, flaw, position, rfl, hbefore, hflawed, ?_⟩
  exact build_eq_error hentries ho hnormal (fun b hb => hdecided b (List.mem_append_left _ hb))
    hbefore hflawed

end Builder

/-! ## Forms -/

/-- **A form of a configuration finds no refused pattern** while it validates: its patterns compiled
when it was built. -/
theorem Form.failsWith_validate {deployment : Deployment} {config cssClass : Value} {form : Form}
    (h : (Form.ofConfig deployment config cssClass).outcome = .ok form) (validators : Validators)
    (data : Value) : FailsWith Fault.IsOfRecord (form.validate validators data).outcome := by
  obtain ⟨entries, schema, -, hrules, hbuild, settings, -, -⟩ := ofConfig_eq_ok h
  obtain ⟨resolved, hdraft⟩ := hbuild ⟨⟨"", "", "", "", []⟩, ⟨"", "", []⟩, ⟨"", "", "", "", ""⟩⟩
  have hcompiled := Builder.compiled_of_build hdraft
  obtain ⟨prepared, hprepared, -⟩ := Prepared.exists_all_named.mpr
    ⟨Schema.normalized_toFields.mpr rfl, hcompiled⟩
  rw [← hrules] at hprepared
  rw [(checks_of_all hprepared).runs]
  exact Validation.failsWith_run (fun p hp => Prepared.compiled_of_mem_all hprepared hp)
    validators data

namespace Builder

variable {config entry : Value} {options : Except Fault RenderOptions} {entries : List Value}

/-- **A refused pattern is found when the configuration is built, and only then.** Where all entries
can be read and the compiler decides on every pattern, building fails with a
configuration error exactly when some entry is left with a pattern that is refused, be the field
redefined later or not; the error is that of the first such entry and names its field. And a form
that was made of a configuration validates every record without such an error. -/
theorem build_refuses (hentries : entriesOf config = .ok entries) (hoptions : ∃ o, options = .ok o)
    (hnormal : ∀ entry ∈ entries, Normalizes entry)
    (hdecided : ∀ entry ∈ entries, Decided entry) :
    ((∃ e, (build config options).outcome = .error (.ruleConfiguration e)) ↔
        ∃ entry ∈ entries, Refused entry) ∧
      (∀ e, (build config options).outcome = .error (.ruleConfiguration e) →
        ∃ before entry after name source flaw position,
          entries = before ++ entry :: after ∧ (∀ b ∈ before, ¬ Refused b) ∧
            Flawed entry name source flaw position ∧
            e = .invalidPattern source (flaw.describe source.toList position) (.text name) "rules" ∧
            e.metadata.lookup "field" = some (.text name)) ∧
      ∀ deployment config cssClass form,
        (Form.ofConfig deployment config cssClass).outcome = .ok form → ∀ validators data e,
          (form.validate validators data).outcome ≠ .error (.ruleConfiguration e) := by
  obtain ⟨o, ho⟩ := hoptions
  have hfirst := exists_first_refused hentries ho hnormal hdecided
  have hrefused (h : ∃ e, (build config options).outcome = .error (.ruleConfiguration e)) :
      ∃ entry ∈ entries, Refused entry := by
    obtain ⟨e, he⟩ := h
    refine Classical.byContradiction fun hnone => ?_
    obtain ⟨draft, hdraft⟩ := exists_build_of_not_refused hentries ho hnormal hdecided
      fun entry hmem hentry => hnone ⟨entry, hmem, hentry⟩
    rw [hdraft] at he
    cases he
  refine ⟨⟨hrefused, fun h => ?_⟩, fun e he => ?_, ?_⟩
  · obtain ⟨-, -, -, name, source, flaw, position, -, -, -, herror⟩ := hfirst h
    exact ⟨_, herror⟩
  · obtain ⟨before, entry, after, name, source, flaw, position, hsplit, hbefore, hflawed, herror⟩ :=
      hfirst (hrefused ⟨e, he⟩)
    obtain rfl := Fault.ruleConfiguration.inj (Except.error.inj (he.symm.trans herror))
    exact ⟨before, entry, after, name, source, flaw, position, hsplit, hbefore, hflawed, rfl, rfl⟩
  · intro deployment config cssClass form hform validators data e he
    cases Form.failsWith_validate hform validators data _ he

/-- A button, a field whose rules replace its pattern, one whose pattern is refused, and one that
takes its place. -/
def clashingEntries : List Value :=
  [.dict [(.text "type", .text "submit"), (.text "name", .text "go"), (.text "pattern", .text "(")],
    .dict [(.text "name", .text "city"), (.text "pattern", .text "("),
      (.text "rules", .text "pattern:a")],
    .dict [(.text "name", .int 7), (.text "rules", .text "pattern:(")],
    .dict [(.text "name", .int 7), (.text "rules", .text "pattern:a")]]

def plainOptions : RenderOptions :=
  ⟨⟨"f", "#", "POST", "", []⟩, ⟨"Send", "", []⟩, ⟨"", "", "", "", ""⟩⟩

theorem compile_letter_ne_error (refusal : Pattern.Refusal) :
    Pattern.compile "a" ≠ .error refusal := by
  obtain ⟨p, hp⟩ : ∃ p, Pattern.compile "a" = .ok p := exists_ok (by decide +kernel)
  intro h
  cases hp.symm.trans h

theorem compile_parenthesis :
    Pattern.compile "(" = .error (.flaw .unterminatedGroup (some 0)) := rfl

/-- What is left of the pattern of each field. -/
theorem fieldRule_of_mem_clashing : ∀ entry ∈ clashingEntries, ∀ f, field? entry = some f →
    ∃ r, (fieldRule f.2).outcome = .ok r ∧
      (r.pattern = some (.source "a") ∨ f.1 = "7" ∧ r.pattern = some (.source "(")) := by
  simp only [clashingEntries, List.forall_mem_cons]
  refine ⟨nofun, fun f hf => ?_, fun f hf => ?_, fun f hf => ?_, by simp⟩
  all_goals cases hf
  · exact ⟨_, rfl, .inl rfl⟩
  · exact ⟨_, rfl, .inr ⟨rfl, rfl⟩⟩
  · exact ⟨_, rfl, .inl rfl⟩

theorem isWritable_of_mem_clashing : ∀ entry ∈ clashingEntries,
    (∀ f, field? entry = some f → (f.2.getD "name").isWritable = true) ∧
      (button? entry).all isWritableSubmit = true := by
  simp only [clashingEntries, List.forall_mem_cons]
  refine ⟨⟨nofun, rfl⟩, ⟨fun f hf => ?_, rfl⟩, ⟨fun f hf => ?_, rfl⟩, ⟨fun f hf => ?_, rfl⟩,
    by simp⟩
  all_goals
    cases hf
    decide +kernel

theorem normalizes_of_mem_clashing (hmem : entry ∈ clashingEntries) : Normalizes entry := by
  obtain ⟨hname, hbutton⟩ := isWritable_of_mem_clashing entry hmem
  refine ⟨fun f hf => ?_, hname, hbutton⟩
  obtain ⟨r, hr, -⟩ := fieldRule_of_mem_clashing entry hmem f hf
  exact ⟨r, hr⟩

theorem decided_of_mem_clashing (hmem : entry ∈ clashingEntries) : Decided entry := by
  intro f r hf hr source refusal hpattern hrefused
  obtain ⟨r', hr', hsource⟩ := fieldRule_of_mem_clashing entry hmem f hf
  obtain rfl := Except.ok.inj (hr.symm.trans hr')
  rcases hsource with hsource | ⟨-, hsource⟩
  · obtain rfl := PatternSpec.source.inj (Option.some.inj (hpattern.symm.trans hsource))
    exact absurd hrefused (compile_letter_ne_error _)
  · obtain rfl := PatternSpec.source.inj (Option.some.inj (hpattern.symm.trans hsource))
    exact ⟨_, _, Except.error.inj (hrefused.symm.trans compile_parenthesis)⟩

theorem eq_seven_of_mem_clashing {name source : String} {flaw : Pattern.Flaw}
    {position : Option Nat} (hmem : entry ∈ clashingEntries)
    (h : Flawed entry name source flaw position) : name = "7" := by
  obtain ⟨d, r, hf, hr, hpattern, hs⟩ := h
  obtain ⟨r', hr', hsource⟩ := fieldRule_of_mem_clashing entry hmem _ hf
  obtain rfl := Except.ok.inj (hr.symm.trans hr')
  rcases hsource with hsource | ⟨hseven, -⟩
  · obtain rfl := PatternSpec.source.inj (Option.some.inj (hpattern.symm.trans hsource))
    exact absurd hs (compile_letter_ne_error _)
  · exact hseven

theorem exists_refused_clashing : ∃ entry ∈ clashingEntries, Refused entry := by
  refine ⟨.dict [(.text "name", .int 7), (.text "rules", .text "pattern:(")], ?_, "7", "(",
    .unterminatedGroup, some 0, _, _, rfl, rfl, rfl, compile_parenthesis⟩
  simp [clashingEntries]

theorem build_refuses_clashing :
    (∃ e, (build (.list clashingEntries) (.ok plainOptions)).outcome =
        .error (.ruleConfiguration e) ∧
      e.metadata.lookup "field" = some (.text "7")) ∧
      ∃ form, (Form.ofConfig .standard (.list (clashingEntries.take 2)) .null).outcome = .ok form ∧
        ∀ validators data e,
          (form.validate validators data).outcome ≠ .error (.ruleConfiguration e) := by
  obtain ⟨form, hform⟩ : ∃ form,
      (Form.ofConfig .standard (.list (clashingEntries.take 2)) .null).outcome = .ok form :=
    exists_ok (by decide +kernel)
  have hentries : entriesOf (.list clashingEntries) = .ok clashingEntries := rfl
  obtain ⟨hiff, hfirst, hforms⟩ := build_refuses hentries ⟨plainOptions, rfl⟩
    (fun _ => normalizes_of_mem_clashing) fun _ => decided_of_mem_clashing
  obtain ⟨e, he⟩ := hiff.mpr exists_refused_clashing
  refine ⟨⟨e, he, ?_⟩, form, hform, hforms _ _ _ _ hform⟩
  obtain ⟨before, entry, after, name, source, flaw, position, hsplit, -, hflawed, -, hfield⟩ :=
    hfirst e he
  have hmem : entry ∈ clashingEntries := by
    rw [hsplit]
    exact List.mem_append_cons_self
  rw [hfield, eq_seven_of_mem_clashing hmem hflawed]

end Builder
end FieldRules
