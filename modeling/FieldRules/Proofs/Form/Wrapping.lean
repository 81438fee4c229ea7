import FieldRules.Form.Basic
import FieldRules.Options.Standard
import FieldRules.Proofs.Failing
import FieldRules.Proofs.Form.Assembly
import FieldRules.Proofs.Markup.Likeness
import FieldRules.Proofs.Validation.Totality

/-!
# Proofs — Wrapping

A form without a configuration of its own stands for one in which every rule has an entry, which
brings nothing but the name of the field. The rule of such an entry is that of the form without its
presentation, and otherwise markup cannot tell the two apart (`alike_wrapped`): so generating the
form renders its rules, and where no rule has a presentation of its own it gives the very markup
that the rules have (`generate_markup_iff`).
-/

namespace FieldRules

/-! ## Rules that give all they have -/

namespace Rule

/-- The rule gives all that it has. -/
structure Overt (r : Rule) : Prop where
  unset : ∀ x, x ∉ r.explicit → r.part x = Rule.empty.part x
  attrs : Dict.IsMapping r.attrs
  extras : Dict.IsMapping r.extras

variable {r : Rule} {raw : Value} {name : String}

theorem Tracked.overt (h : r.Tracked) : r.Overt where
  unset := by
    rw [h.explicit_eq]
    exact h.unset
  attrs := h.attrs
  extras := h.extras

/-- A source whose rule gives all that it has: any text; a mapping; or a rule of that kind. -/
def IsOvertSource : Value → Prop
  | .dict d => Dict.IsMapping d ∧ (markupAttributes d).IsMapping
  | .rule r => r.Overt
  | _ => True

theorem overt_normalize (hraw : IsOvertSource raw) (h : (normalize raw).outcome = .ok r) :
    r.Overt := by
  by_cases hgiven : raw.truthy = true
  · unfold normalize at h
    rw [if_pos hgiven] at h
    cases raw with
    | dict d => exact (tracked_ofDict hraw.1 hraw.2 h).overt
    | rule r' =>
        obtain rfl := Except.ok.inj h
        exact hraw
    | text s => exact (tracked_ofText h).overt
    | _ =>
        obtain rfl := Except.ok.inj h
        exact Tracked.empty.overt
  · unfold normalize at h
    rw [if_neg hgiven] at h
    obtain rfl := Except.ok.inj h
    exact Tracked.empty.overt

/-! ## Wrapped rules -/

/-- The rule of an entry that has only a name. -/
def named (name : String) : Rule :=
  { Rule.empty with extras := [(.text "name", .text name)] }

/-- The rule without its presentation. -/
def unpresented (r : Rule) : Rule :=
  { r with ui := none }

theorem unpresented_of_none (h : r.ui = none) : r.unpresented = r := by
  obtain ⟨⟩ := r
  obtain rfl := h
  rfl

/-- The rule of an entry that has only a name and a rule. -/
def wrapped (name : String) (r : Rule) : Rule :=
  ((named name).mergedWith r).unpresented

theorem part_unpresented (r : Rule) (x : Attribute) (hx : x ≠ .ui) :
    r.unpresented.part x = r.part x := by
  cases x <;> first | rfl | exact absurd rfl hx

/-- **Wrapping a rule loses its presentation and nothing else.** -/
theorem alike_wrapped (h : r.Overt) (name : String) : (wrapped name r).Alike r.unpresented where
  part x := by
    by_cases hx : x = .ui
    · rw [hx]
      rfl
    · rw [wrapped, part_unpresented _ _ hx, part_unpresented _ _ hx, part_mergedWith]
      split
      · rfl
      · next hmem =>
          rw [h.unset x hmem]
          cases x <;> rfl
  attrs := Dict.nil_union h.attrs
  extras key hkey := by
    have hname : Dict.get? [(.text "name", .text name)] key = none := by
      simp [Dict.get?_cons, hkey.symm]
    show Dict.get? (Dict.union [(.text "name", .text name)] r.extras) key = _
    rw [Dict.get?_union _ h.extras, hname, Option.or_none]
    rfl

theorem compiledPattern_wrapped (h : r.Overt) (name : String) (field : Value) :
    (wrapped name r).compiledPattern field = r.compiledPattern field := by
  have hpattern : (wrapped name r).pattern = r.pattern := (alike_wrapped h name).part .pattern
  unfold compiledPattern
  rw [hpattern]

end Rule

/-! ## Schemas -/

namespace Schema

/-- Fields with different names are added as they come. -/
theorem addAll_of_nodup {s : Schema} {rules : Named Rule}
    (h : (s.order ++ Named.names rules).Nodup) : s.addAll rules = ⟨s.fields ++ rules⟩ := by
  induction rules generalizing s with
  | nil => simp [addAll]
  | cons e rest ih =>
      have hnew : e.1 ∉ Named.names s.fields := by
        rw [Named.names_cons, List.nodup_append] at h
        exact fun hmem => h.2.2 e.1 hmem e.1 (by simp) rfl
      have hadd : s.add e.1 e.2 = ⟨s.fields ++ [e]⟩ := congrArg mk (Named.put_of_not_mem _ hnew)
      have horder : (Schema.mk (s.fields ++ [e])).order = s.order ++ [e.1] := List.map_append
      rw [addAll_cons, hadd, ih]
      · simp
      · rw [horder]
        simpa using h

/-- The rules of a schema are normalized already. -/
theorem normalized_toFields {s : Schema} {rules : Named Rule} :
    List.Forall₂ Markup.Normalized s.toFields rules ↔ rules = s.fields := by
  obtain ⟨fields⟩ := s
  show List.Forall₂ Markup.Normalized (fields.map _) rules ↔ rules = fields
  rw [List.forall₂_map_left_iff]
  constructor
  · intro h
    induction h with
    | nil => rfl
    | cons hfirst _ ih =>
        obtain ⟨hname, hrule⟩ := hfirst
        rw [ih, Prod.ext hname (Except.ok.inj hrule).symm]
  · rintro rfl
    exact List.forall₂_same.mpr fun e _ => ⟨rfl, rfl⟩

theorem renderForm_toFields {kit : Markup.Toolkit} {o : RenderOptions} {s : Schema}
    {markup : String} :
    (Markup.renderForm kit s.toFields o).outcome = .ok markup ↔
      ∃ groups, List.Forall₂ (Markup.Rendered kit o) s.fields groups ∧
        Markup.IsFormMarkup o groups markup := by
  simp only [Markup.renderForm_eq_rendered, normalized_toFields]
  constructor
  · rintro ⟨_, groups, rfl, hgroups, hmarkup⟩
    exact ⟨groups, hgroups, hmarkup⟩
  · rintro ⟨groups, hgroups, hmarkup⟩
    exact ⟨s.fields, groups, rfl, hgroups, hmarkup⟩

end Schema

/-! ## Wrapping entries -/

namespace Builder

open Rule (wrapped unpresented)

/-- The entry that stands for a rule. -/
def ruleEntry (e : String × Value) : Dict :=
  [(.text "name", .text e.1), (.text "rules", e.2)]

variable {e : String × Value} {rules : Named Value}

theorem field?_ruleEntry (hname : e.1 ≠ "") :
    field? (.dict (ruleEntry e)) = some (e.1, ruleEntry e) := by
  have hgiven : (Value.text e.1).truthy = true := by
    simpa [Value.truthy] using hname
  show (if !false && (Value.text e.1).truthy then _ else _) = _
  rw [hgiven]
  rfl

theorem fieldRule_ruleEntry (e : String × Value) :
    fieldRule (ruleEntry e) = do
      let r ← Rule.normalize e.2
      return wrapped e.1 r := by
  have hbase : Rule.ofDict (Dict.without (ruleEntry e) ["rules", "ui"]) =
      .ok (Rule.named e.1) := rfl
  have hrules : Dict.getD (ruleEntry e) "rules" = e.2 := rfl
  unfold fieldRule
  rw [hbase, hrules]
  rfl

theorem fields_ruleEntries (hnames : "" ∉ Named.names rules) :
    (rules.map fun e => Value.dict (ruleEntry e)).filterMap field? =
      rules.map fun e => (e.1, ruleEntry e) := by
  rw [List.filterMap_map, ← List.filterMap_eq_map]
  refine List.filterMap_congr fun e he => ?_
  exact field?_ruleEntry fun hempty => hnames (hempty ▸ List.mem_map_of_mem he)

theorem buttons_ruleEntries (rules : Named Value) :
    (rules.map fun e => Value.dict (ruleEntry e)).filterMap button? = [] := by
  rw [List.filterMap_map, List.filterMap_eq_nil_iff]
  exact fun e _ => rfl

/-- The wrapped rules under their names. -/
def wrappedRules (rules : Named Rule) : Named Rule :=
  rules.map fun e => (e.1, wrapped e.1 e.2)

/-- Entries that stand for rules define the wrapped rules. -/
theorem defines_ruleEntries {rules' : Named Rule}
    (hsource : ∀ e ∈ rules, Rule.IsOvertSource e.2) :
    List.Forall₂ Defines (rules.map fun e => (e.1, ruleEntry e)) rules' ↔
      ∃ plain, List.Forall₂ Markup.Normalized rules plain ∧
        (∀ e ∈ plain, ∃ pattern, e.2.compiledPattern (.text e.1) = .ok pattern) ∧
        rules' = wrappedRules plain := by
  induction rules generalizing rules' with
  | nil => simp [wrappedRules]
  | cons e rest ih =>
      obtain ⟨he, hrest⟩ := List.forall_mem_cons.mp hsource
      rw [List.map_cons, List.forall₂_cons_left_iff]
      simp only [ih hrest, Defines, compiledRule_eq_ok, fieldRule_ruleEntry,
        Traced.outcome_bind_eq_ok, Traced.outcome_pure, Except.ok.injEq]
      constructor
      · rintro ⟨⟨n, _⟩, _, ⟨rfl, ⟨r, hr, rfl⟩, -, pattern, hpattern⟩,
          ⟨plain, hplain, hcompiled, rfl⟩, rfl⟩
        rw [Rule.compiledPattern_wrapped (Rule.overt_normalize he hr)] at hpattern
        refine ⟨(e.1, r) :: plain, .cons ⟨rfl, hr⟩ hplain, ?_, rfl⟩
        exact List.forall_mem_cons.mpr ⟨⟨pattern, hpattern⟩, hcompiled⟩
      · rintro ⟨_, hplain, hcompiled, rfl⟩
        obtain ⟨⟨n, r⟩, plain, ⟨hname, hr⟩, hothers, rfl⟩ := List.forall₂_cons_left_iff.mp hplain
        obtain rfl : n = e.1 := hname
        obtain ⟨⟨pattern, hpattern⟩, hcompiled⟩ := List.forall_mem_cons.mp hcompiled
        rw [← Rule.compiledPattern_wrapped (Rule.overt_normalize he hr) e.1] at hpattern
        exact ⟨_, _, ⟨rfl, ⟨r, hr, rfl⟩, rfl, pattern, hpattern⟩,
          ⟨plain, hothers, hcompiled, rfl⟩, rfl⟩

/-- What fields a configuration has does not depend on the options. -/
theorem exists_build {entries : List Value} {config : Value}
    {options : Except Fault RenderOptions} {schema : Schema} {resolved : RenderOptions}
    (h : (build config options).outcome = .ok (schema, resolved))
    (hentries : entriesOf config = .ok entries) (o : RenderOptions) :
    ∃ resolved, (build (.list entries) (.ok o)).outcome = .ok (schema, resolved) := by
  obtain ⟨entries', _, rules, hentries', -, hbuttons, hrules, hschema, -⟩ := build_eq_ok.mp h
  obtain rfl := Except.ok.inj (hentries.symm.trans hentries')
  exact ⟨_, build_eq_ok.mpr ⟨entries, o, rules, rfl, rfl, hbuttons, hrules, hschema, rfl⟩⟩

/-! ## Generating -/

variable {config : Value} {adapter : Option Adapter} {options : Except Fault RenderOptions}
  {v : Value}

/-- What an adapter makes of a schema; one that cannot render forms leaves it to the plain
markup. -/
def rendering (a : Adapter) (schema : Schema) (o : RenderOptions) : Traced Value :=
  match a.render? with
  | some render => render schema o
  | none => do return .text (← Markup.Plain.renderForm schema.toFields o)

/-- **Something is generated when there is an adapter, the configuration is built, and the adapter
renders it.** -/
theorem generate_eq_ok :
    (generate config adapter options).outcome = .ok v ↔
      ∃ a schema resolved, adapter = some a ∧
        (build config options).outcome = .ok (schema, resolved) ∧
        (rendering a schema resolved).outcome = .ok v := by
  unfold generate
  rw [Traced.outcome_bind_eq_ok, Traced.outcome_ofExcept]
  cases adapter with
  | none => simp [Traced.fault]
  | some a =>
      simp only [Traced.outcome_bind_eq_ok]
      constructor
      · rintro ⟨_, -, ⟨schema, resolved⟩, hbuild, _, -, hv⟩
        exact ⟨a, schema, resolved, rfl, hbuild, hv⟩
      · rintro ⟨_, schema, resolved, ha, hbuild, hv⟩
        obtain rfl := Option.some.inj ha
        obtain ⟨entries, _, _, hentries, -⟩ := build_eq_ok.mp hbuild
        exact ⟨entries, hentries, (schema, resolved), hbuild, (), rfl, hv⟩

theorem rendering_markup {kit : Markup.Toolkit} {schema : Schema} {o : RenderOptions} :
    (rendering (.markup kit) schema o).outcome = .ok v ↔
      ∃ markup, (Markup.renderForm kit schema.toFields o).outcome = .ok markup ∧
        v = .text markup := by
  simp only [rendering, Adapter.markup, Traced.outcome_bind_eq_ok, Traced.outcome_pure,
    Except.ok.injEq, @eq_comm _ v]

end Builder

/-! ## Forms -/

namespace Form

open Builder (ruleEntry wrappedRules)

variable {deployment : Deployment} {form : Form} {adapter : Option Adapter} {options v : Value}
  {kit : Markup.Toolkit} {markup : String}

/-- A form of rules. -/
theorem ofRules_eq_ok {rules : Named Value} {cssClass : Value}
    (h : ofRules deployment rules cssClass = .ok form) :
    form.rules = rules ∧ form.config = none ∧
      ∃ settings, deployment.settings = .ok settings ∧ form.formId = settings.formId := by
  obtain ⟨settings, hsettings, h⟩ := bind_eq_ok.mp h
  obtain rfl := Except.ok.inj h
  exact ⟨rfl, rfl, settings, hsettings, rfl⟩

/-- A form of a configuration is a form of its fields, under any options. -/
theorem ofConfig_eq_ok {config cssClass : Value}
    (h : (ofConfig deployment config cssClass).outcome = .ok form) :
    ∃ entries schema, form.config = some entries ∧ form.rules = schema.toFields ∧
      (∀ o, ∃ resolved,
        (Builder.build (.list entries) (.ok o)).outcome = .ok (schema, resolved)) ∧
      ∃ settings, deployment.settings = .ok settings ∧ form.formId = settings.formId := by
  simp only [ofConfig, Traced.outcome_bind_eq_ok, Traced.outcome_ofExcept, Traced.outcome_pure,
    Except.ok.injEq] at h
  obtain ⟨⟨schema, resolved⟩, hbuild, entries, hentries, form', hform', rfl⟩ := h
  obtain ⟨hrules, -, hid⟩ := ofRules_eq_ok hform'
  exact ⟨entries, schema, rfl, hrules, Builder.exists_build hbuild hentries, hid⟩

theorem generate_eq_ok :
    (form.generate deployment adapter options).2.outcome = .ok v ↔
      ∃ o, Options.resolve deployment options = .ok o ∧
        (Builder.generate form.configuration adapter (.ok o)).outcome = .ok v := by
  simp only [generate, Traced.outcome_bind_eq_ok, Traced.outcome_ofExcept]

/-- **The full markup of a form** is that of the fields which its configuration is made into. -/
theorem generate_markup_eq_ok :
    (form.generate deployment (some (.markup kit)) options).2.outcome = .ok (.text markup) ↔
      ∃ o schema resolved groups, Options.resolve deployment options = .ok o ∧
        (Builder.build form.configuration (.ok o)).outcome = .ok (schema, resolved) ∧
        List.Forall₂ (Markup.Rendered kit resolved) schema.fields groups ∧
        Markup.IsFormMarkup resolved groups markup := by
  simp only [generate_eq_ok, Builder.generate_eq_ok, Option.some.injEq]
  constructor
  · rintro ⟨o, ho, _, schema, resolved, rfl, hbuild, hv⟩
    obtain ⟨_, hmarkup, hsame⟩ := Builder.rendering_markup.mp hv
    obtain rfl := Value.text.inj hsame
    obtain ⟨groups, hgroups, hmarkup⟩ := Schema.renderForm_toFields.mp hmarkup
    exact ⟨o, schema, resolved, groups, ho, hbuild, hgroups, hmarkup⟩
  · rintro ⟨o, schema, resolved, groups, ho, hbuild, hgroups, hmarkup⟩
    have hform := Schema.renderForm_toFields.mpr ⟨groups, hgroups, hmarkup⟩
    exact ⟨o, ho, _, schema, resolved, rfl, hbuild,
      Builder.rendering_markup.mpr ⟨markup, hform, rfl⟩⟩

/-- What is generated through the adapter for the full markup is a text. -/
theorem exists_text_of_generate
    (h : (form.generate deployment (some (.markup kit)) options).2.outcome = .ok v) :
    ∃ markup, v = .text markup := by
  obtain ⟨o, -, hgenerate⟩ := generate_eq_ok.mp h
  obtain ⟨a, schema, resolved, ha, -, hv⟩ := Builder.generate_eq_ok.mp hgenerate
  obtain rfl := Option.some.inj ha
  obtain ⟨markup, -, hmarkup⟩ := Builder.rendering_markup.mp hv
  exact ⟨markup, hmarkup⟩

theorem configuration_of_none (h : form.config = none) :
    form.configuration = .list (form.rules.map fun e => .dict (ruleEntry e)) := by
  rw [configuration, h]
  rfl

/-- A form that is made of its rules alone: every field has a name of its own, and every rule a
source that gives all it has. -/
structure IsBare (form : Form) : Prop where
  config : form.config = none
  distinct : (Named.names form.rules).Nodup
  named : "" ∉ Named.names form.rules
  sources : ∀ e ∈ form.rules, Rule.IsOvertSource e.2

theorem names_of_normalized {rules : Named Value} {plain : Named Rule}
    (h : List.Forall₂ Markup.Normalized rules plain) : Named.names plain = Named.names rules :=
  map_eq_of_forall₂ (fun _ _ hnormalized => hnormalized.1) h

/-- Such a form is built of its rules, wrapped. -/
theorem IsBare.build_eq_ok (h : form.IsBare) {o resolved : RenderOptions} {schema : Schema} :
    (Builder.build form.configuration (.ok o)).outcome = .ok (schema, resolved) ↔
      ∃ plain, List.Forall₂ Markup.Normalized form.rules plain ∧
        (∀ e ∈ plain, ∃ pattern, e.2.compiledPattern (.text e.1) = .ok pattern) ∧
        schema = ⟨wrappedRules plain⟩ ∧ resolved = o := by
  have hadd {plain : Named Rule} (hplain : List.Forall₂ Markup.Normalized form.rules plain) :
      Schema.empty.addAll (wrappedRules plain) = ⟨wrappedRules plain⟩ := by
    have hnames : Named.names (wrappedRules plain) = Named.names form.rules := by
      rw [← names_of_normalized hplain, wrappedRules, Named.names, List.map_map]
      rfl
    refine Schema.addAll_of_nodup ?_
    rw [hnames]
    exact h.distinct
  rw [configuration_of_none h.config, Builder.build_eq_ok]
  constructor
  · rintro ⟨entries, _, _, hentries, ho, -, hrules, rfl, rfl⟩
    obtain rfl := Except.ok.inj hentries
    obtain rfl := Except.ok.inj ho
    rw [Builder.fields_ruleEntries h.named, Builder.defines_ruleEntries h.sources] at hrules
    obtain ⟨plain, hplain, hcompiled, rfl⟩ := hrules
    refine ⟨plain, hplain, hcompiled, hadd hplain, ?_⟩
    rw [Builder.buttons_ruleEntries]
    rfl
  · rintro ⟨plain, hplain, hcompiled, rfl, rfl⟩
    refine ⟨_, resolved, wrappedRules plain, rfl, rfl, ?_, ?_, (hadd hplain).symm, ?_⟩
    · rw [Builder.WritableButtons, Builder.buttons_ruleEntries]
      simp
    · rw [Builder.fields_ruleEntries h.named, Builder.defines_ruleEntries h.sources]
      exact ⟨plain, hplain, hcompiled, rfl⟩
    · rw [Builder.buttons_ruleEntries]
      rfl

/-- The functions that render rules in place of the usual markup, their presentations apart, do not
look at what wrapping changes. -/
def RendersBlindly (kit : Markup.Toolkit) (rules : Named Value) : Prop :=
  ∀ e ∈ rules, ∀ r f, (Rule.normalize e.2).outcome = .ok r →
    r.unpresented.renderOverride? = some f → Markup.IsBlind (kit.renderers f)

/-- The rule does not bring a presentation. -/
def HasNoPresentation (e : String × Value) : Prop :=
  ∀ r, (Rule.normalize e.2).outcome = .ok r → r.ui = none

/-- Rules without their presentations. -/
def unpresentedRules (rules : Named Rule) : Named Rule :=
  rules.map fun e => (e.1, e.2.unpresented)

/-- Wrapped rules are rendered as the rules without their presentations. -/
theorem rendered_wrappedRules {rules : Named Value} {plain : Named Rule} {o : RenderOptions}
    {groups : List String} (hkit : kit.controls = .standard)
    (hsource : ∀ e ∈ rules, Rule.IsOvertSource e.2) (hblind : RendersBlindly kit rules)
    (hplain : List.Forall₂ Markup.Normalized rules plain) :
    List.Forall₂ (Markup.Rendered kit o) (wrappedRules plain) groups ↔
      List.Forall₂ (Markup.Rendered kit o) (unpresentedRules plain) groups := by
  have hsame : ∀ e ∈ plain, Markup.renderField kit e.1 (Rule.wrapped e.1 e.2) o =
      Markup.renderField kit e.1 e.2.unpresented o := by
    intro e he
    obtain ⟨e', he', -, hr⟩ := exists_of_mem_right hplain he
    have halike := Rule.alike_wrapped (Rule.overt_normalize (hsource e' he') hr) e.1
    refine Markup.renderField_alike hkit halike fun f hf => hblind e' he' e.2 f hr ?_
    rw [← halike.renderOverride?, hf]
  rw [wrappedRules, unpresentedRules, List.forall₂_map_left_iff, List.forall₂_map_left_iff]
  constructor
  · intro h
    refine ((List.forall₂_and_left _ _).mpr ⟨hsame, h⟩).imp ?_
    rintro e group ⟨he, hgroup⟩
    exact he.symm.trans hgroup
  · intro h
    refine ((List.forall₂_and_left _ _).mpr ⟨hsame, h⟩).imp ?_
    rintro e group ⟨he, hgroup⟩
    exact he.trans hgroup

/-- What is generated for a form that is made of its rules alone. -/
theorem IsBare.generate_eq_ok (h : form.IsBare) (hkit : kit.controls = .standard)
    (hblind : RendersBlindly kit form.rules) :
    (form.generate deployment (some (.markup kit)) options).2.outcome = .ok (.text markup) ↔
      ∃ o plain groups, Options.resolve deployment options = .ok o ∧
        List.Forall₂ Markup.Normalized form.rules plain ∧
        (∀ e ∈ plain, ∃ pattern, e.2.compiledPattern (.text e.1) = .ok pattern) ∧
        List.Forall₂ (Markup.Rendered kit o) (unpresentedRules plain) groups ∧
        Markup.IsFormMarkup o groups markup := by
  simp only [generate_markup_eq_ok, h.build_eq_ok]
  constructor
  · rintro ⟨o, _, _, groups, ho, ⟨plain, hplain, hcompiled, rfl, rfl⟩, hgroups, hmarkup⟩
    rw [rendered_wrappedRules hkit h.sources hblind hplain] at hgroups
    exact ⟨_, plain, groups, ho, hplain, hcompiled, hgroups, hmarkup⟩
  · rintro ⟨o, plain, groups, ho, hplain, hcompiled, hgroups, hmarkup⟩
    rw [← rendered_wrappedRules hkit h.sources hblind hplain] at hgroups
    exact ⟨o, _, o, groups, ho, ⟨plain, hplain, hcompiled, rfl, rfl⟩, hgroups, hmarkup⟩

theorem isBare_ofRules {rules : Named Value} {cssClass : Value}
    (hform : ofRules deployment rules cssClass = .ok form) (hdistinct : (Named.names rules).Nodup)
    (hnamed : "" ∉ Named.names rules) (hsources : ∀ e ∈ rules, Rule.IsOvertSource e.2) :
    form.rules = rules ∧ form.IsBare := by
  obtain ⟨rfl, hconfig, -⟩ := ofRules_eq_ok hform
  exact ⟨rfl, hconfig, hdistinct, hnamed, hsources⟩

/-- **Generating a form of rules renders the rules**, without their presentations; so where no rule
brings one, the form has the markup of its rules. -/
theorem generate_markup_iff {rules : Named Value} {cssClass : Value}
    (hform : ofRules deployment rules cssClass = .ok form) (hdistinct : (Named.names rules).Nodup)
    (hnamed : "" ∉ Named.names rules) (hsources : ∀ e ∈ rules, Rule.IsOvertSource e.2)
    (hpatterns : ∀ e ∈ rules, PatternCompiles (.text e.1, e.2)) (hkit : kit.controls = .standard)
    (hblind : RendersBlindly kit rules) (options : Value) (markup : String) :
    ((form.generate deployment (some (.markup kit)) options).2.outcome = .ok (.text markup) ↔
      ∃ o plain, Options.resolve deployment options = .ok o ∧
        List.Forall₂ Markup.Normalized rules plain ∧
        (Markup.renderForm kit (Schema.toFields ⟨unpresentedRules plain⟩) o).outcome =
          .ok markup) ∧
    ((∀ e ∈ rules, HasNoPresentation e) →
      ((form.generate deployment (some (.markup kit)) options).2.outcome = .ok (.text markup) ↔
        ∃ o, Options.resolve deployment options = .ok o ∧
          (Markup.renderForm kit rules o).outcome = .ok markup)) := by
  obtain ⟨rfl, hbare⟩ := isBare_ofRules hform hdistinct hnamed hsources
  have hcompiled {plain : Named Rule} (hplain : List.Forall₂ Markup.Normalized form.rules plain) :
      ∀ e ∈ plain, ∃ pattern, e.2.compiledPattern (.text e.1) = .ok pattern := by
    intro e he
    obtain ⟨e', he', hname, hr⟩ := exists_of_mem_right hplain he
    rw [hname]
    exact hpatterns e' he' e.2 hr
  constructor
  · rw [hbare.generate_eq_ok hkit hblind]
    constructor
    · rintro ⟨o, plain, groups, ho, hplain, -, hgroups, hmarkup⟩
      exact ⟨o, plain, ho, hplain, Schema.renderForm_toFields.mpr ⟨groups, hgroups, hmarkup⟩⟩
    · rintro ⟨o, plain, ho, hplain, hmarkup⟩
      obtain ⟨groups, hgroups, hmarkup⟩ := Schema.renderForm_toFields.mp hmarkup
      exact ⟨o, plain, groups, ho, hplain, hcompiled hplain, hgroups, hmarkup⟩
  · intro hpresentation
    have hself {plain : Named Rule} (hplain : List.Forall₂ Markup.Normalized form.rules plain) :
        unpresentedRules plain = plain := by
      refine (List.map_congr_left fun e he => ?_).trans (List.map_id plain)
      obtain ⟨e', he', -, hr⟩ := exists_of_mem_right hplain he
      rw [Rule.unpresented_of_none (hpresentation e' he' e.2 hr)]
      rfl
    rw [hbare.generate_eq_ok hkit hblind]
    constructor
    · rintro ⟨o, plain, groups, ho, hplain, -, hgroups, hmarkup⟩
      rw [hself hplain] at hgroups
      exact ⟨o, ho, Markup.renderForm_eq_rendered.mpr ⟨plain, groups, hplain, hgroups, hmarkup⟩⟩
    · rintro ⟨o, ho, hmarkup⟩
      obtain ⟨plain, groups, hplain, hgroups, hmarkup⟩ := Markup.renderForm_eq_rendered.mp hmarkup
      rw [← hself hplain] at hgroups
      exact ⟨o, plain, groups, ho, hplain, hcompiled hplain, hgroups, hmarkup⟩

/-- Controls as they come, and functions that render nothing. -/
def bareKit : Markup.Toolkit :=
  ⟨fun _ _ _ => .ok .null, .standard⟩

/-- What a mapping says about a field, with a label and attributes of its own. -/
def cityEntries : Dict :=
  [(.text "required", .bool true), (.text "label", .text "City"),
    (.text "attrs", .dict [(.text "data-x", .int 1)])]

def cityRule : Rule :=
  { Rule.empty with
    required := true, label := some (.text "City"), attrs := [(.text "data-x", .int 1)],
    provided := [.required, .label, .attrs] }

def contactRules : Named Value :=
  [("age", .text "min:2"), ("city", .dict cityEntries)]

theorem generate_markup_iff_contact :
    ∃ form markup o, ofRules .standard contactRules .null = .ok form ∧
      (form.generate .standard (some (.markup bareKit)) (.dict [])).2.outcome =
        .ok (.text markup) ∧
      Options.resolve .standard (.dict []) = .ok o ∧
      (Markup.renderForm bareKit contactRules o).outcome = .ok markup := by
  have hage : (Rule.normalize (.text "min:2")).outcome =
      .ok { Rule.empty with min := some 2, provided := [.min] } := rfl
  have hcity : (Rule.normalize (.dict cityEntries)).outcome = .ok cityRule := rfl
  have hentries : Dict.IsMapping cityEntries := by
    constructor <;> simp [cityEntries, Dict.IsKeyed, Dict.keys, Value.isKey, Value.same]
  have hattrs : (Rule.markupAttributes cityEntries).IsMapping := by
    have hvalue : Rule.markupAttributes cityEntries = [(.text "data-x", .int 1)] := rfl
    constructor <;> simp [hvalue, Dict.IsKeyed, Dict.keys, Value.isKey]
  have hsources : ∀ e ∈ contactRules, Rule.IsOvertSource e.2 :=
    List.forall_mem_cons.mpr ⟨trivial, List.forall_mem_singleton.mpr ⟨hentries, hattrs⟩⟩
  -- a property of the two rules that the entries stand for
  have hrules {P : String × Value → Rule → Prop}
      (hfirst : P ("age", .text "min:2") { Rule.empty with min := some 2, provided := [.min] })
      (hlast : P ("city", .dict cityEntries) cityRule) :
      ∀ e ∈ contactRules, ∀ r, (Rule.normalize e.2).outcome = .ok r → P e r := by
    refine List.forall_mem_cons.mpr ⟨fun r hr => ?_, List.forall_mem_singleton.mpr fun r hr => ?_⟩
    · obtain rfl := Except.ok.inj (hage.symm.trans hr)
      exact hfirst
    · obtain rfl := Except.ok.inj (hcity.symm.trans hr)
      exact hlast
  have hpatterns : ∀ e ∈ contactRules, PatternCompiles (.text e.1, e.2) :=
    hrules (P := fun e r => ∃ pattern, r.compiledPattern (.text e.1) = .ok pattern)
      ⟨none, rfl⟩ ⟨none, rfl⟩
  have hpresentation : ∀ e ∈ contactRules, HasNoPresentation e := hrules rfl rfl
  have hoverride : ∀ e ∈ contactRules, ∀ r, (Rule.normalize e.2).outcome = .ok r →
      r.unpresented.renderOverride? = none := hrules rfl rfl
  have hblind : RendersBlindly bareKit contactRules := by
    intro e he r f hr hf
    rw [hoverride e he r hr] at hf
    cases hf
  obtain ⟨form, hform⟩ : ∃ form, ofRules .standard contactRules .null = .ok form := ⟨_, rfl⟩
  obtain ⟨o, ho⟩ : ∃ o, Options.resolve .standard (.dict []) = .ok o := ⟨_, rfl⟩
  obtain ⟨markup, hmarkup⟩ : ∃ markup,
      (Markup.renderForm bareKit contactRules o).outcome = .ok markup := by
    obtain rfl := Except.ok.inj ho
    exact exists_ok (by decide +kernel)
  obtain ⟨-, hsame⟩ := generate_markup_iff hform (by decide) (by decide) hsources hpatterns rfl
    hblind (.dict []) markup
  exact ⟨form, markup, o, hform, (hsame hpresentation).mpr ⟨o, ho, hmarkup⟩, ho, hmarkup⟩

/-- A rule that asks for a text area. -/
def areaRules : Named Value :=
  [("bio", .dict [(.text "max", .int 280),
    (.text "ui", .dict [(.text "control", .text "textarea")])])]

/-- The form has an input where its rule has a text area. -/
theorem generate_ne_renderForm :
    ∃ form markup o direct, ofRules .standard areaRules .null = .ok form ∧
      (form.generate .standard (some (.markup bareKit)) (.dict [])).2.outcome =
        .ok (.text markup) ∧
      Options.resolve .standard (.dict []) = .ok o ∧
      (Markup.renderForm bareKit areaRules o).outcome = .ok direct ∧ markup ≠ direct :=
  ⟨_, _, _, _, rfl, rfl, rfl, rfl, by decide +kernel⟩

end Form

end FieldRules
