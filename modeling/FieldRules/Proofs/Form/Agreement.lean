import FieldRules.Proofs.Form.Painting
import FieldRules.Proofs.Form.Usage
import FieldRules.Proofs.Markup.Tags

/-!
# Proofs — Agreement

What a form checks and what it shows. It checks by its rules, and shows the fields that its
configuration is made into. Without a configuration of its own the fields are those of the rules as
they stand, so after any run it shows what it checks. A configuration of its own is not touched by
any event: the form goes on to show the rules with which it was made, and those are what it checks
only as long as they are its rules (`inStep_run`).
-/

namespace FieldRules

/-! ## Records with nothing in them -/

namespace Validation

open Prepared

variable {validators : Validators} {record : Dict} {prepared : List Prepared}

/-- The reports of the fields that are required. -/
def missing (prepared : List Prepared) : List Violation :=
  (prepared.filter (·.rule.required)).map fun p => p.rule.requiredReport p.field

/-- Fields that settle at once settle in their order. -/
theorem settledDetails_of_settled
    (h : ∀ p ∈ prepared, (runningOf record p).round validators = 0) :
    settledDetails validators record prepared =
      prepared.filterMap (outcome validators record) := by
  -- all of them settle in the first round, so sorting by rounds leaves them where they are
  have hsorted : (prepared.map (runningOf record)).Pairwise fun a b =>
      decide (a.round validators ≤ b.round validators) = true := by
    rw [List.pairwise_map]
    refine List.pairwise_of_forall_mem_list fun a ha b hb => ?_
    simp [h a ha]
  rw [settledDetails, settlingOrder, List.mergeSort_of_pairwise hsorted, List.filterMap_map]
  exact List.filterMap_congr fun p _ => violation?_stage

/-- A blank value settles its field at once. -/
theorem round_of_isEmpty {p : Prepared} (h : (p.value record).isEmpty = true) :
    (runningOf record p).round validators = 0 := by
  have hstage : ∃ violation?, p.stage record = .settled violation? := by
    unfold stage
    cases p.rule.brokenReport? p.pattern p.field (p.value record) with
    | some violation => exact ⟨_, rfl⟩
    | none =>
        cases p.rule.validate with
        | none => exact ⟨_, rfl⟩
        | some f => exact ⟨none, if_pos h⟩
  obtain ⟨violation?, hstage⟩ := hstage
  rw [runningOf, Running.round, hstage]

/-- **A record with nothing in it lacks the fields that are required**, and is checked for nothing
else. -/
theorem run_blank (validators : Validators)
    (hcompiled : ∀ p ∈ prepared, p.rule.Compiled p.pattern) :
    (run validators (.dict []) prepared).outcome = .ok ⟨missing prepared⟩ := by
  have hdecided : ∀ p ∈ prepared, p.IsDecided [] := fun p _ =>
    ⟨_, Rule.checkValue_of_isEmpty p.rule p.field p.pattern (v := .null) rfl rfl⟩
  have hdetails : settledDetails validators [] prepared = missing prepared := by
    rw [settledDetails_of_settled fun p _ => round_of_isEmpty rfl, missing,
      ← List.filterMap_eq_map, List.filterMap_filter]
    exact List.filterMap_congr fun p _ => if_pos rfl
  rw [run_outcome_eq_ok rfl hcompiled hdecided, hdetails]

end Validation

/-! ## Fields that are checked -/

namespace Prepared

variable {prepared : List Prepared} {rules : Named Value} {plain : Named Rule}

/-- The rule under the name of its field. -/
def named (p : Prepared) : String × Rule :=
  (p.field, p.rule)

/-- Rules are prepared when they are normalized and their patterns compile. -/
theorem exists_all_named :
    (∃ prepared, (all (Dict.ofNames rules)).outcome = .ok prepared ∧ plain = prepared.map named) ↔
      List.Forall₂ Markup.Normalized rules plain ∧
        ∀ e ∈ plain, ∃ pattern, e.2.compiledPattern (.text e.1) = .ok pattern := by
  simp only [all_eq_ok, Dict.ofNames, List.forall₂_map_left_iff]
  induction rules generalizing plain with
  | nil => simp +contextual
  | cons e rest ih =>
      constructor
      · rintro ⟨prepared, hprepared, rfl⟩
        obtain ⟨p, ps, hmake, hps, rfl⟩ := List.forall₂_cons_left_iff.mp hprepared
        obtain ⟨hnormalized, hcompiled⟩ := ih.mp ⟨ps, hps, rfl⟩
        obtain ⟨hkey, hrule, hpattern⟩ := make_eq_ok.mp hmake
        have hfield : p.field = e.1 := congrArg Value.display hkey
        rw [← hfield] at hpattern
        exact ⟨.cons ⟨hfield, hrule⟩ hnormalized,
          List.forall_mem_cons.mpr ⟨⟨p.pattern, hpattern⟩, hcompiled⟩⟩
      · rintro ⟨hnormalized, hcompiled⟩
        obtain ⟨⟨name, r⟩, others, ⟨hname, hrule⟩, hothers, rfl⟩ :=
          List.forall₂_cons_left_iff.mp hnormalized
        obtain rfl : name = e.1 := hname
        obtain ⟨⟨pattern, hpattern⟩, hrest⟩ := List.forall_mem_cons.mp hcompiled
        obtain ⟨ps, hps, rfl⟩ := ih.mpr ⟨hothers, hrest⟩
        exact ⟨⟨.text e.1, r, pattern⟩ :: ps,
          .cons (make_eq_ok.mpr ⟨rfl, hrule, hpattern⟩) hps, rfl⟩

/-- A field that is shown for one that is checked: it has its name, and a rule that demands no less
and no more of the markup. -/
structure Matches (p : Prepared) (e : String × Rule) : Prop where
  name : e.1 = p.field
  required : e.2.required = p.rule.required
  attributes : p.rule.HasNoAttributes → e.2.HasNoAttributes
  override : p.rule.renderOverride? = none → e.2.renderOverride? = none

variable {p : Prepared} {e : String × Rule}

theorem matches_named (p : Prepared) : p.Matches p.named :=
  ⟨rfl, rfl, id, id⟩

theorem matches_wrapped (h : p.rule.Overt) :
    p.Matches (p.field, Rule.wrapped p.field p.rule) where
  name := rfl
  required := (Rule.alike_wrapped h p.field).part .required
  attributes hattrs := ⟨(Rule.alike_wrapped h p.field).attrs.trans hattrs.own, rfl⟩
  override hoverride := by
    rw [(Rule.alike_wrapped h p.field).renderOverride?]
    unfold Rule.renderOverride? at hoverride
    split at hoverride
    · cases hoverride
    · exact hoverride

theorem Matches.shows {shown : Markup.ShownField} (h : p.Matches e)
    (hshown : Markup.Shows e shown) : Markup.Shows p.named shown where
  name := by
    rw [hshown.name, h.name]
    rfl
  required hattrs := (hshown.required (h.attributes hattrs)).trans h.required

end Prepared

/-! ## Fields that are shown -/

namespace Markup

/-- A group that is written for a field. A reader finds the field in it, unless a custom function
writes the group. -/
structure IsGroupFor (kit : Toolkit) (o : RenderOptions) (p : Prepared) (group : String) :
    Prop where
  rendered : ∃ e, p.Matches e ∧ Rendered kit o e group
  read : p.rule.renderOverride? = none →
    ∃ shown, fields? group = some [shown] ∧ Shows p.named shown

/-- The markup of these fields: a group for each of them in their order, and if no custom function
writes any of them, a reader of the markup finds just these fields. -/
structure Pictures (kit : Toolkit) (prepared : List Prepared) (markup : String) : Prop where
  groups : ∃ o groups, markup = formMarkup o groups ∧
    List.Forall₂ (IsGroupFor kit o) prepared groups
  read : (∀ p ∈ prepared, p.rule.renderOverride? = none) →
    ∃ shown, fields? markup = some shown ∧
      List.Forall₂ (fun p shown => Shows p.named shown) prepared shown

variable {kit : Toolkit} {o : RenderOptions}

theorem isGroupFor (hkit : kit.controls = .standard) (p : Prepared) (e : String × Rule)
    (group : String) (hmatches : p.Matches e) (hrendered : Rendered kit o e group) :
    IsGroupFor kit o p group where
  rendered := ⟨e, hmatches, hrendered⟩
  read hoverride := by
    obtain ⟨segs, shown, hsegs, hgroup, hshows⟩ :=
      exists_shown hkit (hmatches.override hoverride) hrendered
    exact ⟨shown, fields?_group hsegs.tagged hgroup, hmatches.shows hshows⟩

/-- **Fields that match those that are checked picture them.** -/
theorem pictures {prepared : List Prepared} {fields : Named Rule} {groups : List String}
    (hkit : kit.controls = .standard) (hmatches : List.Forall₂ Prepared.Matches prepared fields)
    (hgroups : List.Forall₂ (Rendered kit o) fields groups) :
    Pictures kit prepared (formMarkup o groups) where
  groups := ⟨o, groups, rfl, forall₂_comp (isGroupFor hkit) hmatches hgroups⟩
  read hoverride := by
    have hfields : ∀ e ∈ fields, e.2.renderOverride? = none := by
      intro e he
      obtain ⟨p, hp, hpe⟩ := exists_of_mem_right hmatches he
      exact hpe.override (hoverride p hp)
    obtain ⟨shown, hread, hshown⟩ := fields?_formMarkup hkit hfields hgroups
    have hshows : ∀ (p : Prepared) (e : String × Rule) (shown : ShownField), p.Matches e →
        Shows e shown → Shows p.named shown := fun _ _ _ => Prepared.Matches.shows
    exact ⟨shown, hread, forall₂_comp hshows hmatches hshown⟩

/-- The names that a reader finds. -/
theorem Pictures.names {prepared : List Prepared} {markup : String}
    (h : Pictures kit prepared markup) (hoverride : ∀ p ∈ prepared, p.rule.renderOverride? = none) :
    ∃ shown, fields? markup = some shown ∧
      shown.map (·.name) = (prepared.map (·.field)).map some := by
  obtain ⟨shown, hread, hshown⟩ := h.read hoverride
  refine ⟨shown, hread, ?_⟩
  rw [List.map_map]
  exact map_eq_of_forall₂ (fun _ _ hshows => hshows.name) hshown

end Markup

/-! ## Fields of a configuration -/

/-- Only fields that are added are in the schema. -/
theorem Schema.mem_addAll {s : Schema} {rules : Named Rule} {e : String × Rule}
    (h : e ∈ (s.addAll rules).fields) : e ∈ s.fields ∨ e ∈ rules := by
  induction rules generalizing s with
  | nil => exact .inl h
  | cons first rest ih =>
      rcases ih h with hadd | hrest
      · rcases Named.mem_put hadd with rfl | hs
        · exact .inr (List.mem_cons_self ..)
        · exact .inl hs
      · exact .inr (List.mem_cons_of_mem _ hrest)

/-- The patterns in a schema that is built compile. -/
theorem Builder.compiled_of_build {config : Value} {options : Except Fault RenderOptions}
    {schema : Schema} {resolved : RenderOptions}
    (h : (build config options).outcome = .ok (schema, resolved)) :
    ∀ e ∈ schema.fields, ∃ pattern, e.2.compiledPattern (.text e.1) = .ok pattern := by
  obtain ⟨entries, o, rules, -, -, -, hrules, rfl, -⟩ := build_eq_ok.mp h
  intro e he
  rcases Schema.mem_addAll he with hempty | hmem
  · cases hempty
  · obtain ⟨f, -, hname, hrule⟩ := exists_of_mem_right hrules hmem
    rw [hname]
    exact (compiledRule_eq_ok.mp hrule).2.2

/-! ## Forms -/

/-- A rule that is set has a name, and gives all that it has. -/
def FormEvent.IsSound : FormEvent → Prop
  | .setRule name raw => name ≠ "" ∧ Rule.IsOvertSource raw
  | _ => True

namespace Form

variable {deployment : Deployment} {form : Form} {prepared : List Prepared} {rules : Named Value}

/-- The fields are those that the form checks: every record is run through them, and one with
nothing in it lacks those of them that are required. -/
structure Checks (form : Form) (prepared : List Prepared) : Prop where
  runs : ∀ validators data, (form.validate validators data).outcome =
    (Validation.run validators data prepared).outcome
  demands : ∀ validators, (form.validate validators (.dict [])).outcome =
    .ok ⟨Validation.missing prepared⟩

theorem checks_of_all (h : (Prepared.all (Dict.ofNames form.rules)).outcome = .ok prepared) :
    form.Checks prepared := by
  have hruns (validators : Validators) (data : Value) :
      (form.validate validators data).outcome =
        (Validation.run validators data prepared).outcome :=
    Validation.validate_outcome (Value.entries_ofNames form.rules) h
  refine ⟨hruns, fun validators => ?_⟩
  rw [hruns]
  exact Validation.run_blank validators fun p hp => Prepared.compiled_of_mem_all h hp

/-- The form shows the fields of these rules: its configuration can be made into fields just when
they can be prepared, and then the fields match. -/
structure DrawnBy (form : Form) (rules : Named Value) : Prop where
  drafted : ∀ o prepared, (Prepared.all (Dict.ofNames rules)).outcome = .ok prepared →
    ∃ draft, (Builder.build form.configuration (.ok o)).outcome = .ok draft
  matched : ∀ o schema resolved,
    (Builder.build form.configuration (.ok o)).outcome = .ok (schema, resolved) →
      ∃ prepared, (Prepared.all (Dict.ofNames rules)).outcome = .ok prepared ∧
        List.Forall₂ Prepared.Matches prepared schema.fields

theorem DrawnBy.exists_draft (h : form.DrawnBy rules) (o : RenderOptions) :
    (∃ draft, (Builder.build form.configuration (.ok o)).outcome = .ok draft) ↔
      ∃ prepared, (Prepared.all (Dict.ofNames rules)).outcome = .ok prepared := by
  constructor
  · rintro ⟨⟨schema, resolved⟩, hbuild⟩
    obtain ⟨prepared, hprepared, -⟩ := h.matched o schema resolved hbuild
    exact ⟨prepared, hprepared⟩
  · rintro ⟨prepared, hprepared⟩
    exact h.drafted o prepared hprepared

/-- Markup of the form pictures the fields. -/
theorem DrawnBy.pictures (h : form.DrawnBy rules) {kit : Markup.Toolkit}
    (hkit : kit.controls = .standard) {options : Value} {markup : String}
    (hmarkup : (form.generate deployment (some (.markup kit)) options).2.outcome =
      .ok (.text markup)) :
    ∃ prepared, (Prepared.all (Dict.ofNames rules)).outcome = .ok prepared ∧
      Markup.Pictures kit prepared markup := by
  obtain ⟨o, schema, resolved, groups, -, hbuild, hgroups, -, rfl⟩ :=
    generate_markup_eq_ok.mp hmarkup
  obtain ⟨prepared, hprepared, hmatches⟩ := h.matched o schema resolved hbuild
  exact ⟨prepared, hprepared, Markup.pictures hkit hmatches hgroups⟩

/-- A form that is made of its rules alone shows their fields. -/
theorem IsBare.drawnBy (h : form.IsBare) : form.DrawnBy form.rules where
  drafted o prepared hprepared := by
    obtain ⟨hplain, hcompiled⟩ := Prepared.exists_all_named.mp ⟨prepared, hprepared, rfl⟩
    exact ⟨_, h.build_eq_ok.mpr ⟨_, hplain, hcompiled, rfl, rfl⟩⟩
  matched o schema resolved hbuild := by
    obtain ⟨plain, hplain, hcompiled, rfl, rfl⟩ := h.build_eq_ok.mp hbuild
    obtain ⟨prepared, hprepared, rfl⟩ := Prepared.exists_all_named.mpr ⟨hplain, hcompiled⟩
    refine ⟨prepared, hprepared, ?_⟩
    rw [Builder.wrappedRules, List.map_map, List.forall₂_map_right_iff, List.forall₂_same]
    intro p hp
    obtain ⟨_, hmem, hmake⟩ := Prepared.exists_of_mem_all hprepared hp
    obtain ⟨e, he, rfl⟩ := List.mem_map.mp hmem
    exact Prepared.matches_wrapped
      (Rule.overt_normalize (h.sources e he) (Prepared.make_eq_ok.mp hmake).2.1)

/-- A form whose configuration has these fields, whatever the options, shows them. -/
theorem drawnBy_toFields {schema : Schema}
    (h : ∀ o, ∃ resolved, (Builder.build form.configuration (.ok o)).outcome =
      .ok (schema, resolved)) : form.DrawnBy schema.toFields where
  drafted o _ _ := by
    obtain ⟨resolved, hbuild⟩ := h o
    exact ⟨_, hbuild⟩
  matched o schema' resolved' hbuild' := by
    obtain ⟨resolved, hbuild⟩ := h o
    obtain ⟨rfl, rfl⟩ := Prod.mk.inj (Except.ok.inj (hbuild.symm.trans hbuild'))
    obtain ⟨prepared, hprepared, hfields⟩ := Prepared.exists_all_named.mpr
      ⟨Schema.normalized_toFields.mpr rfl, Builder.compiled_of_build hbuild⟩
    refine ⟨prepared, hprepared, ?_⟩
    rw [hfields, List.forall₂_map_right_iff, List.forall₂_same]
    exact fun p _ => p.matches_named

/-! ## Runs -/

variable {reached : Form} {event : FormEvent} {events : List FormEvent}

theorem remember_eq (form : Form) (options : Except Fault RenderOptions) :
    ∃ id, form.remember options = { form with formId := id } := by
  cases options with
  | error fault => exact ⟨form.formId, rfl⟩
  | ok o => exact ⟨o.form.id, rfl⟩

/-- No event touches the configuration. -/
theorem config_step (event : FormEvent) : (form.step deployment event).config = form.config := by
  have hremember (options : Value) :
      (form.remember (Options.resolve deployment options)).config = form.config := by
    obtain ⟨id, h⟩ := form.remember_eq (Options.resolve deployment options)
    rw [h]
  cases event with
  | render options => exact hremember options
  | generate adapter options => exact hremember options
  | _ => rfl

theorem config_run (events : List FormEvent) :
    (form.run deployment events).config = form.config := by
  induction events generalizing form with
  | nil => rfl
  | cons event rest ih => rw [run_cons, ih, config_step]

theorem isBare_step (h : form.IsBare) (hevent : event.IsSound) :
    (form.step deployment event).IsBare := by
  have hremember (options : Value) :
      (form.remember (Options.resolve deployment options)).IsBare := by
    obtain ⟨id, hform⟩ := form.remember_eq (Options.resolve deployment options)
    rw [hform]
    exact ⟨h.config, h.distinct, h.named, h.sources⟩
  cases event with
  | setRule name raw =>
      obtain ⟨hname, hraw⟩ := hevent
      refine ⟨h.config, Named.nodup_put name raw h.distinct, ?_, fun e he => ?_⟩
      · show "" ∉ Named.names (Named.put name raw form.rules)
        rw [Named.names_put]
        split
        · exact h.named
        · simp [h.named, hname.symm]
      · rcases Named.mem_put he with rfl | he
        · exact hraw
        · exact h.sources e he
  | removeRule name =>
      have hrest : ∀ e ∈ Named.erase name form.rules, e ∈ form.rules := fun e he =>
        (List.mem_filter.mp he).1
      refine ⟨h.config, Named.nodup_erase name h.distinct, fun hmem => ?_, fun e he => ?_⟩
      · obtain ⟨e, he, hempty⟩ := List.mem_map.mp hmem
        exact h.named (hempty ▸ List.mem_map_of_mem (hrest e he))
      · exact h.sources e (hrest e he)
  | validate validators data => exact h
  | render options => exact hremember options
  | generate adapter options => exact hremember options

theorem isBare_run (h : form.IsBare) (hsound : ∀ event ∈ events, event.IsSound) :
    (form.run deployment events).IsBare := by
  induction events generalizing form with
  | nil => exact h
  | cons event rest ih =>
      obtain ⟨hevent, hrest⟩ := List.forall_mem_cons.mp hsound
      rw [run_cons]
      exact ih (isBare_step h hevent) hrest

/-- The rules whose fields a form shows after a run: those it has reached, or if it has a
configuration of its own, those it was made with. -/
def drawnRules (form reached : Form) : Named Value :=
  if form.config.isNone then reached.rules else form.rules

/-- **What a form shows after a run.** Without a configuration the entries that stand for its rules
move with them; with one they stay as they were. -/
theorem drawnBy_run (hopened : Opened deployment form) (hbare : form.config = none → form.IsBare)
    (hsound : ∀ event ∈ events, event.IsSound) :
    (form.run deployment events).DrawnBy (form.drawnRules (form.run deployment events)) := by
  cases hopened with
  | ofRules h =>
      obtain ⟨-, hconfig, -⟩ := ofRules_eq_ok h
      rw [drawnRules, hconfig]
      exact (isBare_run (hbare hconfig) hsound).drawnBy
  | ofConfig h =>
      obtain ⟨entries, schema, hconfig, hrules, hbuild, -⟩ := ofConfig_eq_ok h
      have hreached : (form.run deployment events).configuration = .list entries := by
        rw [configuration, config_run, hconfig]
      rw [drawnRules, hconfig, hrules]
      refine drawnBy_toFields fun o => ?_
      rw [hreached]
      exact hbuild o

/-- **A form shows what it checks** after any run, unless it has a configuration of its own and
other rules than at first. Its configuration can be made into fields just when those rules can be
prepared, whose fields it shows: its own as they stand, or those of the configuration. Markup of
the form pictures them, in their order and each required as its rule is. -/
theorem inStep_run (hopened : Opened deployment form) (hbare : form.config = none → form.IsBare)
    (hsound : ∀ event ∈ events, event.IsSound) (hreached : reached = form.run deployment events)
    {kit : Markup.Toolkit} (hkit : kit.controls = .standard) :
    (∀ o, (∃ draft, (Builder.build reached.configuration (.ok o)).outcome = .ok draft) ↔
      ∃ prepared, (Prepared.all (Dict.ofNames (form.drawnRules reached))).outcome = .ok prepared) ∧
    ∀ options markup,
      (reached.generate deployment (some (.markup kit)) options).2.outcome = .ok (.text markup) →
        ∃ prepared, (Prepared.all (Dict.ofNames (form.drawnRules reached))).outcome = .ok prepared ∧
          Markup.Pictures kit prepared markup ∧
          (form.config = none ∨ reached.rules = form.rules → reached.Checks prepared) := by
  subst hreached
  have hdrawn := drawnBy_run hopened hbare hsound
  refine ⟨hdrawn.exists_draft, fun options markup hmarkup => ?_⟩
  obtain ⟨prepared, hprepared, hpictures⟩ := hdrawn.pictures hkit hmarkup
  refine ⟨prepared, hprepared, hpictures, fun hsame => checks_of_all ?_⟩
  have hrules : form.drawnRules (form.run deployment events) =
      (form.run deployment events).rules := by
    rcases hsame with hconfig | hrules
    · rw [drawnRules, hconfig]
      rfl
    · rw [drawnRules, hrules]
      exact ite_self _
  rw [← hrules]
  exact hprepared

/-- Two fields come and one goes. -/
def movingEvents : List FormEvent :=
  [.setRule "city" (.text "required"), .removeRule "login", .setRule "age" (.text "min:2")]

/-- The fields that are left. -/
def movedFields : List Prepared :=
  [⟨.text "city", { Rule.empty with required := true, provided := [.required] }, none⟩,
    ⟨.text "age", { Rule.empty with min := some 2, provided := [.min] }, none⟩]

theorem inStep_run_moving :
    ∃ form reached markup shown, ofRules .standard loginRules .null = .ok form ∧
      reached = form.run .standard movingEvents ∧
      (reached.generate .standard (some (.markup bareKit)) (.dict [])).2.outcome =
        .ok (.text markup) ∧
      Markup.fields? markup = some shown ∧
      List.Forall₂ (fun p shown => Markup.Shows p.named shown) movedFields shown ∧
      ∀ validators, (reached.validate validators (.dict [])).outcome =
        .ok ⟨[⟨"city", "required", .text "This field is required", .requiredFieldMissing⟩]⟩ := by
  obtain ⟨form, reached, hform, hreached, v, hmarkup⟩ : ∃ form reached,
      ofRules .standard loginRules .null = .ok form ∧ reached = form.run .standard movingEvents ∧
        ∃ v, (reached.generate .standard (some (.markup bareKit)) (.dict [])).2.outcome = .ok v :=
    ⟨_, _, rfl, rfl, exists_ok (by decide +kernel)⟩
  obtain ⟨markup, rfl⟩ := exists_text_of_generate hmarkup
  have hbare : form.IsBare := (isBare_ofRules hform (by decide) (by decide)
    (List.forall_mem_singleton.mpr trivial)).2
  have hsound : ∀ event ∈ movingEvents, event.IsSound :=
    List.forall_mem_cons.mpr ⟨⟨by decide, trivial⟩, List.forall_mem_cons.mpr ⟨trivial,
      List.forall_mem_singleton.mpr ⟨by decide, trivial⟩⟩⟩
  have hkit : bareKit.controls = .standard := rfl
  obtain ⟨-, hgenerates⟩ := inStep_run (.ofRules hform) (fun _ => hbare) hsound hreached hkit
  obtain ⟨prepared, hprepared, hpictures, hchecks⟩ := hgenerates (.dict []) markup hmarkup
  have hmoved : prepared = movedFields := by
    obtain rfl := Except.ok.inj hform
    rw [hreached] at hprepared
    exact (Except.ok.inj hprepared).symm
  have hoverride : ∀ p ∈ prepared, p.rule.renderOverride? = none := by
    rw [hmoved]
    exact List.forall_mem_cons.mpr ⟨rfl, List.forall_mem_singleton.mpr rfl⟩
  obtain ⟨shown, hread, hshown⟩ := hpictures.read hoverride
  refine ⟨form, reached, markup, shown, hform, hreached, hmarkup, hread, hmoved ▸ hshown,
    fun validators => ?_⟩
  rw [(hchecks (.inl hbare.config)).demands, hmoved]
  rfl

/-- A configuration with one field. -/
def emailConfig : List Value :=
  [.dict [(.text "name", .text "email"), (.text "rules", .text "required|email")]]

/-- Another field comes. -/
def cityEvents : List FormEvent :=
  [.setRule "city" (.text "required")]

/-- A form with a configuration of its own checks the field that is set, and does not show it. -/
theorem generate_not_inStep :
    ∃ form reached markup shown,
      (ofConfig .standard (.list emailConfig) .null).outcome = .ok form ∧
      reached = form.run .standard cityEvents ∧
      (reached.generate .standard (some (.markup bareKit)) (.dict [])).2.outcome =
        .ok (.text markup) ∧
      Markup.fields? markup = some shown ∧ shown.map (·.name) = [some "email"] ∧
      ∀ validators, ∃ v, (reached.validate validators (.dict [])).outcome = .ok v ∧
        Named.names v.errors = ["email", "city"] := by
  obtain ⟨form, reached, markup, hform, hreached, hmarkup⟩ : ∃ form reached markup,
      (ofConfig .standard (.list emailConfig) .null).outcome = .ok form ∧
        reached = form.run .standard cityEvents ∧
        (reached.generate .standard (some (.markup bareKit)) (.dict [])).2.outcome =
          .ok (.text markup) := ⟨_, _, _, rfl, rfl, rfl⟩
  have hbare : form.config = none → form.IsBare := by
    intro hnone
    obtain rfl := Except.ok.inj hform
    cases hnone
  have hsound : ∀ event ∈ cityEvents, event.IsSound :=
    List.forall_mem_singleton.mpr ⟨by decide, trivial⟩
  have hdrawn := drawnBy_run (.ofConfig hform) hbare hsound
  rw [← hreached] at hdrawn
  obtain ⟨prepared, hprepared, hpictures⟩ := hdrawn.pictures rfl hmarkup
  have hoverride : ∀ p ∈ prepared, p.rule.renderOverride? = none := by
    obtain rfl := Except.ok.inj hform
    obtain rfl := Except.ok.inj hprepared
    exact List.forall_mem_singleton.mpr rfl
  obtain ⟨shown, hread, hshown⟩ := hpictures.names hoverride
  refine ⟨form, reached, markup, shown, hform, hreached, hmarkup, hread, ?_, fun validators => ?_⟩
  · rw [hshown, Prepared.fields_of_all hprepared]
    obtain rfl := Except.ok.inj hform
    rw [hreached]
    rfl
  · obtain rfl := Except.ok.inj hform
    rw [hreached]
    exact ⟨_, (checks_of_all rfl).demands validators, rfl⟩

end Form

end FieldRules
