import FieldRules.Proofs.Form.Wrapping
import FieldRules.Proofs.Markup.Opening

/-!
# Proofs — Usage

What is done with a form over time: its rules change, records are validated, and its markup is asked
for, again and again. A run is any list of such events; its showings are the requests for markup,
each on the form as it stands at that moment. Nothing but a showing changes the id of the form
(`formId_run`), and a showing whose options can be resolved always does: also one that ends in a
fault, and also one whose form tag has another id, because attributes of the form bring it. Where
neither happens the id is that of the form tag shown last (`formId_run_eq`).
-/

namespace FieldRules

/-! ## Showings -/

/-- A request for the markup of a form, as it stands. -/
inductive Showing where
  | render (form : Form) (options : Value)
  | generate (form : Form) (adapter : Option Adapter) (options : Value)

namespace Showing

/-- The options as they are resolved. -/
def resolved (deployment : Deployment) : Showing → Except Fault RenderOptions
  | .render _ options => Options.resolve deployment options
  | .generate _ _ options => Options.resolve deployment options

/-- The form afterwards. -/
def after (deployment : Deployment) : Showing → Form
  | .render form options => (form.render deployment options).1
  | .generate form adapter options => (form.generate deployment adapter options).1

/-- What is returned. -/
def result (deployment : Deployment) : Showing → Except Fault Value
  | .render form options => Value.text <$> (form.render deployment options).2.outcome
  | .generate form adapter options => (form.generate deployment adapter options).2.outcome

/-- The markup that is returned, if one is. -/
def markup? (deployment : Deployment) (s : Showing) : Option String :=
  match s.result deployment with
  | .ok (.text markup) => some markup
  | _ => none

/-- The id of the options, if they can be resolved. -/
def id? (deployment : Deployment) (s : Showing) : Option String :=
  (s.resolved deployment).toOption.map (·.form.id)

/-- The showing asks an adapter that renders forms itself. -/
def isFull : Showing → Bool
  | .render _ _ => false
  | .generate _ adapter _ => adapter.any (·.render?.isSome)

end Showing

/-! ## Runs -/

/-- What is done with a form. -/
inductive FormEvent where
  | setRule (name : String) (raw : Value)
  | removeRule (name : String)
  | validate (validators : Validators) (data : Value)
  | render (options : Value)
  | generate (adapter : Option Adapter) (options : Value)

namespace Form

/-- The request for markup that an event is. -/
def showing? (form : Form) : FormEvent → Option Showing
  | .render options => some (.render form options)
  | .generate adapter options => some (.generate form adapter options)
  | _ => none

/-- The form after an event. -/
def step (deployment : Deployment) (form : Form) : FormEvent → Form
  | .setRule name raw => form.setRule name raw
  | .removeRule name => form.removeRule name
  | .validate _ _ => form
  | .render options => (Showing.render form options).after deployment
  | .generate adapter options => (Showing.generate form adapter options).after deployment

/-- The form after a run. -/
def run (deployment : Deployment) (form : Form) (events : List FormEvent) : Form :=
  events.foldl (step deployment) form

/-- The showings of a run, in their order. -/
def showings (deployment : Deployment) : Form → List FormEvent → List Showing
  | _, [] => []
  | form, event :: rest =>
    (form.showing? event).toList ++ showings deployment (form.step deployment event) rest

/-- A form that has just been made, of rules or of a configuration. -/
inductive Opened (deployment : Deployment) : Form → Prop
  | ofRules {rules : Named Value} {cssClass : Value} {form : Form}
      (h : Form.ofRules deployment rules cssClass = .ok form) : Opened deployment form
  | ofConfig {config cssClass : Value} {form : Form}
      (h : (Form.ofConfig deployment config cssClass).outcome = .ok form) : Opened deployment form

variable {deployment : Deployment} {form : Form} {event : FormEvent} {events : List FormEvent}

theorem run_cons (event : FormEvent) (rest : List FormEvent) :
    form.run deployment (event :: rest) = (form.step deployment event).run deployment rest :=
  rfl

/-- **What an event does to the id**: a showing sets it to that of its options, if these can be
resolved, and nothing else changes it. -/
theorem formId_step (event : FormEvent) :
    (form.step deployment event).formId =
      ((form.showing? event).bind (Showing.id? deployment)).getD form.formId := by
  have hremember (options : Value) :
      (form.remember (Options.resolve deployment options)).formId =
        ((Options.resolve deployment options).toOption.map (·.form.id)).getD form.formId := by
    unfold remember
    cases Options.resolve deployment options <;> rfl
  cases event with
  | render options => exact hremember options
  | generate adapter options => exact hremember options
  | _ => rfl

/-- The id after a run is that of the last options that could be resolved. -/
theorem formId_run (events : List FormEvent) :
    (form.run deployment events).formId =
      ((form.showings deployment events).filterMap (Showing.id? deployment)).getLastD
        form.formId := by
  induction events generalizing form with
  | nil => rfl
  | cons event rest ih =>
      rw [run_cons, ih, formId_step, showings]
      cases form.showing? event with
      | none => rfl
      | some s =>
          rw [Option.toList_some, List.singleton_append, Builder.getLastD_filterMap_cons,
            Option.bind_some]

/-- A form that has just been made has the id of the settings. -/
theorem Opened.formId (h : Opened deployment form) :
    ∃ settings, deployment.settings = .ok settings ∧ form.formId = settings.formId := by
  cases h with
  | ofRules h => exact (ofRules_eq_ok h).2.2
  | ofConfig h =>
      obtain ⟨entries, schema, -, -, -, hid⟩ := ofConfig_eq_ok h
      exact hid

end Form

/-! ## Ids that are shown -/

/-- The adapter renders the full markup, or leaves forms to the plain one. -/
def Adapter.IsKnown (a : Adapter) : Prop :=
  a.render? = none ∨ ∃ kit, a.render? = (Adapter.markup kit).render?

namespace Showing

/-- An adapter that is asked is known. -/
def IsKnown : Showing → Prop
  | .render _ _ => True
  | .generate _ adapter _ => ∀ a ∈ adapter, a.IsKnown

/-- Options that can be resolved are put to use: markup is returned, and in the full markup no
attribute of the form replaces the id. -/
structure Holds (deployment : Deployment) (s : Showing) : Prop where
  returns : ∀ o, s.resolved deployment = .ok o → ∃ markup, s.markup? deployment = some markup
  keeps : ∀ o, s.resolved deployment = .ok o → s.isFull = true →
    Dict.get? o.form.attrs "id" = none

variable {deployment : Deployment} {s : Showing} {markup : String}

theorem markup?_eq_some :
    s.markup? deployment = some markup ↔ s.result deployment = .ok (.text markup) := by
  unfold markup?
  constructor
  · intro h
    split at h
    · next hresult => rw [hresult, Option.some.inj h]
    · cases h
  · intro h
    rw [h]

/-- Markup that is returned is the plain one or the full one, under the options as they are
resolved, the button apart. -/
theorem exists_rendering (hknown : s.IsKnown) (h : s.markup? deployment = some markup) :
    ∃ o used fields, s.resolved deployment = .ok o ∧ used.form = o.form ∧
      (s.isFull = false ∧ (Markup.Plain.renderForm fields used).outcome = .ok markup ∨
        s.isFull = true ∧ ∃ kit, (Markup.renderForm kit fields used).outcome = .ok markup) := by
  rw [markup?_eq_some] at h
  cases s with
  | render form options =>
      have houtcome : (form.render deployment options).2.outcome = .ok markup := by
        simp only [result] at h
        cases hrender : (form.render deployment options).2.outcome with
        | error e =>
            rw [hrender] at h
            cases h
        | ok shown =>
            rw [hrender] at h
            rw [Value.text.inj (Except.ok.inj h)]
      simp only [Form.render, Traced.outcome_bind_eq_ok, Traced.outcome_ofExcept] at houtcome
      obtain ⟨o, ho, hmarkup⟩ := houtcome
      exact ⟨o, o, form.rules, ho, rfl, .inl ⟨rfl, hmarkup⟩⟩
  | generate form adapter options =>
      obtain ⟨o, ho, hgenerate⟩ := Form.generate_eq_ok.mp h
      obtain ⟨a, schema, used, rfl, hbuild, hrendering⟩ := Builder.generate_eq_ok.mp hgenerate
      obtain ⟨entries, _, _, -, ho', -, -, -, hused⟩ := Builder.build_eq_ok.mp hbuild
      obtain rfl := Except.ok.inj ho'
      have hform : used.form = o.form := by
        rw [hused]
        rfl
      refine ⟨o, used, schema.toFields, ho, hform, ?_⟩
      rcases hknown a rfl with hplain | ⟨kit, hfull⟩
      · simp only [Builder.rendering, hplain, Traced.outcome_bind_eq_ok, Traced.outcome_pure,
          Except.ok.injEq, Value.text.injEq] at hrendering
        obtain ⟨_, hmarkup, rfl⟩ := hrendering
        exact .inl ⟨by simp [isFull, hplain], hmarkup⟩
      · have hsame : Builder.rendering a schema used =
            Builder.rendering (.markup kit) schema used := by
          rw [Builder.rendering, hfull, Builder.rendering]
        rw [hsame] at hrendering
        obtain ⟨_, hmarkup, htext⟩ := Builder.rendering_markup.mp hrendering
        obtain rfl := Value.text.inj htext
        exact .inr ⟨by simp [isFull, hfull, Adapter.markup], kit, hmarkup⟩

/-- **Markup that is returned shows the id of its options.** -/
theorem formId?_of_markup? (hknown : s.IsKnown)
    (hkeeps : ∀ o, s.resolved deployment = .ok o → s.isFull = true →
      Dict.get? o.form.attrs "id" = none)
    (h : s.markup? deployment = some markup) :
    ∃ o, s.resolved deployment = .ok o ∧ Markup.formId? markup = some o.form.id := by
  obtain ⟨o, used, fields, ho, hform, hmarkup⟩ := exists_rendering hknown h
  refine ⟨o, ho, hform ▸ ?_⟩
  rcases hmarkup with ⟨-, hmarkup⟩ | ⟨hfull, kit, hmarkup⟩
  · exact Markup.Plain.formId?_renderForm hmarkup
  · exact Markup.formId?_renderForm hmarkup (hform ▸ hkeeps o ho hfull)

/-- A showing that puts its options to use shows their id. -/
theorem Holds.formId? (h : s.Holds deployment) (hknown : s.IsKnown) :
    (s.markup? deployment).map Markup.formId? = (s.id? deployment).map some := by
  unfold id?
  cases hresolved : s.resolved deployment with
  | error e =>
      cases hmarkup : s.markup? deployment with
      | none => rfl
      | some markup =>
          obtain ⟨o, ho, -⟩ := formId?_of_markup? hknown h.keeps hmarkup
          rw [hresolved] at ho
          cases ho
  | ok o =>
      obtain ⟨markup, hmarkup⟩ := h.returns o hresolved
      obtain ⟨o', ho', hid⟩ := formId?_of_markup? hknown h.keeps hmarkup
      obtain rfl := Except.ok.inj (hresolved.symm.trans ho')
      rw [hmarkup, Option.map_some, hid]
      rfl

end Showing

namespace FormEvent

/-- An adapter that is asked is known. -/
def IsKnown : FormEvent → Prop
  | .generate adapter _ => ∀ a ∈ adapter, a.IsKnown
  | _ => True

end FormEvent

namespace Form

variable {deployment : Deployment} {form : Form} {events : List FormEvent}

theorem isKnown_of_mem_showings (hknown : ∀ event ∈ events, event.IsKnown) :
    ∀ s ∈ form.showings deployment events, s.IsKnown := by
  induction events generalizing form with
  | nil => simp [showings]
  | cons event rest ih =>
      obtain ⟨hevent, hrest⟩ := List.forall_mem_cons.mp hknown
      intro s hs
      rw [showings] at hs
      rcases List.mem_append.mp hs with hs | hs
      · cases event with
        | render options =>
            obtain rfl := List.mem_singleton.mp hs
            trivial
        | generate adapter options =>
            obtain rfl := List.mem_singleton.mp hs
            exact hevent
        | _ => cases hs
      · exact ih hrest s hs

/-- **The id of a form** is that of the last options that could be resolved, and at first that of
the settings. So it is the id in the form tag shown last, as long as every showing puts its options
to use. -/
theorem formId_run_eq (hopened : Opened deployment form)
    (hknown : ∀ event ∈ events, event.IsKnown) :
    ∃ settings, deployment.settings = .ok settings ∧
      (form.run deployment events).formId =
        ((form.showings deployment events).filterMap (Showing.id? deployment)).getLastD
          settings.formId ∧
      ((∀ s ∈ form.showings deployment events, s.Holds deployment) →
        (((form.showings deployment events).filterMap (Showing.markup? deployment)).map
          Markup.formId?).getLastD (some settings.formId) =
            some (form.run deployment events).formId) := by
  obtain ⟨settings, hsettings, hid⟩ := hopened.formId
  have hrun : (form.run deployment events).formId = _ := formId_run events
  rw [hid] at hrun
  refine ⟨settings, hsettings, hrun, fun hholds => ?_⟩
  have hshown : ((form.showings deployment events).filterMap (Showing.markup? deployment)).map
      Markup.formId? =
        ((form.showings deployment events).filterMap (Showing.id? deployment)).map some := by
    rw [List.map_filterMap, List.map_filterMap]
    exact List.filterMap_congr fun s hs =>
      (hholds s hs).formId? (isKnown_of_mem_showings hknown s hs)
  rw [hshown, hrun, List.getLastD_eq_getLast?, List.getLastD_eq_getLast?, List.getLast?_map,
    Option.getD_map]

def loginRules : Named Value :=
  [("login", .text "required")]

/-- The plain markup under an id, and then the full markup under that of the settings. -/
def signupEvents : List FormEvent :=
  [.render (.dict [(.text "formId", .text "signup")]), .setRule "login" (.text "min:3"),
    .generate (some (.markup bareKit)) .null]

theorem formId_run_eq_signup :
    ∃ form, ofRules .standard loginRules .null = .ok form ∧
      (form.run .standard signupEvents).formId = "generated-form" ∧
      (((form.showings .standard signupEvents).filterMap (Showing.markup? .standard)).map
        Markup.formId?).getLastD (some "generated-form") = some "generated-form" := by
  obtain ⟨form, hform⟩ : ∃ form, ofRules .standard loginRules .null = .ok form := ⟨_, rfl⟩
  have hknown : ∀ event ∈ signupEvents, event.IsKnown := by
    have hmarkup : ∀ a ∈ some (Adapter.markup bareKit), a.IsKnown := by
      intro a ha
      obtain rfl := Option.mem_some_iff.mp ha
      exact .inr ⟨bareKit, rfl⟩
    exact List.forall_mem_cons.mpr ⟨trivial, List.forall_mem_cons.mpr ⟨trivial,
      List.forall_mem_singleton.mpr hmarkup⟩⟩
  obtain ⟨settings, hsettings, hrun, hshown⟩ := formId_run_eq (.ofRules hform) hknown
  obtain rfl := Except.ok.inj hsettings
  have hholds : ∀ s ∈ form.showings .standard signupEvents, s.Holds .standard := by
    obtain rfl := Except.ok.inj hform
    refine List.forall_mem_cons.mpr ⟨⟨fun o ho => ⟨_, rfl⟩, fun o ho hfull => ?_⟩,
      List.forall_mem_singleton.mpr ⟨fun o ho => Option.isSome_iff_exists.mp (by decide +kernel),
        fun o ho hfull => ?_⟩⟩
    · cases hfull
    · obtain rfl := Except.ok.inj ho
      rfl
  have hid : (form.run .standard signupEvents).formId = "generated-form" := by
    obtain rfl := Except.ok.inj hform
    exact hrun.trans rfl
  exact ⟨form, hform, hid, (hshown hholds).trans (congrArg some hid)⟩

/-- A call without an adapter, after the plain markup. -/
def strayEvents : List FormEvent :=
  [.render (.dict [(.text "formId", .text "signup")]),
    .generate none (.dict [(.text "formId", .text "login")])]

/-- The full markup of a form that brings another id among its attributes. -/
def renamedEvents : List FormEvent :=
  [.generate (some (.markup bareKit)) (.dict [(.text "form", .dict [(.text "id", .text "signup"),
    (.text "attrs", .dict [(.text "id", .text "login")])])])]

/-- A call that ends in a fault changes the id all the same, and an attribute of the form replaces
it in the markup alone. -/
theorem formId_run_ne_shown :
    ∃ form, ofRules .standard loginRules .null = .ok form ∧
      (form.run .standard strayEvents).formId = "login" ∧
      ((form.showings .standard strayEvents).filterMap (Showing.markup? .standard)).map
        Markup.formId? = [some "signup"] ∧
      (form.run .standard renamedEvents).formId = "signup" ∧
      ((form.showings .standard renamedEvents).filterMap (Showing.markup? .standard)).map
        Markup.formId? = [some "login"] := by
  obtain ⟨form, hform⟩ : ∃ form, ofRules .standard loginRules .null = .ok form := ⟨_, rfl⟩
  refine ⟨form, hform, ?_, ?_, ?_, ?_⟩
  · exact (formId_run strayEvents).trans rfl
  · obtain ⟨o, ho⟩ : ∃ o, Options.resolve .standard (.dict [(.text "formId", .text "signup")]) =
        .ok o := ⟨_, rfl⟩
    obtain ⟨markup, hmarkup⟩ : ∃ markup, (Markup.Plain.renderForm loginRules o).outcome =
        .ok markup := ⟨_, rfl⟩
    have hshown : (form.showings .standard strayEvents).filterMap (Showing.markup? .standard) =
        [markup] := by
      obtain rfl := Except.ok.inj hform
      obtain rfl := Except.ok.inj ho
      obtain rfl := Except.ok.inj hmarkup
      rfl
    have hid := Markup.Plain.formId?_renderForm hmarkup
    obtain rfl := Except.ok.inj ho
    rw [hshown, List.map_singleton, hid]
    rfl
  · exact (formId_run renamedEvents).trans rfl
  · obtain ⟨o, ho⟩ : ∃ o, Options.resolve .standard (.dict [(.text "form",
        .dict [(.text "id", .text "signup"),
          (.text "attrs", .dict [(.text "id", .text "login")])])]) = .ok o := ⟨_, rfl⟩
    let wrapped : Value := .rule (Rule.wrapped "login"
      { Rule.empty with required := true, provided := [.required] })
    obtain ⟨markup, hmarkup⟩ : ∃ markup,
        (Markup.renderForm bareKit [("login", wrapped)] o).outcome = .ok markup := by
      obtain rfl := Except.ok.inj ho
      exact ⟨_, rfl⟩
    have hshown : (form.showings .standard renamedEvents).filterMap (Showing.markup? .standard) =
        [markup] := by
      obtain rfl := Except.ok.inj hform
      obtain rfl := Except.ok.inj ho
      obtain rfl := Except.ok.inj hmarkup
      rfl
    have hid : Markup.formId? markup = some "login" := by
      obtain rfl := Except.ok.inj ho
      exact Markup.formId?_of_formAttributes hmarkup rfl
    rw [hshown, List.map_singleton, hid]

end Form

end FieldRules
