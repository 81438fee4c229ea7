import FieldRules.Form.Generate
import FieldRules.Proofs.Failing
import FieldRules.Proofs.Markup.Likeness

/-!
# Proofs — Faults

In which faults the markup of a field can end, where the controls are the usual ones and the custom
functions give a result. Each of them comes from one thing that the rule gives and that does not fit
(`Unshowable`), or from an integer that is too long to be written; for the plain markup of rules
that are normalized there is only the latter.
-/

namespace FieldRules.Markup

variable {kit : Toolkit} {name : String} {r : Rule} {o : RenderOptions} {view : FieldView}

/-! ## What does not fit -/

/-- The classes that a rule may give. -/
def givenClasses (r : Rule) : List (Option Value) :=
  [r.className, fromPresentation r Presentation.inputClass,
    fromPresentation r Presentation.wrapperClass, fromPresentation r Presentation.labelClass,
    fromPresentation r Presentation.errorClass]

/-- A class that counts as given and is no text. -/
def IsForeignClass (v : Value) : Prop :=
  v.truthy = true ∧ ∀ s, v ≠ .text s

/-- What the rule gives and cannot be shown, with the fault that it leads to. -/
inductive Unshowable (r : Rule) : Fault → Prop
  | className {v : Value} : some v ∈ givenClasses r → IsForeignClass v → Unshowable r .notText
  | choices : fromPresentation r Presentation.control = some (.text "select") →
      choices (Dict.getD r.extras "options") = .error .notIterable → Unshowable r .notIterable
  | control {v : Value} : fromPresentation r Presentation.control = some v → v.truthy = true →
      v.isKey = false → Unshowable r .unhashable

/-- Something does not fit, or an integer is too long. -/
def IsShowFault (r : Rule) (e : Fault) : Prop :=
  Unshowable r e ∨ e = .excess .writing

theorem failsWith_requireWritable (r : Rule) (writable : Bool) :
    FailsWith (IsShowFault r) (requireWritable writable) :=
  .requireWritable (.inr rfl)

/-! ## Classes -/

theorem failsWith_joinClasses (names : List Value) :
    FailsWith (fun e => e = .notText ∧ ∃ v ∈ names, IsForeignClass v) (joinClasses names) := by
  have htrimmed : FailsWith (fun e => e = .notText ∧ ∃ v ∈ names, IsForeignClass v)
      (joinClasses.trimmed names) := by
    induction names with
    | nil => exact .ok []
    | cons v rest ih =>
        have hrest := ih.mono fun e he => And.imp_right
          (Exists.imp fun _ h => And.imp_left (List.mem_cons_of_mem v) h) he
        unfold joinClasses.trimmed
        split
        · next htruthy =>
            split
            · exact hrest.bind fun others _ => .ok _
            · next htext => exact .error ⟨rfl, v, List.mem_cons_self, htruthy, htext⟩
        · exact hrest
  exact htrimmed.bind fun names _ => .ok _

/-- Texts and what is absent do not lead to the fault. -/
theorem Unshowable.of_names {names : List Value} {e : Fault}
    (hnames : ∀ v ∈ names, (∃ s, v = .text s) ∨ v = .null ∨ some v ∈ givenClasses r)
    (h : e = .notText ∧ ∃ v ∈ names, IsForeignClass v) : Unshowable r e := by
  obtain ⟨rfl, v, hv, hforeign⟩ := h
  rcases hnames v hv with ⟨s, rfl⟩ | rfl | hgiven
  · exact absurd rfl (hforeign.2 s)
  · cases hforeign.1
  · exact .className hgiven hforeign

/-- A class that may be given is given, or absent. -/
theorem ofOption_cases {v? : Option Value} (h : v? ∈ givenClasses r) :
    (∃ s, Value.ofOption v? = .text s) ∨ Value.ofOption v? = .null ∨
      some (Value.ofOption v?) ∈ givenClasses r := by
  cases v? with
  | none => exact .inr (.inl rfl)
  | some v => exact .inr (.inr h)

/-! ## Fields -/

theorem failsWith_fieldView (name : String) (r : Rule) (o : RenderOptions) :
    FailsWith (Unshowable r) (fieldView name r o) := by
  have hjoin {names : List Value}
      (hnames : ∀ v ∈ names, (∃ s, v = .text s) ∨ v = .null ∨ some v ∈ givenClasses r) :
      FailsWith (Unshowable r) (joinClasses names) :=
    (failsWith_joinClasses names).mono fun e => Unshowable.of_names hnames
  simp only [fieldView]
  refine .bind (hjoin ?_) fun _ _ => .bind (hjoin ?_) fun _ _ => .bind (hjoin ?_) fun _ _ =>
    .bind (hjoin ?_) fun _ _ => .ok _
  · simp only [List.forall_mem_cons]
    exact ⟨.inl ⟨_, rfl⟩, ofOption_cases (by simp [givenClasses]),
      ofOption_cases (by simp [givenClasses]), by simp⟩
  · simp only [List.forall_mem_cons]
    refine ⟨.inl ⟨_, rfl⟩, ?_, ofOption_cases (by simp [givenClasses]), by simp⟩
    split
    · exact .inl ⟨_, rfl⟩
    · exact .inr (.inl rfl)
  · simp only [List.forall_mem_cons]
    exact ⟨.inl ⟨_, rfl⟩, ofOption_cases (by simp [givenClasses]), by simp⟩
  · simp only [List.forall_mem_cons]
    exact ⟨.inl ⟨_, rfl⟩, ofOption_cases (by simp [givenClasses]), by simp⟩

theorem control_fieldView (h : fieldView name r o = .ok view) :
    view.control = givenOr (fromPresentation r Presentation.control) (.text "input") := by
  simp only [fieldView, bind_eq_ok] at h
  obtain ⟨inputClass, -, groupClass, -, labelClass, -, errorClass, -, h⟩ := h
  rw [← Except.ok.inj h]

/-- The usual control for what a rule asks for. -/
theorem failsWith_chosenControl (kind : Value) :
    FailsWith (fun e => e = .unhashable ∧ kind.isKey = false) (chosenControl .standard kind) := by
  unfold chosenControl
  split
  · split <;> exact .ok _
  · split
    · exact .ok _
    · next hkey => exact .error ⟨rfl, by simpa using hkey⟩

/-- A selection is chosen under its own name only. -/
theorem eq_select_of_chosenControl {kind : Value}
    (h : chosenControl .standard kind = .ok .selection) : kind = .text "select" := by
  have hchosen := chosenControl_standard h
  by_cases harea : Dict.keyIs "textarea" kind = true
  · rw [if_pos harea] at hchosen
    cases hchosen
  by_cases hselect : Dict.keyIs "select" kind = true
  · cases kind with
    | text name =>
        obtain rfl : name = "select" := by simpa [Dict.keyIs] using hselect
        rfl
    | _ => cases hselect
  · rw [if_neg harea, if_neg hselect] at hchosen
    cases hchosen

theorem failsWith_choices (options : Value) :
    FailsWith (fun e => e = .notIterable ∧ choices options = .error .notIterable)
      (choices options) := by
  intro e he
  have hfault : e = .notIterable := by
    unfold choices at he
    split at he
    · cases he
    · split at he
      · split at he
        · cases he
        · exact (Except.error.inj he).symm
      · cases he
  exact ⟨hfault, hfault ▸ he⟩

theorem failsWith_renderSelection (view : FieldView) :
    FailsWith (fun e => (e = .notIterable ∧
        choices (Dict.getD view.rule.extras "options") = .error .notIterable) ∨
          e = .excess .writing)
      (renderSelection view) :=
  .bind (.requireWritable (.inr rfl)) fun _ _ =>
    .bind ((failsWith_choices _).mono fun _ h => .inl h) fun _ _ =>
      .bind (.requireWritable (.inr rfl)) fun _ _ => .ok _

/-- What a rule asks for instead of an input. -/
theorem eq_some_of_control {v : Value}
    (h : givenOr (fromPresentation r Presentation.control) (.text "input") = v)
    (hinput : v ≠ .text "input") :
    fromPresentation r Presentation.control = some v ∧ v.truthy = true := by
  unfold givenOr at h
  split at h
  · next w hw =>
      split at h
      · next htruthy => exact ⟨hw.trans (congrArg some h), h ▸ htruthy⟩
      · exact absurd h.symm hinput
  · exact absurd h.symm hinput

/-- The control of a field fails to be shown if it is a selection of something else than choices. -/
theorem failsWith_renderControl {renderers : Renderers} {depth : Nat} {control : Control}
    (hview : fieldView name r o = .ok view)
    (hcontrol : chosenControl .standard view.control = .ok control) :
    FailsWith (IsShowFault r) (renderControl renderers .standard o depth control view) := by
  cases control with
  | input =>
      rw [renderControl]
      exact .bind (failsWith_requireWritable r _) fun _ _ => .ok _
  | area =>
      rw [renderControl]
      exact .bind (failsWith_requireWritable r _) fun _ _ => .ok _
  | custom f => exact absurd rfl (chosenControl_ne_custom hcontrol)
  | selection =>
      have hselect := eq_select_of_chosenControl hcontrol
      have hinput : view.control ≠ .text "input" := by
        rw [hselect]
        simp
      obtain ⟨hsome, -⟩ := eq_some_of_control (control_fieldView hview).symm hinput
      rw [renderControl]
      refine .bind ((failsWith_renderSelection view).mono ?_) fun _ _ => .ok _
      rintro e (⟨rfl, hchoices⟩ | rfl)
      · rw [rule_fieldView hview] at hchoices
        exact .inl (.choices (hselect ▸ hsome) hchoices)
      · exact .inr rfl

/-- **A field fails to be shown for what its rule gives**, and for nothing else. -/
theorem failsWith_renderField (hkit : kit.controls = .standard)
    (hrenderers : ∀ f view context, ∃ v, kit.renderers f view context = .ok v) (name : String)
    (r : Rule) (o : RenderOptions) : FailsWith (IsShowFault r) (renderField kit name r o) := by
  rw [renderField_eq]
  refine ((failsWith_fieldView name r o).mono fun _ h => .inl h).bind fun view hview => ?_
  unfold viewMarkup
  cases r.renderOverride? with
  | some f =>
      obtain ⟨v, hv⟩ := hrenderers f view _
      have hcustom : renderControl kit.renderers kit.controls o nestingLimit (.custom f) view =
          .ok v := hv
      dsimp only
      rw [hcustom]
      exact .bind (.ok v) fun _ _ => .bind (failsWith_requireWritable r _) fun _ _ => .ok _
  | none =>
      have hgiven := control_fieldView hview
      dsimp only
      rw [hkit]
      refine .bind ?_ fun control hcontrol => .bind (failsWith_renderControl hview hcontrol)
        fun markup _ => .bind (.bind (failsWith_requireWritable r _) fun _ _ => .ok _) fun _ _ =>
          .bind (failsWith_requireWritable r _) fun _ _ => .ok _
      · refine (failsWith_chosenControl _).mono ?_
        rintro e ⟨rfl, hkey⟩
        have hinput : view.control ≠ .text "input" := by
          intro hinput
          rw [hinput] at hkey
          cases hkey
        obtain ⟨hsome, htruthy⟩ := eq_some_of_control hgiven.symm hinput
        exact .inl (.control hsome htruthy hkey)

/-! ## Forms -/

/-- The fields of a schema fail to be shown for what one of their rules gives. -/
theorem failsWith_renderFields (hkit : kit.controls = .standard)
    (hrenderers : ∀ f view context, ∃ v, kit.renderers f view context = .ok v) (o : RenderOptions)
    (fields : Named Rule) :
    FailsWith (fun e => (∃ f ∈ fields, Unshowable f.2 e) ∨ e = .excess .writing)
      (renderFields kit o (Schema.toFields ⟨fields⟩)).outcome := by
  induction fields with
  | nil => exact .ok []
  | cons f rest ih =>
      refine .outcome_bind (.ok f.2) fun r hr => .outcome_bind ?_ fun _ _ => .outcome_bind ?_
        fun _ _ => .ok _
      · obtain rfl : f.2 = r := Except.ok.inj hr
        exact (failsWith_renderField hkit hrenderers f.1 f.2 o).mono fun e he =>
          he.imp_left fun h => ⟨f, List.mem_cons_self, h⟩
      · refine ih.mono ?_
        rintro e (⟨g, hg, he⟩ | rfl)
        · exact .inl ⟨g, List.mem_cons_of_mem f hg, he⟩
        · exact .inr rfl

theorem failsWith_renderForm (hkit : kit.controls = .standard)
    (hrenderers : ∀ f view context, ∃ v, kit.renderers f view context = .ok v) (schema : Schema)
    (o : RenderOptions) :
    FailsWith (fun e => (∃ f ∈ schema.fields, Unshowable f.2 e) ∨ e = .excess .writing)
      (renderForm kit schema.toFields o).outcome :=
  .outcome_bind (.requireWritable (.inr rfl)) fun _ _ =>
    .outcome_bind (failsWith_renderFields hkit hrenderers o schema.fields) fun _ _ =>
      .outcome_bind (.requireWritable (.inr rfl)) fun _ _ => .ok _

/-- The plain markup of a schema is written unless an integer in it is too long. -/
theorem Plain.failsWith_renderForm (schema : Schema) (o : RenderOptions) :
    FailsWith (· = .excess .writing) (Plain.renderForm schema.toFields o).outcome := by
  have hfields (fields : Named Rule) : FailsWith (· = .excess .writing)
      (Plain.renderFields o (Schema.toFields ⟨fields⟩)).outcome := by
    induction fields with
    | nil => exact .ok []
    | cons f rest ih =>
        exact .outcome_bind (.ok f.2) fun _ _ => .outcome_bind (.requireWritable rfl) fun _ _ =>
          .outcome_bind ih fun _ _ => .ok _
  exact .outcome_bind (hfields schema.fields) fun _ _ => .ok _

end FieldRules.Markup
