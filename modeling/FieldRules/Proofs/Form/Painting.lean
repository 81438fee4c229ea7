import FieldRules.Proofs.Form.Session
import FieldRules.Proofs.Validation.Settling
import FieldRules.Proofs.Validation.Totality

/-!
# Proofs — Painting

What a surface shows. Painting errors on a surface that shows others adds them, message by message
(`Surface.Shows.paint`), as long as no field comes twice; and no field does, neither in the errors
of a validation nor in those that an answer brings. Every attempt starts from a cleared surface, so
after one that ends with an outcome the surface shows the errors of that outcome and no others
(`surface_shows`).
-/

namespace FieldRules

/-! ## Painting -/

theorem Value.liftExcess_display?_eq_ok {v : Value} {text : String} :
    liftExcess v.display? = .ok text ↔ v.isWritable = true ∧ text = v.display := by
  by_cases hw : v.isWritable = true
  · rw [display?_of_isWritable hw]
    simp [liftExcess, hw, eq_comm]
  · rw [display?_of_not_isWritable (Bool.eq_false_iff.mpr hw)]
    simp [liftExcess, hw]

namespace Surface

variable {cssClass : Value} {s : Surface} {shown errors : Named Value}

/-- The surface shows exactly these errors: each message in its written form, and each field
marked with the class. -/
structure Shows (cssClass : Value) (errors : Named Value) (s : Surface) : Prop where
  messages : s.messages = errors.map fun e => (e.1, e.2.display)
  marked : s.marked = errors.map fun e => (e.1, cssClass)

theorem shows_clear (cssClass : Value) (s : Surface) : s.clear.Shows cssClass [] :=
  ⟨rfl, rfl⟩

/-- One more error is painted below those that are shown. -/
theorem Shows.paintError {name : String} {message : Value} (h : s.Shows cssClass shown)
    (hnew : name ∉ Named.names shown) :
    (s.paintError cssClass name message.display).Shows cssClass (shown ++ [(name, message)]) := by
  have hmessages : name ∉ Named.names s.messages := by
    simpa [h.messages, Named.names] using hnew
  have hmarked : name ∉ Named.names s.marked := by
    simpa [h.marked, Named.names] using hnew
  constructor
  · show Named.put name message.display s.messages = _
    rw [Named.put_of_not_mem _ hmessages, h.messages, List.map_append]
    rfl
  · show Named.put name cssClass s.marked = _
    rw [Named.put_of_not_mem _ hmarked, h.marked, List.map_append]
    rfl

/-- **Painting adds the errors to those that are shown**, if all of them can be painted. -/
theorem Shows.paint (h : s.Shows cssClass shown)
    (hnames : (Named.names (shown ++ errors)).Nodup)
    (hpaint : (s.paint cssClass errors).2 = .ok ()) :
    (s.paint cssClass errors).1.Shows cssClass (shown ++ errors) := by
  induction errors generalizing s shown with
  | nil => simpa [Surface.paint] using h
  | cons e rest ih =>
      obtain ⟨name, message⟩ := e
      have hnew : name ∉ Named.names shown := by
        intro hmem
        rw [Named.names, List.map_append, List.nodup_append] at hnames
        exact hnames.2.2 name hmem name (by simp) rfl
      rw [Surface.paint] at hpaint ⊢
      cases htext : liftExcess message.display? with
      | error fault => simp [htext] at hpaint
      | ok text =>
          obtain ⟨-, rfl⟩ := Value.liftExcess_display?_eq_ok.mp htext
          simp only [htext] at hpaint ⊢
          have hrest := ih (h.paintError hnew) (by simpa using hnames) hpaint
          simpa using hrest

/-- Texts can always be painted. -/
theorem paint_texts (h : ∀ e ∈ errors, ∃ text, e.2 = .text text) :
    (s.paint cssClass errors).2 = .ok () := by
  induction errors generalizing s with
  | nil => rfl
  | cons e rest ih =>
      obtain ⟨⟨text, htext⟩, hrest⟩ := List.forall_mem_cons.mp h
      obtain ⟨name, message⟩ := e
      obtain rfl : message = .text text := htext
      exact ih hrest

end Surface

/-! ## Errors of an answer -/

namespace Coordinator

variable {found found' : Named Value} {errors : Dict}

theorem putErrorText_eq_ok {e : Value × Value} :
    putErrorText found e = .ok found' ↔
      (e.1.isWritable = true ∧ e.2.isWritable = true) ∧
        found' = Named.put e.1.display (.text e.2.display) found := by
  simp only [putErrorText, bind_eq_ok, Value.liftExcess_display?_eq_ok]
  constructor
  · rintro ⟨name, ⟨hname, rfl⟩, text, ⟨htext, rfl⟩, h⟩
    exact ⟨⟨hname, htext⟩, (Except.ok.inj h).symm⟩
  · rintro ⟨⟨hname, htext⟩, rfl⟩
    exact ⟨_, ⟨hname, rfl⟩, _, ⟨htext, rfl⟩, rfl⟩

/-- The errors of an answer can be read when all keys and values can be written. -/
theorem exists_errorTexts :
    (∃ found', errors.foldlM putErrorText found = .ok found') ↔
      ∀ e ∈ errors, e.1.isWritable = true ∧ e.2.isWritable = true := by
  induction errors generalizing found with
  | nil => exact iff_of_true ⟨found, rfl⟩ (by simp)
  | cons e rest ih =>
      simp only [List.foldlM_cons, List.forall_mem_cons, bind_eq_ok, putErrorText_eq_ok]
      constructor
      · rintro ⟨found', next, ⟨he, -⟩, hrest⟩
        exact ⟨he, ih.mp ⟨found', hrest⟩⟩
      · rintro ⟨he, hrest⟩
        obtain ⟨found', h⟩ := ih.mpr hrest
        exact ⟨found', _, ⟨he, rfl⟩, h⟩

/-- Errors as an answer brings them: texts, and no field comes twice. -/
structure Plain (errors : Named Value) : Prop where
  names : (Named.names errors).Nodup
  texts : ∀ e ∈ errors, ∃ text, e.2 = .text text

theorem Plain.put (h : Plain found) (name text : String) :
    Plain (Named.put name (.text text) found) where
  names := Named.nodup_put name _ h.names
  texts := by
    intro e he
    rcases Named.mem_put he with rfl | he
    · exact ⟨text, rfl⟩
    · exact h.texts e he

theorem Plain.foldlM (h : Plain found) (hfold : errors.foldlM putErrorText found = .ok found') :
    Plain found' := by
  induction errors generalizing found with
  | nil =>
      obtain rfl : found = found' := Except.ok.inj hfold
      exact h
  | cons e rest ih =>
      rw [List.foldlM_cons, bind_eq_ok] at hfold
      obtain ⟨next, hnext, hrest⟩ := hfold
      obtain ⟨-, rfl⟩ := putErrorText_eq_ok.mp hnext
      exact ih (h.put _ _) hrest

/-- The errors of an answer are plain. -/
theorem plain_serverErrors {body : Value} (h : serverErrors body = .ok found) : Plain found := by
  have hnil : Plain [] := ⟨List.nodup_nil, by simp⟩
  unfold serverErrors at h
  split at h
  · split at h
    · exact hnil.foldlM h
    · obtain rfl : [] = found := Except.ok.inj h
      exact hnil
  · cases h

end Coordinator

/-! ## Errors of a validation -/

/-- A field that starts has a record to look at. -/
theorem Prepared.exists_record {p : Prepared} {data : Value} {stage : Stage}
    (h : p.start data = .ok stage) : ∃ record, data.record = .ok record := by
  rw [Prepared.start, bind_eq_ok] at h
  obtain ⟨record, hrecord, -⟩ := h
  exact ⟨record, hrecord⟩

namespace Validation

variable {validators : Validators} {data : Value} {prepared : List Prepared} {v : Validation}

/-- A validation that ends with a result has the outcomes of the fields for its details. -/
theorem details_of_run (hc : ∀ p ∈ prepared, p.rule.Compiled p.pattern)
    (h : (run validators data prepared).outcome = .ok v) :
    ∃ record, v.details.Perm (prepared.filterMap (Prepared.outcome validators record)) := by
  cases hdata : data.record with
  | ok record =>
      have hdecided := (exists_run hdata hc).mp ⟨v, h⟩
      rw [run_outcome_eq_ok hdata hc hdecided] at h
      obtain rfl := Except.ok.inj h
      exact ⟨record, settledDetails_perm validators record prepared⟩
  | error fault =>
      cases prepared with
      | nil =>
          obtain rfl := Except.ok.inj h
          exact ⟨[], .of_eq (by simp [settlingOrder])⟩
      | cons p rest =>
          have hstart : ∃ e, p.start data = .error e := by
            cases hp : p.start data with
            | error e => exact ⟨e, rfl⟩
            | ok stage =>
                obtain ⟨record, hrecord⟩ := Prepared.exists_record hp
                rw [hdata] at hrecord
                cases hrecord
          obtain ⟨e, he⟩ := hstart
          obtain ⟨e', he'⟩ := Option.ne_none_iff_exists'.mp
            (startAll_of_error (List.mem_cons_self (l := rest)) he)
          simp only [run, he'] at h
          cases h

theorem fields_outcomes_sublist (validators : Validators) (record : Dict)
    (prepared : List Prepared) :
    ((prepared.filterMap (Prepared.outcome validators record)).map (·.field)).Sublist
      (prepared.map (·.field)) := by
  induction prepared with
  | nil => exact .slnil
  | cons p rest ih =>
      cases ho : p.outcome validators record with
      | none =>
          rw [List.filterMap_cons_none ho]
          exact ih.cons _
      | some d =>
          rw [List.filterMap_cons_some ho, List.map_cons, List.map_cons,
            Prepared.field_of_outcome ho]
          exact ih.cons_cons _

end Validation

theorem Value.entries_ofNames (rules : Named Value) :
    (Value.dict (Dict.ofNames rules)).entries = .ok (Dict.ofNames rules) := by
  cases rules <;> rfl

theorem Rules.names_ofNames (rules : Named Value) :
    Rules.names (Dict.ofNames rules) = Named.names rules := by
  rw [names, Dict.ofNames, List.map_map]
  rfl

/-- **No field has two errors.** -/
theorem Form.nodup_errors {validators : Validators} {form : Form} {data : Value} {v : Validation}
    (hrules : (Named.names form.rules).Nodup)
    (h : (form.validate validators data).outcome = .ok v) : (Named.names v.errors).Nodup := by
  rw [Form.validate, FieldRules.validate, Traced.outcome_bind_eq_ok] at h
  obtain ⟨entries, hentries, h⟩ := h
  obtain ⟨prepared, hprepared, hrun⟩ := Traced.outcome_bind_eq_ok.mp h
  obtain rfl : Dict.ofNames form.rules = entries :=
    Except.ok.inj ((Value.entries_ofNames form.rules).symm.trans hentries)
  obtain ⟨record, hperm⟩ := Validation.details_of_run
    (fun p hp => Prepared.compiled_of_mem_all hprepared hp) hrun
  have hfields : (prepared.map (·.field)).Nodup := by
    rw [Prepared.fields_of_all hprepared, Rules.names_ofNames]
    exact hrules
  have hnames : Named.names v.errors = v.details.map (·.field) := by
    rw [Named.names, Validation.errors, List.map_map]
    rfl
  rw [hnames, (hperm.map _).nodup_iff]
  exact hfields.sublist (Validation.fields_outcomes_sublist validators record prepared)

/-! ## Cycles -/

/-- A painting on a cleared surface that succeeds shows the errors. -/
theorem Surface.shows_painted {cssClass : Value} {s : Surface} {errors : Named Value}
    {outcome o : SubmitOutcome} (hnames : (Named.names errors).Nodup)
    (h : ((s.clear.paint cssClass errors).2.map fun _ => outcome) = .ok o) :
    (s.clear.paint cssClass errors).1.Shows cssClass errors ∧ o = outcome := by
  cases hpaint : (s.clear.paint cssClass errors).2 with
  | error fault =>
      rw [hpaint] at h
      cases h
  | ok _ =>
      rw [hpaint] at h
      have hshows : (s.clear.paint cssClass errors).1.Shows cssClass ([] ++ errors) :=
        (shows_clear cssClass s).paint hnames hpaint
      exact ⟨hshows, (Except.ok.inj h).symm⟩

namespace Cycle

/-- **After an attempt that ends with an outcome the surface shows its errors**, and none are
shown when the values were taken or could not be delivered. -/
theorem shows_attempt (k : Cycle) {o : SubmitOutcome} (h : k.attempt.result.outcome = .ok o) :
    k.attempt.surface.Shows k.page.form.inputErrorClass o.errors ∧
      (o.status = .submitted ∨ o.status = .failed → o.errors = []) := by
  cases k.ends_attempt with
  | unvalidated fault hvalidation hsent hsurface hresult =>
      rw [hresult] at h
      cases h
  | invalid v hvalidation hdetails hsent hsurface hresult =>
      rw [hresult] at h
      obtain ⟨hshows, rfl⟩ :=
        Surface.shows_painted (Form.nodup_errors k.page.distinct hvalidation) h
      rw [hsurface]
      exact ⟨hshows, by simp⟩
  | failed v hvalidation hdetails exception hdelivery hsent hsurface hresult =>
      rw [hresult] at h
      obtain rfl := Except.ok.inj h
      rw [hsurface]
      exact ⟨Surface.shows_clear _ _, fun _ => rfl⟩
  | submitted v hvalidation hdetails response hdelivery hok hsent hsurface hresult =>
      rw [hresult] at h
      obtain rfl := Except.ok.inj h
      rw [hsurface]
      exact ⟨Surface.shows_clear _ _, fun _ => rfl⟩
  | unreadable v hvalidation hdetails response hdelivery hok fault herrors hsent hsurface
      hresult =>
      rw [hresult] at h
      cases h
  | rejected v hvalidation hdetails response hdelivery hok errors herrors hsent hsurface
      hresult =>
      rw [hresult] at h
      obtain ⟨hshows, rfl⟩ :=
        Surface.shows_painted (Coordinator.plain_serverErrors herrors).names h
      rw [hsurface]
      exact ⟨hshows, by simp⟩

end Cycle

/-- **A surface shows the errors of the last attempt and nothing else**, whatever was shown before
it, and until the next one. -/
theorem Page.surface_shows (page : Page) (before after : List PageEvent) (s : Submission)
    {o : SubmitOutcome}
    (hreturned : (Cycle.mk (page.run before) s).attempt.result.outcome = .ok o)
    (hafter : (page.run (before ++ [.submit s])).cycles after = []) :
    (page.run (before ++ .submit s :: after)).surface.messages =
        o.errors.map (fun e => (e.1, e.2.display)) ∧
      (page.run (before ++ .submit s :: after)).surface.marked =
        o.errors.map (fun e => (e.1, (page.run before).form.inputErrorClass)) ∧
      (o.status = .submitted ∨ o.status = .failed →
        (page.run (before ++ .submit s :: after)).surface.messages = [] ∧
          (page.run (before ++ .submit s :: after)).surface.marked = []) := by
  have hsurface : (page.run (before ++ .submit s :: after)).surface =
      (Cycle.mk (page.run before) s).attempt.surface := by
    rw [← List.singleton_append, ← List.append_assoc, Page.run_append, Page.surface_run hafter,
      Page.run_append]
    rfl
  obtain ⟨⟨hmessages, hmarked⟩, hnone⟩ := Cycle.shows_attempt _ hreturned
  rw [hsurface]
  refine ⟨hmessages, hmarked, fun hstatus => ?_⟩
  rw [hmessages, hmarked, hnone hstatus]
  exact ⟨rfl, rfl⟩

def requiredRule : Rule := { Rule.empty with required := true }

/-- A form that asks for a name. -/
def namePage : Page where
  form := ⟨[("name", .rule requiredRule)], none, "form", .text "wrong"⟩
  surface := { messages := [("age", "too young")], marked := [("age", .text "wrong")] }
  distinct := by decide

/-- A name that is left out. -/
def blankName : Submission :=
  ⟨⟨"/", "POST"⟩, slowAndFailing, .dict [(.text "name", .text "")], fun _ => .raised "TimeoutError"⟩

theorem validation_blankName {k : Cycle} (hrules : k.page.form.rules = namePage.form.rules)
    (hsubmission : k.submission = blankName) :
    k.validation.outcome =
      .ok ⟨[⟨"name", "required", .text "This field is required", .requiredFieldMissing⟩]⟩ := by
  have hdecided : (Prepared.mk (.text "name") requiredRule none).IsDecided
      [(.text "name", .text "")] := ⟨_, rfl⟩
  rw [Cycle.validation, Form.validate, hrules, hsubmission]
  exact (validateAlone_outcome (e := (.text "name", .rule requiredRule)) rfl rfl hdecided).trans rfl

/-- What was shown before is gone, and the missing name is marked with the class of the moment. -/
theorem Page.surface_shows_required :
    (namePage.run [.setErrorClass (.text "bad"), .submit blankName,
        .setErrorClass (.text "worse")]).surface.messages =
      [("name", "This field is required")] ∧
    (namePage.run [.setErrorClass (.text "bad"), .submit blankName,
        .setErrorClass (.text "worse")]).surface.marked = [("name", .text "bad")] := by
  have hreturned : (Cycle.mk (namePage.run [.setErrorClass (.text "bad")])
      blankName).attempt.result.outcome =
        .ok { status := .invalid, errors := [("name", .text "This field is required")] } := by
    rw [Cycle.attempt_eq, validation_blankName rfl rfl]
    rfl
  obtain ⟨hmessages, hmarked, -⟩ := Page.surface_shows namePage [.setErrorClass (.text "bad")]
    [.setErrorClass (.text "worse")] blankName hreturned rfl
  exact ⟨hmessages, hmarked⟩

end FieldRules
