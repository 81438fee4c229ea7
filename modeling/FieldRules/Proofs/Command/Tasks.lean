import FieldRules.Proofs.Command.Documented
import FieldRules.Proofs.Command.Lines
import FieldRules.Proofs.Form.Faults
import FieldRules.Proofs.Options.Keys
import FieldRules.Proofs.Validation.Totality

/-!
# Proofs — Tasks

What the two tasks of a command come to, for all documents. Validating reaches the verdict of the
rules on the record where there is one (`Judges.validateDocuments`). A task that comes to nothing
ends in a fault that is put into words, or in one that escapes; the latter happens for few things in
the documents only (`Escapes`).
-/

namespace FieldRules

/-! ## Faults in words -/

/-- The fault is reported in words, its own or those of what a command runs on. -/
inductive Fault.IsReported (host : Command.Host) : Fault → Prop
  | config (v : Value) : IsReported host (.usage (UsageError.invalidConfig v "builder"))
  | options {e : Fault} : Options.IsWorded host.deployment.library e → IsReported host e
  | pattern (source cause : String) (field : Value) (origin : String) :
      IsReported host (.ruleConfiguration (UsageError.invalidPattern source cause field origin))
  | document {message : String} : IsLine message → IsReported host (.unreadableDocument message)
  | refusal {message : String} : host.Says message → IsReported host (.refusal message)
  | scriptClash : IsReported host (.refusal "ASCII and UNICODE flags are incompatible")
  | digits (count : Nat) : IsReported host (.excess (.digits count))
  | writing : IsReported host (.excess .writing)

theorem Fault.IsOfRules.cases {e : Fault} (h : e.IsOfRules) (host : Command.Host) :
    e.IsReported host ∨ e = .excess .magnitude := by
  rcases h with (_ | count | _) | ⟨source, cause, field, origin⟩ | _
  · exact .inr rfl
  · exact .inl (.digits count)
  · exact .inl .writing
  · exact .inl (.pattern source cause field origin)
  · exact .inl .scriptClash

namespace Document

open Command (Host)

theorem isReported_systemError (host : Host) (number : Nat) {what : String} (hwhat : IsLine what)
    (path : String) : (systemError number what path).IsReported host :=
  .document (((((IsLine.append (by decide) (isLine_toString number)).append (by decide)).append
    hwhat).append (by decide)).append (isLine_quotedString path))

/-- The value of a text is read, or the reason is given, unless the library for YAML breaks off. -/
theorem failsWith_parse (host : Host) (path text : String) :
    FailsWith (fun e => e.IsReported host ∨ e = .breakdown)
      (parse host.documents path text) := by
  simp only [parse]
  split
  · split
    · exact .ok _
    · next hparse => exact .error (.inl (.document (Json.isLine_of_parse hparse)))
  · split
    · exact .ok _
    · next misread hmisread =>
        cases misread with
        | worded message => exact .error (.inl (.refusal (.yaml hmisread)))
        | wordless => exact .error (.inr rfl)

theorem failsWith_load (host : Host) (path : String) :
    FailsWith (fun e => e.IsReported host ∨ e = .breakdown) (load host.documents path) := by
  simp only [load]
  split
  · exact .error (.inl (.document (by decide)))
  · split
    · exact .error (.inl (isReported_systemError host _ (by decide) _))
    · exact .error (.inl (isReported_systemError host _ (by decide) _))
    · exact .error (.inl (isReported_systemError host _ (by decide) _))
    · next hfile => exact .error (.inl (.refusal (.file hfile)))
    · exact failsWith_parse host _ _

end Document

namespace Command

/-! ## What a task is about -/

/-- The first document holds rules that can be prepared. -/
def HoldsRules (store : Document.Store) (rules : String) (entries : Rules)
    (prepared : List Prepared) : Prop :=
  ∃ document, Document.load store rules = .ok document ∧ document.entries = .ok entries ∧
    (Prepared.all entries).outcome = .ok prepared

/-- The document holds a record. -/
def HoldsRecord (store : Document.Store) (data : String) (record : Dict) : Prop :=
  ∃ document, Document.load store data = .ok document ∧ document.record = .ok record

/-- There are rules and a record, and the built-in checks of every field reach a verdict. -/
structure Judges (store : Document.Store) (rules data : String) (prepared : List Prepared)
    (record : Dict) : Prop where
  holdsRules : ∃ entries, HoldsRules store rules entries prepared
  holdsRecord : HoldsRecord store data record
  decided : ∀ p ∈ prepared, p.IsDecided record

/-- The violations of a record, in the order of the rules. Documents bring no custom validators. -/
def violations (prepared : List Prepared) (record : Dict) : List Violation :=
  prepared.filterMap (Prepared.outcome noValidators record)

/-- The fields and the options that a form is rendered from. -/
def inputs (store : Document.Store) (config : String) (optionsPath : Option String) :
    Except Fault (Value × Value) := do
  let (fields, own) := splitConfig (← Document.load store config)
  match optionsPath with
  | some path =>
    if path.isEmpty then return (fields, own)
    else return (fields, ← overlay own (Document.load store path))
  | none => return (fields, own)

/-! ## What escapes -/

/-- **What escapes**: a fault that no line reports, and what in the documents leads to it. -/
inductive Escapes (host : Host) : Task → Fault → Prop
  /-- The library for YAML breaks off on a document. -/
  | document {task : Task} {path : String} :
      path ∈ task.paths → Document.load host.documents path = .error .breakdown →
      Escapes host task .breakdown
  /-- A number in a rule is too large. -/
  | rule {rules data : String} {document : Value} {entries : Rules} {entry : Value × Value} :
      Document.load host.documents rules = .ok document → document.entries = .ok entries →
      entry ∈ entries → Rule.HoldsExcess entry.2 →
      Escapes host (.validate rules data) (.excess .magnitude)
  /-- The value of a field that has to be a number is too large. -/
  | value {rules data : String} {entries : Rules} {prepared : List Prepared} {record : Dict}
      {p : Prepared} :
      HoldsRules host.documents rules entries prepared → HoldsRecord host.documents data record →
      p ∈ prepared → Number.TooLarge (p.value record).asText.toList →
      Escapes host (.validate rules data) (.excess .magnitude)
  /-- The options of the configuration, or those that are laid over them, are no mapping. -/
  | overlay {config path : String} {basic : Bool} {document : Value} :
      Document.load host.documents config = .ok document → path.isEmpty = false →
      ((∀ d, (splitConfig document).2 ≠ .dict d) ∨
        ∃ other, Document.load host.documents path = .ok other ∧ other.truthy = true ∧
          ∀ d, other ≠ .dict d) →
      Escapes host (.render config (some path) basic) .keyNotText
  /-- A key in a section of the options is no text. -/
  | key {config : String} {optionsPath : Option String} {basic : Bool} {fields options : Value} :
      inputs host.documents config optionsPath = .ok (fields, options) →
      Options.HasForeignKey options →
      Escapes host (.render config optionsPath basic) .keyNotText
  /-- A number in the rule of a field is too large. -/
  | limit {config : String} {optionsPath : Option String} {basic : Bool} {fields options : Value}
      {entries : List Value} {f : String × Dict} :
      inputs host.documents config optionsPath = .ok (fields, options) →
      Builder.entriesOf fields = .ok entries → f ∈ entries.filterMap Builder.field? →
      Builder.HoldsExcess f →
      Escapes host (.render config optionsPath basic) (.excess .magnitude)
  /-- What a field gives does not fit into its full markup. -/
  | field {config : String} {optionsPath : Option String} {fields options : Value}
      {draft : Builder.Draft} {f : String × Rule} {fault : Fault} :
      inputs host.documents config optionsPath = .ok (fields, options) →
      (Builder.build fields (Options.resolve host.deployment options)).outcome = .ok draft →
      f ∈ draft.1.fields → Markup.Unshowable f.2 fault →
      Escapes host (.render config optionsPath false) fault

/-- The fault is reported, or it is one of those that escape. -/
def IsExpected (host : Host) (task : Task) (e : Fault) : Prop :=
  e.IsReported host ∨ Escapes host task e

variable {host : Host} {store : Document.Store} {task : Task} {rules data : String}
  {config : String} {optionsPath : Option String} {basic : Bool} {prepared : List Prepared}
  {record : Dict}

theorem isExpected_of_load {path : String} (hpath : path ∈ task.paths) :
    FailsWith (IsExpected host task) (Document.load host.documents path) := by
  intro e he
  rcases Document.failsWith_load host path e he with hreported | rfl
  · exact .inl hreported
  · exact .inr (.document hpath he)

/-! ## Validating -/

/-- Settling in the order of the rules is what happens where nothing is suspended. -/
theorem settledDetails_noValidators (prepared : List Prepared) (record : Dict) :
    Validation.settledDetails noValidators record prepared = violations prepared record := by
  have hround (r : Running) : r.round noValidators = 0 := by
    unfold Running.round
    split <;> rfl
  have horder (running : List Running) :
      Validation.settlingOrder noValidators running = running := by
    refine List.mergeSort_of_pairwise (List.pairwise_of_forall ?_)
    intro a b
    simp [hround]
  rw [Validation.settledDetails, horder, List.filterMap_map]
  exact List.filterMap_congr fun p _ => Prepared.violation?_stage

/-- What counts as a mapping has the entries of the document. -/
theorem mappingOf_eq_some {v v' : Value} (h : mappingOf v = some v') :
    v'.record = v.record ∧ ∃ entries, v.record = .ok entries := by
  cases htruthy : v.truthy with
  | true =>
      simp only [mappingOf, htruthy, if_true] at h
      split at h
      · next d =>
          obtain rfl := Option.some.inj h
          exact ⟨rfl, d, by rw [Value.record, if_pos htruthy]⟩
      · cases h
  | false =>
      simp only [mappingOf, htruthy, Bool.false_eq_true, if_false, Option.some.injEq] at h
      have hrecord : v.record = .ok [] := by
        unfold Value.record
        rw [htruthy, if_neg Bool.false_ne_true]
      rw [← h]
      exact ⟨hrecord.symm, [], hrecord⟩

/-- Anything else has none. -/
theorem mappingOf_eq_none {v : Value} (h : mappingOf v = none) : v.record = .error .notMapping := by
  unfold mappingOf at h
  split at h
  · next htruthy =>
      split at h
      · cases h
      · next hdict =>
          unfold Value.record
          rw [if_pos htruthy]
          cases v with
          | dict d => exact absurd rfl (hdict d)
          | _ => rfl
  · cases h

theorem exists_mappingOf {v : Value} {entries : Dict} (h : v.record = .ok entries) :
    ∃ v', mappingOf v = some v' ∧ v'.record = .ok entries := by
  cases hv : mappingOf v with
  | some v' => exact ⟨v', rfl, (mappingOf_eq_some hv).1.trans h⟩
  | none =>
      rw [mappingOf_eq_none hv] at h
      cases h

/-- There is at most one verdict. -/
theorem Judges.unique {prepared' : List Prepared} {record' : Dict}
    (h : Judges store rules data prepared record) (h' : Judges store rules data prepared' record') :
    prepared = prepared' ∧ record = record' := by
  obtain ⟨entries, document, hload, hentries, hall⟩ := h.holdsRules
  obtain ⟨entries', document', hload', hentries', hall'⟩ := h'.holdsRules
  obtain ⟨d, hd, hrecord⟩ := h.holdsRecord
  obtain ⟨d', hd', hrecord'⟩ := h'.holdsRecord
  obtain rfl := Except.ok.inj (hload.symm.trans hload')
  obtain rfl := Except.ok.inj (hentries.symm.trans hentries')
  obtain rfl := Except.ok.inj (hd.symm.trans hd')
  exact ⟨Except.ok.inj (hall.symm.trans hall'), Except.ok.inj (hrecord.symm.trans hrecord')⟩

/-- Where there is a verdict it is reached. -/
theorem Judges.validateDocuments (h : Judges store rules data prepared record) :
    (validateDocuments store rules data).outcome = .ok (some ⟨violations prepared record⟩) := by
  obtain ⟨entries, r, hr, hentries, hprepared⟩ := h.holdsRules
  obtain ⟨d, hd, hrecord⟩ := h.holdsRecord
  obtain ⟨r', hr', hentries'⟩ := exists_mappingOf hentries
  obtain ⟨d', hd', hrecord'⟩ := exists_mappingOf hrecord
  refine Traced.outcome_bind_eq_ok.mpr ⟨r, hr, Traced.outcome_bind_eq_ok.mpr ⟨d, hd, ?_⟩⟩
  simp only [hr', hd']
  refine Traced.outcome_bind_eq_ok.mpr ⟨⟨violations prepared record⟩, ?_, rfl⟩
  rw [Validation.validate_outcome hentries' hprepared, Validation.run_outcome_eq_ok hrecord'
    (fun p hp => Prepared.compiled_of_mem_all hprepared hp) h.decided,
    settledDetails_noValidators]

theorem exists_judges {v : Validation}
    (h : (validateDocuments store rules data).outcome = .ok (some v)) :
    ∃ prepared record, Judges store rules data prepared record := by
  obtain ⟨r, hr, h⟩ := Traced.outcome_bind_eq_ok.mp h
  obtain ⟨d, hd, h⟩ := Traced.outcome_bind_eq_ok.mp h
  split at h
  · next r' d' hr' hd' =>
      obtain ⟨v', hv', -⟩ := Traced.outcome_bind_eq_ok.mp h
      obtain ⟨entries, hentries, hv'⟩ := Traced.outcome_bind_eq_ok.mp hv'
      obtain ⟨prepared, hprepared, hrun⟩ := Traced.outcome_bind_eq_ok.mp hv'
      obtain ⟨hsame, record, hrecord⟩ := mappingOf_eq_some hd'
      have hdecided := (Validation.exists_run (hsame.trans hrecord) fun p hp =>
        Prepared.compiled_of_mem_all hprepared hp).mp ⟨v', hrun⟩
      exact ⟨prepared, record, ⟨entries, r, hr, (mappingOf_eq_some hr').1.symm.trans hentries,
        hprepared⟩, ⟨d, hd, hrecord⟩, hdecided⟩
  · cases h

/-- Two documents fail to be validated in words, or for one of the things that escape. -/
theorem failsWith_validateDocuments (host : Host) (rules data : String) :
    FailsWith (IsExpected host (.validate rules data))
      (validateDocuments host.documents rules data).outcome := by
  refine .outcome_bind (isExpected_of_load List.mem_cons_self) fun r hr => ?_
  refine .outcome_bind (isExpected_of_load (List.mem_cons_of_mem _ List.mem_cons_self))
    fun d hd => ?_
  split
  · next r' d' hr' hd' =>
      obtain ⟨hsameRules, entries, hentries⟩ := mappingOf_eq_some hr'
      obtain ⟨hsame, record, hrecord⟩ := mappingOf_eq_some hd'
      have hentries' : r'.entries = .ok entries := hsameRules.trans hentries
      refine .outcome_bind (.outcome_bind ?_ fun entries' hread => .outcome_bind ?_
        fun prepared hprepared => ?_) fun _ _ => .ok _
      · rw [Traced.outcome_ofExcept, hentries']
        exact .ok _
      · obtain rfl : entries = entries' := Except.ok.inj (hentries'.symm.trans hread)
        intro e he
        -- a rule that cannot be prepared
        obtain ⟨entry, hmem, hmake⟩ := Prepared.exists_of_all he
        rcases (Prepared.failsWith_make _ _ e hmake).cases host with hreported | rfl
        · exact .inl hreported
        · exact .inr (.rule hr hentries hmem (Prepared.holdsExcess_of_make hmake))
      · intro e he
        -- a field whose built-in checks reach no verdict
        obtain ⟨p, hp, hstart⟩ := Validation.exists_of_run he
        have hrules : HoldsRules host.documents rules entries' prepared :=
          ⟨r, hr, hsameRules.symm.trans hread, hprepared⟩
        cases Prepared.failsWith_start_of_record (Prepared.compiled_of_mem_all hprepared hp)
          (hsame.trans hrecord) e hstart with
        | writing => exact .inl .writing
        | magnitude hlarge => exact .inr (.value hrules ⟨d, hd, hrecord⟩ hp hlarge)
  · exact .ok none

/-! ## Rendering -/

/-- The markup of what a configuration and options come to. -/
def drawn (deployment : Deployment) (basic : Bool) (fields options : Value) : Traced Value :=
  let resolved := Options.resolve deployment options
  if basic then do
    let draft ← Builder.build fields resolved
    return .text (← Markup.Plain.renderForm draft.1.toFields draft.2)
  else Builder.generate fields (some (Adapter.markup { renderers := noRenderers })) resolved

theorem render_eq (host : Host) (config : String) (optionsPath : Option String) (basic : Bool) :
    (render host config optionsPath basic).outcome =
      inputs host.documents config optionsPath >>=
        fun x => (drawn host.deployment basic x.1 x.2).outcome := by
  unfold render inputs
  rw [Traced.outcome_bind, Traced.outcome_ofExcept]
  -- the two differ in how options are looked for only, so each way of that is gone through
  cases Document.load host.documents config with
  | error e => rfl
  | ok document =>
      cases optionsPath with
      | none => cases basic <;> rfl
      | some path =>
          cases hpath : path.isEmpty with
          | true =>
              simp only [bind, Except.bind, hpath, if_true]
              cases basic <;> rfl
          | false =>
              simp only [bind, Except.bind, hpath, Bool.false_eq_true, if_false]
              cases overlay (splitConfig document).2 (Document.load host.documents path) with
              | error e => rfl
              | ok options => cases basic <;> rfl

theorem failsWith_overlay {own : Value} {path : String} {P : Fault → Prop}
    (hload : FailsWith P (Document.load store path)) :
    FailsWith (fun e => P e ∨ e = .keyNotText ∧
        ((∀ d, own ≠ .dict d) ∨ ∃ other, Document.load store path = .ok other ∧
          other.truthy = true ∧ ∀ d, other ≠ .dict d))
      (overlay own (Document.load store path)) := by
  unfold overlay
  split
  · refine .bind (hload.mono fun _ h => .inl h) fun other hother => ?_
    split
    · next htruthy =>
        split
        · exact .ok _
        · next hdict => exact .error (.inr ⟨rfl, .inr ⟨other, hother, htruthy, hdict⟩⟩)
    · exact .ok _
  · next hdict => exact .error (.inr ⟨rfl, .inl hdict⟩)

theorem failsWith_inputs (host : Host) (config : String) (optionsPath : Option String)
    (basic : Bool) :
    FailsWith (IsExpected host (.render config optionsPath basic))
      (inputs host.documents config optionsPath) := by
  refine .bind (isExpected_of_load List.mem_cons_self) fun document hdocument => ?_
  dsimp only
  split
  · next path =>
      split
      · exact .ok _
      · next hpath =>
          have hload : FailsWith (IsExpected host (.render config (some path) basic))
              (Document.load host.documents path) :=
            isExpected_of_load (List.mem_cons_of_mem _ List.mem_cons_self)
          refine .bind ((failsWith_overlay hload).mono fun e he => ?_) fun _ _ => .ok _
          rcases he with hexpected | ⟨rfl, hshape⟩
          · exact hexpected
          · exact .inr (.overlay hdocument (Bool.eq_false_iff.mpr hpath) hshape)
  · exact .ok _

theorem failsWith_drawn (h : host.deployment.library.IsDocumented) {fields options : Value}
    (hinputs : inputs host.documents config optionsPath = .ok (fields, options)) :
    FailsWith (IsExpected host (.render config optionsPath basic))
      (drawn host.deployment basic fields options).outcome := by
  have hconfig (v : Value) : IsExpected host (.render config optionsPath basic)
      (.usage (UsageError.invalidConfig v "builder")) := .inl (.config v)
  have hresolve : FailsWith (IsExpected host (.render config optionsPath basic))
      (Options.resolve host.deployment options) := by
    intro e he
    rcases Options.resolve_cases h options with ⟨hforeign, hstop⟩ | ⟨-, hworded⟩
    · obtain rfl := Except.error.inj (hstop.symm.trans he)
      exact .inr (.key hinputs hforeign)
    · exact .inl (.options (hworded e he))
  have hbuild : FailsWith (IsExpected host (.render config optionsPath basic))
      (Builder.build fields (Options.resolve host.deployment options)).outcome := by
    refine Builder.failsWith_build hconfig (.inl .writing) hresolve
      fun entries hentries f hf e he => ?_
    rcases (Builder.failsWith_compiledRule f e he).cases host with hreported | rfl
    · exact .inl hreported
    · exact .inr (.limit hinputs hentries hf (Builder.holdsExcess_of_compiledRule he))
  unfold drawn
  cases basic with
  | true =>
      refine .outcome_bind hbuild fun draft _ => .outcome_bind ?_ fun _ _ => .ok _
      exact (Markup.Plain.failsWith_renderForm draft.1 draft.2).mono fun _ h => h ▸ .inl .writing
  | false =>
      exact Builder.failsWith_generate rfl (fun _ _ _ => ⟨_, rfl⟩) hconfig (.inl .writing) hbuild
        fun draft hdraft f hf e he => .inr (.field hinputs hdraft hf he)

theorem exists_text_of_drawn {deployment : Deployment} {fields options v : Value}
    (h : (drawn deployment basic fields options).outcome = .ok v) : ∃ markup, v = .text markup := by
  unfold drawn at h
  cases basic with
  | true =>
      obtain ⟨draft, -, h⟩ := Traced.outcome_bind_eq_ok.mp h
      obtain ⟨markup, -, h⟩ := Traced.outcome_bind_eq_ok.mp h
      exact ⟨markup, (Except.ok.inj h).symm⟩
  | false =>
      obtain ⟨-, -, h⟩ := Traced.outcome_bind_eq_ok.mp h
      obtain ⟨draft, -, h⟩ := Traced.outcome_bind_eq_ok.mp h
      obtain ⟨-, -, h⟩ := Traced.outcome_bind_eq_ok.mp h
      obtain ⟨markup, -, h⟩ := Traced.outcome_bind_eq_ok.mp h
      exact ⟨markup, (Except.ok.inj h).symm⟩

/-- A form fails to be rendered in words, or for one of the things that escape. -/
theorem failsWith_render (h : host.deployment.library.IsDocumented) (config : String)
    (optionsPath : Option String) (basic : Bool) :
    FailsWith (IsExpected host (.render config optionsPath basic))
      (render host config optionsPath basic).outcome := by
  rw [render_eq]
  exact (failsWith_inputs host config optionsPath basic).bind fun _ hinputs =>
    failsWith_drawn h hinputs

end Command
end FieldRules
