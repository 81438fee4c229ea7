import FieldRules.Proofs.Command.Tasks
import FieldRules.Proofs.Journal.Quiet

/-!
# Proofs — Exits

How a command ends (`Ends`), for all documents that it may be given, on any host that does what is
documented. It reaches a verdict on the record, or the markup, and prints it if it can be printed;
or it says in one line why it does not, with the exit code for wrong usage; or a fault escapes that
is put into no words. The context of the log is left empty in every case.
-/

namespace FieldRules.Command

/-! ## Ways to end -/

/-- What a task comes to: the verdict on a record, or markup. -/
inductive IsResult (host : Host) : Task → String → Prop
  | verdict {rules data : String} {prepared : List Prepared} {record : Dict} :
      Judges host.documents rules data prepared record →
      IsResult host (.validate rules data) (outcomeDocument ⟨violations prepared record⟩)
  | markup {config : String} {optionsPath : Option String} {basic : Bool} {markup : String} :
      (render host config optionsPath basic).outcome = .ok (.text markup) →
      IsResult host (.render config optionsPath basic) markup

/-- The documents can be used: there is a verdict, or markup. -/
def IsUsable (host : Host) (task : Task) : Prop :=
  ∃ text, IsResult host task text

/-- The record satisfies the rules. -/
def Accepts (store : Document.Store) (rules data : String) : Prop :=
  ∃ prepared record, Judges store rules data prepared record ∧
    ∀ p ∈ prepared, p.IsMet noValidators record

/-- Something that applies to the record does not hold, and the verdict can be printed. -/
def Rejects (host : Host) (rules data : String) : Prop :=
  ∃ prepared record, Judges host.documents rules data prepared record ∧
    (∃ p ∈ prepared, ¬ p.IsMet noValidators record) ∧
    host.refuses (outcomeDocument ⟨violations prepared record⟩) = none

/-- There is a log only where debug events are asked for. -/
def IsLog (threshold : Nat) (log : List String) : Prop :=
  weight .debug < threshold → log = []

/-- **The line that a command ends with** when it is not used rightly. It has no line break, unless
it quotes one of the documents, or what the command runs on says more than a line. -/
inductive IsComplaint (host : Host) (json : Bool) : String → Prop
  | words {message : String} : IsLine message → IsComplaint host json ("error: " ++ message)
  | record {line : String} : json = true → IsLine line → IsComplaint host json line
  /-- The name of the field is quoted as it stands, and so is some of the pattern. -/
  | pattern {source cause : String} {field : Value} {origin : String} : json = false →
      (IsLine field.display → IsLine cause →
        IsLine (UsageError.invalidPattern source cause field origin).text) →
      IsComplaint host json
        ("error: " ++ (UsageError.invalidPattern source cause field origin).text)
  /-- What the library of models says of options that do not fit. -/
  | options {settings : Except Fault Settings} {s : Options.Sections} {text : String}
      {complaints : List Complaint} : json = false →
      host.deployment.library.options settings s = .error (.unfit text complaints) →
      IsComplaint host json
        ("error: " ++ (UsageError.unfitOptions text complaints "options").text)
  | outside {message : String} : host.Says message → IsComplaint host json ("error: " ++ message)

/-- **How a task ends.** -/
inductive Ends (host : Host) (json : Bool) (threshold : Nat) :
    Task → Except Fault Output → Prop
  /-- Everything that applies to the record holds. -/
  | valid {rules data : String} {prepared : List Prepared} {record : Dict} {log : List String} :
      Judges host.documents rules data prepared record →
      (∀ p ∈ prepared, p.IsMet noValidators record) → IsLog threshold log →
      Ends host json threshold (.validate rules data)
        (.ok ⟨0, outcomeDocument ⟨[]⟩ ++ "\n", log⟩)
  /-- Something does not hold, and it is printed. -/
  | invalid {rules data : String} {prepared : List Prepared} {record : Dict} {log : List String} :
      Judges host.documents rules data prepared record →
      (∃ p ∈ prepared, ¬ p.IsMet noValidators record) →
      host.refuses (outcomeDocument ⟨violations prepared record⟩) = none → IsLog threshold log →
      Ends host json threshold (.validate rules data)
        (.ok ⟨1, outcomeDocument ⟨violations prepared record⟩ ++ "\n", log⟩)
  | rendered {config : String} {optionsPath : Option String} {basic : Bool} {markup : String}
      {log : List String} :
      (render host config optionsPath basic).outcome = .ok (.text markup) →
      host.refuses markup = none → IsLog threshold log →
      Ends host json threshold (.render config optionsPath basic) (.ok ⟨0, markup ++ "\n", log⟩)
  /-- What the documents come to cannot be printed. -/
  | unprinted {task : Task} {text reason : String} {log : List String} :
      IsResult host task text → host.refuses text = some reason → IsLog threshold log →
      Ends host json threshold task (.ok ⟨2, "", log ++ ["error: " ++ reason]⟩)
  /-- The documents cannot be used, and a line says so. -/
  | refused {task : Task} {log : List String} {line : String} :
      ¬ IsUsable host task → IsLog threshold log → IsComplaint host json line →
      Ends host json threshold task (.ok ⟨2, "", log ++ [line]⟩)
  | escaped {task : Task} {fault : Fault} :
      ¬ IsUsable host task → Escapes host task fault →
      Ends host json threshold task (.error fault)

/-- The exit code, where there is one. -/
def exitCode? : Except Fault Output → Option Nat
  | .ok output => some output.exitCode
  | .error _ => none

variable {host : Host} {levels threshold : Nat} {json : Bool} {task : Task} {rules data : String}
  {config : String} {optionsPath : Option String} {basic : Bool} {context : Context}

/-! ## Lines -/

theorem UsageError.isLine_text {e : UsageError} (h : IsLine e.message) : IsLine e.text := by
  have hcode : IsLine e.code.name := by cases e.code <;> decide
  exact ((IsLine.append (by decide) hcode).append (by decide)).append h

theorem isLine_typeName (v : Value) : IsLine v.typeName := by
  cases v <;> simp only [Value.typeName] <;> decide

theorem isLine_invalidConfig (v : Value) (origin : String) :
    IsLine (UsageError.invalidConfig v origin).text :=
  UsageError.isLine_text (IsLine.append (by decide) (isLine_typeName v))

theorem isLine_invalidPattern {source cause : String} {field : Value} (origin : String)
    (hfield : IsLine field.display) (hcause : IsLine cause) :
    IsLine (UsageError.invalidPattern source cause field origin).text := by
  have hplace : IsLine (if field.truthy then " for field '" ++ field.display ++ "'" else "") := by
    split
    · exact (IsLine.append (by decide) hfield).append (by decide)
    · decide
  exact UsageError.isLine_text (((((((IsLine.append (by decide) hplace).append (by decide)).append
    (isLine_quotedString source)).append (by decide)).append hcause).append (by decide)))

/-- Misuse is reported as a record, or in its own words. -/
theorem isComplaint_usageLine {e : UsageError}
    (h : json = false → IsComplaint host json ("error: " ++ e.text)) :
    IsComplaint host json (report.usageLine json e) := by
  unfold report.usageLine
  split
  · next hjson => exact .record hjson (Json.isLine_document _)
  · next hjson => exact h (Bool.eq_false_iff.mpr hjson)

/-- A fault in words has a line. -/
theorem exists_line {fault : Fault} (h : fault.IsReported host) (json : Bool) :
    ∃ events line, report json fault = some (events, line) ∧
      (∀ e ∈ events, e.severity = .debug) ∧ IsComplaint host json line := by
  have hfailed (e : UsageError) : ∀ event ∈ [commandFailed e], event.severity = .debug :=
    fun event hevent => List.mem_singleton.mp hevent ▸ rfl
  cases h with
  | config v =>
      exact ⟨_, _, rfl, hfailed _,
        isComplaint_usageLine fun _ => .words (isLine_invalidConfig v _)⟩
  | options hworded =>
      cases hworded with
      | shape v =>
          have hline := UsageError.isLine_text
            (e := UsageError.invalidOptions ("expected a mapping, got " ++ v.typeName) "options")
            (IsLine.append (by decide) (IsLine.append (by decide) (isLine_typeName v)))
          exact ⟨_, _, rfl, hfailed _, isComplaint_usageLine fun _ => .words hline⟩
      | unfit hunfit =>
          exact ⟨_, _, rfl, hfailed _, isComplaint_usageLine fun hjson => .options hjson hunfit⟩
  | pattern source cause field origin =>
      exact ⟨_, _, rfl, hfailed _,
        isComplaint_usageLine fun hjson => .pattern hjson (isLine_invalidPattern origin)⟩
  | document hline => exact ⟨_, _, rfl, nofun, .words hline⟩
  | refusal hsays => exact ⟨_, _, rfl, nofun, .outside hsays⟩
  | scriptClash => exact ⟨_, _, rfl, nofun, .words (by decide)⟩
  | digits count => exact ⟨_, _, rfl, nofun, .words (isLine_excess _)⟩
  | writing => exact ⟨_, _, rfl, nofun, .words (isLine_excess _)⟩

/-- What escapes has no line. -/
theorem Escapes.report_eq_none {fault : Fault} (h : Escapes host task fault) (json : Bool) :
    report json fault = none := by
  cases h with
  | field _ _ _ hunshowable => cases hunshowable <;> rfl
  | _ => rfl

/-! ## Logs -/

theorem isLog_logged (h : host.IsDocumented levels) {events : List Event}
    (hquiet : ∀ e ∈ events, e.severity = .debug) :
    IsLog threshold (host.logged json threshold context task events) := by
  intro hthreshold
  have hnone : events.filter (fun e => threshold ≤ weight e.severity) = [] :=
    List.filter_eq_nil_iff.mpr fun e he => by
      rw [hquiet e he, decide_eq_true_eq]
      exact Nat.not_le.mpr hthreshold
  rw [Host.logged, h.others _ _ _ hthreshold, hnone]
  rfl

theorem isQuiet_validateDocuments (store : Document.Store) (rules data : String) :
    (validateDocuments store rules data).IsQuiet := by
  refine .bind (.ofExcept _) fun r => .bind (.ofExcept _) fun d => ?_
  split
  · exact .bind (isQuiet_validate (fun _ _ _ => ⟨_, rfl⟩) _ _) fun _ => .pure _
  · exact .pure _

theorem isQuiet_drawn (deployment : Deployment) (basic : Bool) (fields options : Value) :
    (drawn deployment basic fields options).IsQuiet := by
  unfold drawn
  cases basic with
  | true =>
      exact .bind (Builder.isQuiet_build _ _) fun _ =>
        .bind (Markup.Plain.isQuiet_renderForm _ _) fun _ => .pure _
  | false => exact Builder.isQuiet_generate _ _ _

theorem isQuiet_render (host : Host) (config : String) (optionsPath : Option String)
    (basic : Bool) : (render host config optionsPath basic).IsQuiet := by
  refine .bind (.ofExcept _) fun document => ?_
  dsimp only
  split
  · split
    · exact .bind (.pure _) fun _ => isQuiet_drawn _ _ _ _
    · exact .bind (.ofExcept _) fun _ => isQuiet_drawn _ _ _ _
  · exact .bind (.pure _) fun _ => isQuiet_drawn _ _ _ _

/-- Tasks log nothing but debug events. -/
theorem isQuiet_taskOutput (host : Host) (task : Task) : (taskOutput host task).IsQuiet := by
  cases task with
  | render config optionsPath basic =>
      exact .bind (isQuiet_render _ _ _ _) fun _ => .ofExcept _
  | validate rules data =>
      refine .bind (isQuiet_validateDocuments _ _ _) fun v? => ?_
      cases v? with
      | none => exact .pure _
      | some v => exact .ofExcept _

/-! ## Running -/

/-- A task that leaves something behind leaves it after its log. -/
theorem conclude_of_ok {done : Traced Output} {logged : List Event → List String} {output : Output}
    (h : done.outcome = .ok output) :
    conclude json logged done =
      .ok { output with stderr := logged done.events ++ output.stderr } := by
  rw [conclude, h]

/-- A task without a result says why, or ends in a fault that escapes. -/
theorem ends_of_error (h : host.IsDocumented levels) {fault : Fault}
    (husable : ¬ IsUsable host task) (hexpected : IsExpected host task fault)
    (hdone : (taskOutput host task).outcome = .error fault) :
    Ends host json threshold task
      (conclude json (host.logged json threshold context task) (taskOutput host task)) := by
  rcases hexpected with hreported | hescapes
  · obtain ⟨events, line, hreport, hdebug, hline⟩ := exists_line hreported json
    rw [conclude, hdone]
    simp only [hreport]
    refine .refused husable (isLog_logged h fun e he => ?_) hline
    exact (List.mem_append.mp he).elim (isQuiet_taskOutput host task e) (hdebug e)
  · rw [conclude, hdone]
    simp only [hescapes.report_eq_none]
    exact .escaped husable hescapes

/-- A result that cannot be printed is reported. -/
theorem ends_of_refuses (h : host.IsDocumented levels) {text reason : String}
    (hresult : IsResult host task text) (hrefuses : host.refuses text = some reason)
    (hdone : (taskOutput host task).outcome = .error (.refusal reason)) :
    Ends host json threshold task
      (conclude json (host.logged json threshold context task) (taskOutput host task)) := by
  rw [conclude, hdone]
  simp only [report, List.append_nil]
  exact .unprinted hresult hrefuses (isLog_logged h (isQuiet_taskOutput host task))

/-- A verdict is what everything that applies to the record comes to. -/
theorem violations_eq_nil (prepared : List Prepared) (record : Dict) :
    violations prepared record = [] ↔ ∀ p ∈ prepared, p.IsMet noValidators record := by
  rw [violations, List.filterMap_eq_nil_iff]
  exact forall₂_congr fun p _ => Prepared.outcome_eq_none

theorem outcome_taskOutput_validate {v : Validation}
    (h : (validateDocuments host.documents rules data).outcome = .ok (some v)) :
    (taskOutput host (.validate rules data)).outcome =
      host.print (if v.isValid then 0 else 1) (outcomeDocument v) := by
  rw [taskOutput, Traced.outcome_bind, h]
  exact Traced.outcome_ofExcept _

theorem outcome_taskOutput_render {markup : String}
    (h : (render host config optionsPath basic).outcome = .ok (.text markup)) :
    (taskOutput host (.render config optionsPath basic)).outcome = host.print 0 markup := by
  rw [taskOutput, Traced.outcome_bind, h]
  exact Traced.outcome_ofExcept _

theorem print_of_none {exitCode : Nat} {text : String} (h : host.refuses text = none) :
    host.print exitCode text = .ok ⟨exitCode, text ++ "\n", []⟩ := by
  rw [Host.print, h]

theorem print_of_some {exitCode : Nat} {text reason : String}
    (h : host.refuses text = some reason) :
    host.print exitCode text = .error (.refusal reason) := by
  rw [Host.print, h]

/-- A good verdict is written in plain signs. -/
theorem refuses_valid (h : host.IsDocumented levels) :
    host.refuses (outcomeDocument ⟨[]⟩) = none := by
  have hplain : (outcomeDocument ⟨[]⟩).toList.all (fun c => decide (c.toNat < 128)) = true := by
    decide +kernel
  exact h.refuses_ascii _ fun c hc => of_decide_eq_true (List.all_eq_true.mp hplain c hc)

/-- Without a verdict the documents cannot be used. -/
theorem not_isUsable_validate
    (h : ∀ v, (validateDocuments host.documents rules data).outcome ≠ .ok (some v)) :
    ¬ IsUsable host (.validate rules data) := by
  rintro ⟨_, ⟨hjudges⟩⟩
  exact h _ hjudges.validateDocuments

theorem ends_validate (h : host.IsDocumented levels) (context : Context) (rules data : String) :
    Ends host json threshold (.validate rules data)
      (conclude json (host.logged json threshold context (.validate rules data))
        (taskOutput host (.validate rules data))) := by
  cases houtcome : (validateDocuments host.documents rules data).outcome with
  | error fault =>
      have hnone : ¬ IsUsable host (.validate rules data) :=
        not_isUsable_validate fun v hv => by cases houtcome.symm.trans hv
      exact ends_of_error h hnone (failsWith_validateDocuments host rules data fault houtcome)
        (Traced.outcome_bind_eq_error.mpr (.inl houtcome))
  | ok v? =>
      cases v? with
      | none =>
          -- one of the documents is no mapping, which is no fault but a word of its own
          have hnone : ¬ IsUsable host (.validate rules data) :=
            not_isUsable_validate fun v hv => by cases houtcome.symm.trans hv
          have hdone : (taskOutput host (.validate rules data)).outcome =
              .ok ⟨2, "", ["error: rules and data must both be mappings"]⟩ :=
            Traced.outcome_bind_eq_ok.mpr ⟨none, houtcome, rfl⟩
          rw [conclude_of_ok hdone]
          have hline : IsComplaint host json "error: rules and data must both be mappings" :=
            .words (show IsLine "rules and data must both be mappings" by decide)
          exact .refused hnone (isLog_logged h (isQuiet_taskOutput host _)) hline
      | some v =>
          -- there is one verdict only, and it may still be impossible to print
          obtain ⟨prepared, record, hjudges⟩ := exists_judges houtcome
          obtain rfl : v = ⟨violations prepared record⟩ :=
            Option.some.inj (Except.ok.inj (houtcome.symm.trans hjudges.validateDocuments))
          have hdone := outcome_taskOutput_validate houtcome
          have hlog : IsLog threshold (host.logged json threshold context (.validate rules data)
              (taskOutput host (.validate rules data)).events) :=
            isLog_logged h (isQuiet_taskOutput host _)
          cases hrefuses : host.refuses (outcomeDocument ⟨violations prepared record⟩) with
          | some reason =>
              rw [print_of_some hrefuses] at hdone
              exact ends_of_refuses h (.verdict hjudges) hrefuses hdone
          | none =>
              rw [print_of_none hrefuses] at hdone
              rw [conclude_of_ok hdone, List.append_nil]
              by_cases hvalid : violations prepared record = []
              · rw [hvalid]
                exact .valid hjudges ((violations_eq_nil _ _).mp hvalid) hlog
              · rw [Validation.isValid, if_neg (by simpa using hvalid)]
                refine .invalid hjudges ?_ hrefuses hlog
                rw [violations_eq_nil] at hvalid
                simpa using hvalid

theorem ends_render (h : host.IsDocumented levels) (context : Context) (config : String)
    (optionsPath : Option String) (basic : Bool) :
    Ends host json threshold (.render config optionsPath basic)
      (conclude json (host.logged json threshold context (.render config optionsPath basic))
        (taskOutput host (.render config optionsPath basic))) := by
  cases houtcome : (render host config optionsPath basic).outcome with
  | error fault =>
      refine ends_of_error h ?_ (failsWith_render h.library config optionsPath basic fault houtcome)
        (Traced.outcome_bind_eq_error.mpr (.inl houtcome))
      rintro ⟨_, hresult⟩
      cases hresult with
      | markup hmarkup =>
          rw [hmarkup] at houtcome
          cases houtcome
  | ok v =>
      have hdrawn := houtcome
      rw [render_eq, bind_eq_ok] at hdrawn
      obtain ⟨x, -, hdrawn⟩ := hdrawn
      obtain ⟨markup, rfl⟩ := exists_text_of_drawn hdrawn
      have hdone := outcome_taskOutput_render houtcome
      cases hrefuses : host.refuses markup with
      | some reason =>
          rw [print_of_some hrefuses] at hdone
          exact ends_of_refuses h (.markup houtcome) hrefuses hdone
      | none =>
          rw [print_of_none hrefuses] at hdone
          rw [conclude_of_ok hdone, List.append_nil]
          exact .rendered houtcome hrefuses (isLog_logged h (isQuiet_taskOutput host _))

/-! ## Exit codes -/

/-- A record is not both accepted and rejected. -/
theorem Accepts.not_rejects (h : Accepts host.documents rules data) :
    ¬ Rejects host rules data := by
  obtain ⟨prepared, record, hjudges, hmet⟩ := h
  rintro ⟨prepared', record', hjudges', ⟨p, hp, hnot⟩, -⟩
  obtain ⟨rfl, rfl⟩ := hjudges.unique hjudges'
  exact hnot (hmet p hp)

/-- A verdict on an accepted record can always be printed. -/
theorem Accepts.refuses_eq_none (h : host.IsDocumented levels)
    (haccepts : Accepts host.documents rules data) {text : String}
    (hresult : IsResult host (.validate rules data) text) : host.refuses text = none := by
  obtain ⟨prepared, record, hjudges, hmet⟩ := haccepts
  obtain ⟨hjudges'⟩ := hresult
  obtain ⟨rfl, rfl⟩ := hjudges.unique hjudges'
  rw [(violations_eq_nil _ _).mpr hmet]
  exact refuses_valid h

theorem Rejects.refuses_eq_none (hrejects : Rejects host rules data) {text : String}
    (hresult : IsResult host (.validate rules data) text) : host.refuses text = none := by
  obtain ⟨prepared, record, hjudges, -, hprinted⟩ := hrejects
  obtain ⟨hjudges'⟩ := hresult
  obtain ⟨rfl, rfl⟩ := hjudges.unique hjudges'
  exact hprinted

theorem Accepts.isUsable (h : Accepts host.documents rules data) :
    IsUsable host (.validate rules data) := by
  obtain ⟨prepared, record, hjudges, -⟩ := h
  exact ⟨_, .verdict hjudges⟩

theorem Rejects.isUsable (h : Rejects host rules data) : IsUsable host (.validate rules data) := by
  obtain ⟨prepared, record, hjudges, -⟩ := h
  exact ⟨_, .verdict hjudges⟩

namespace Ends

variable {result : Except Fault Output}

theorem exitCode_eq_zero_iff (h : host.IsDocumented levels)
    (hends : Ends host json threshold (.validate rules data) result) :
    exitCode? result = some 0 ↔ Accepts host.documents rules data := by
  cases hends with
  | valid hjudges hmet _ => exact iff_of_true rfl ⟨_, _, hjudges, hmet⟩
  | invalid hjudges hbroken hprinted _ =>
      exact iff_of_false nofun fun haccepts =>
        haccepts.not_rejects ⟨_, _, hjudges, hbroken, hprinted⟩
  | unprinted hresult hrefuses _ =>
      refine iff_of_false nofun fun haccepts => ?_
      rw [haccepts.refuses_eq_none h hresult] at hrefuses
      cases hrefuses
  | refused husable _ _ => exact iff_of_false nofun fun haccepts => husable haccepts.isUsable
  | escaped husable _ => exact iff_of_false nofun fun haccepts => husable haccepts.isUsable

theorem exitCode_eq_one_iff
    (hends : Ends host json threshold (.validate rules data) result) :
    exitCode? result = some 1 ↔ Rejects host rules data := by
  cases hends with
  | valid hjudges hmet _ =>
      exact iff_of_false nofun (Accepts.not_rejects ⟨_, _, hjudges, hmet⟩)
  | invalid hjudges hbroken hprinted _ => exact iff_of_true rfl ⟨_, _, hjudges, hbroken, hprinted⟩
  | unprinted hresult hrefuses _ =>
      refine iff_of_false nofun fun hrejects => ?_
      rw [hrejects.refuses_eq_none hresult] at hrefuses
      cases hrefuses
  | refused husable _ _ => exact iff_of_false nofun fun hrejects => husable hrejects.isUsable
  | escaped husable _ => exact iff_of_false nofun fun hrejects => husable hrejects.isUsable

end Ends

/-- A rule that asks for a number with a record that gives one, and a form without fields with
options that are a list. -/
def smallFiles : Document.Files := fun path =>
  if path = "rules.json" then .contents "\x7b\"n\": \"number\"\x7d"
  else if path = "record.json" then .contents "\x7b\"n\": \"5\"\x7d"
  else if path = "form.json" then .contents "[]"
  else if path = "options.json" then .contents "[1]"
  else .missing

/-- The host of the program with these files, in an environment that sets nothing. -/
def smallHost : Host := .standard (fun _ => none) smallFiles

/-- What is printed where nothing is wrong. -/
example : outcomeDocument ⟨[]⟩ = "\x7b\n  \"isValid\": true,\n  \"errors\": \x7b\x7d\n\x7d" := by
  decide +kernel

end FieldRules.Command
