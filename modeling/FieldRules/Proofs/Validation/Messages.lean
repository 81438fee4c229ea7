import FieldRules.Proofs.Rule.Given
import FieldRules.Proofs.Rule.Sources
import FieldRules.Proofs.Validation.Outcome
import Mathlib.Data.List.Forall2

/-!
# Proofs — Messages

What the messages of rules decide. Rules without their messages are prepared in the same way, their
checks fail with the same code in the same cases, and custom validators are asked the same: one
function of the validation after the other commutes with leaving the messages out. So of two choices
of messages for the same rules nothing depends but the texts that are reported
(`validate_messages`).
-/

namespace FieldRules

/-! ## Leaving messages out -/

def Rule.withoutMessages (r : Rule) : Rule :=
  { r with extras := Dict.without r.extras ["messages"] }

/-- The source of a rule, without the messages that it brings. -/
def Value.withoutMessages : Value → Value
  | .dict d => .dict (Dict.without d ["messages"])
  | .rule r => .rule r.withoutMessages
  | v => v

/-- Rules by field, each without its messages. -/
def Value.withoutFieldMessages : Value → Value
  | .dict d => .dict (d.map fun e => (e.1, e.2.withoutMessages))
  | v => v

def Failure.withoutMessage (f : Failure) : Failure := { f with message := .null }

def Violation.withoutMessage (d : Violation) : Violation := { d with message := .null }

def Prepared.withoutMessages (p : Prepared) : Prepared :=
  { p with rule := p.rule.withoutMessages }

def Stage.withoutMessage : Stage → Stage
  | .settled violation => .settled (violation.map Violation.withoutMessage)
  | .asking f value => .asking f value

def Running.withoutMessages (r : Running) : Running where
  prepared := r.prepared.withoutMessages
  stage := r.stage.withoutMessage

def Validation.withoutMessages (v : Validation) : Validation where
  details := v.details.map Violation.withoutMessage

/-! ## Reading rules -/

variable {r : Rule} {field : String}

namespace Rule

theorem withoutMessages_of_extras (h : r.extras = []) : r.withoutMessages = r := by
  cases r
  cases h
  rfl

theorem withoutMessages_withoutMessages (r : Rule) :
    r.withoutMessages.withoutMessages = r.withoutMessages := by
  rw [withoutMessages, withoutMessages, Dict.without_without (List.Subset.refl _)]

theorem extras_ofText {s : String} (h : (ofText s).outcome = .ok r) : r.extras = [] := by
  simp only [ofText, Traced.outcome_bind_eq_ok, Traced.outcome_pure, Except.ok.injEq] at h
  obtain ⟨q, hq, rfl⟩ := h
  have hbeyond := beyondTokens_applyTokens hq
  simp only [beyondTokens, Rule.empty, Prod.mk.injEq] at hbeyond
  exact hbeyond.2.2.1

/-- No attribute is read off the messages of a mapping. -/
theorem ofDict_withoutMessages (d : Dict) :
    ofDict (d.without ["messages"]) = (ofDict d).map withoutMessages := by
  have hgiven (x : Attribute) (n : String) (hn : n ∈ x.spellings) :
      d.given? n = (d.without ["messages"]).given? n := by
    have hne : ∀ x ∈ Attribute.all, ∀ n ∈ x.spellings, n ∉ ["messages"] := by decide
    rw [Dict.given?_without, if_neg (hne x (Attribute.mem_all x) n hn)]
  have hfirst (x : Attribute) :
      d.firstGiven? x.spellings = (d.without ["messages"]).firstGiven? x.spellings :=
    Dict.firstGiven?_congr (hgiven x)
  have hui : d.firstGiven? ["ui"] = (d.without ["messages"]).firstGiven? ["ui"] := hfirst .ui
  rw [ofDict_congr (d := d) (fun x _ => hfirst x) (by rw [Dict.getD_eq, Dict.getD_eq, hui])
    (by rw [isGiven_eq_isSome, isGiven_eq_isSome, hfirst])]
  cases h : ofDict d with
  | error e => rfl
  | ok r =>
      rw [Dict.without_comm, ← (beyondParts_ofDict h).2.1]
      rfl

/-- **Rules are read without looking at their messages.** -/
theorem normalize_withoutMessages (raw : Value) :
    normalize raw.withoutMessages = withoutMessages <$> normalize raw := by
  cases raw with
  | dict d =>
      rw [Value.withoutMessages, normalize_dict, normalize_dict, Traced.map_ofExcept,
        ofDict_withoutMessages]
  | text s =>
      show normalize (.text s) = _
      rw [Traced.map_eq_self]
      intro r hr
      rw [outcome_normalize_text] at hr
      exact withoutMessages_of_extras (extras_ofText hr)
  | rule r => rfl
  | _ =>
      show (if _ then pure empty else pure empty) =
        withoutMessages <$> if _ then pure empty else pure empty
      rw [ite_self, ite_self]
      rfl

/-! ## Checks -/

/-- A check fails with its own message as it does with that of a rule, the message apart. -/
theorem map_withoutMessage_withOwnMessage (r : Rule) (key : String) (c : Check) (v : Value) :
    ((r.withOwnMessage key c).run v).map (Option.map Failure.withoutMessage) =
      (c.run v).map (Option.map Failure.withoutMessage) := by
  rw [run_withOwnMessage]
  cases c.run v with
  | error e => rfl
  | ok f? => cases f? <;> rfl

theorem map_withoutMessage_runAll (r : Rule) (cs : List Constraint) (v : Value) :
    (Check.runAll (cs.map r.ownCheck) v).map (Option.map Failure.withoutMessage) =
      (Check.runAll (cs.map Constraint.check) v).map (Option.map Failure.withoutMessage) := by
  induction cs with
  | nil => rfl
  | cons c cs ih =>
      simp only [List.map_cons, Check.runAll_cons, Check.map_orElse, ownCheck,
        map_withoutMessage_withOwnMessage, ih]

/-- The report of an outcome, without its message. -/
theorem map_ofFailure {x y : Except Fault (Option Failure)}
    (h : x.map (Option.map Failure.withoutMessage) = y.map (Option.map Failure.withoutMessage)) :
    (x.map (Option.map (Violation.ofFailure field))).map (Option.map Violation.withoutMessage) =
      (y.map (Option.map (Violation.ofFailure field))).map
        (Option.map Violation.withoutMessage) := by
  have hreport (x : Except Fault (Option Failure)) :
      (x.map (Option.map (Violation.ofFailure field))).map (Option.map Violation.withoutMessage) =
        (x.map (Option.map Failure.withoutMessage)).map
          (Option.map fun f => (Violation.ofFailure field f).withoutMessage) := by
    cases x with
    | error e => rfl
    | ok f? => cases f? <;> rfl
  rw [hreport, hreport, h]

theorem requiredViolation_withoutMessages (r : Rule) (field : String) (v : Value) :
    (r.withoutMessages.requiredViolation field v).map (Option.map Violation.withoutMessage) =
      (r.requiredViolation field v).map (Option.map Violation.withoutMessage) := by
  have hrequired : r.withoutMessages.required = r.required := rfl
  rw [requiredViolation_eq, requiredViolation_eq, hrequired]
  split
  · refine map_ofFailure ?_
    rw [map_withoutMessage_withOwnMessage, map_withoutMessage_withOwnMessage]
  · rfl

/-- The first of two verdicts that is a failure, without its message. -/
theorem map_withoutMessage_first {x y k l : Except Fault (Option Violation)}
    (hfirst : x.map (Option.map Violation.withoutMessage) =
      y.map (Option.map Violation.withoutMessage))
    (hsecond : k.map (Option.map Violation.withoutMessage) =
      l.map (Option.map Violation.withoutMessage)) :
    (x >>= fun | some violation => return some violation | none => k).map
        (Option.map Violation.withoutMessage) =
      (y >>= fun | some violation => return some violation | none => l).map
        (Option.map Violation.withoutMessage) := by
  have hafter (x k : Except Fault (Option Violation)) :
      (x >>= fun | some violation => return some violation | none => k).map
          (Option.map Violation.withoutMessage) =
        x.map (Option.map Violation.withoutMessage) >>= fun
          | some violation => return some violation
          | none => k.map (Option.map Violation.withoutMessage) := by
    cases x with
    | error e => rfl
    | ok d? => cases d? <;> rfl
  rw [hafter, hafter, hfirst, hsecond]

/-- The checks of a value that is not blank, one after the other. -/
theorem map_withoutMessage_validator (r : Rule) (pattern : Option Pattern) (v : Value) :
    (r.withoutMessages.validator pattern >>= fun c => c.run v).map
        (Option.map Failure.withoutMessage) =
      (r.validator pattern >>= fun c => c.run v).map (Option.map Failure.withoutMessage) := by
  have hchecks (pattern : Option Pattern) :
      ((Check.allOf (r.withoutMessages.checks pattern)).run v).map
          (Option.map Failure.withoutMessage) =
        ((Check.allOf (r.checks pattern)).run v).map (Option.map Failure.withoutMessage) := by
    rw [Check.run, Check.run, checks_eq, checks_eq, map_withoutMessage_runAll,
      map_withoutMessage_runAll]
    rfl
  cases pattern with
  | some p => exact hchecks (some p)
  | none =>
      have hcompiled : r.withoutMessages.compiledPattern .null = r.compiledPattern .null := rfl
      rw [validator, validator, hcompiled]
      cases r.compiledPattern .null with
      | error e => rfl
      | ok compiled => exact hchecks compiled

/-- **Built-in checks fail in the same cases**, with the same constraint and code. -/
theorem checkValue_withoutMessages (r : Rule) (field : String) (pattern : Option Pattern)
    (v : Value) :
    (r.withoutMessages.checkValue field pattern v).map (Option.map Violation.withoutMessage) =
      (r.checkValue field pattern v).map (Option.map Violation.withoutMessage) := by
  rw [checkValue_eq, checkValue_eq]
  refine map_withoutMessage_first (requiredViolation_withoutMessages r field v) ?_
  cases liftExcess v.isEmpty? with
  | error e => rfl
  | ok empty =>
      cases empty with
      | true => rfl
      | false => exact map_ofFailure (map_withoutMessage_validator r pattern v)

end Rule

/-! ## Fields -/

namespace Prepared

/-- **A field is prepared in the same way.** -/
theorem make_withoutMessages (key raw : Value) :
    make key raw.withoutMessages = withoutMessages <$> make key raw := by
  simp only [make, Rule.normalize_withoutMessages, map_bind, bind_map_left, map_pure]
  rfl

theorem all_withoutMessages (entries : Rules) :
    all (entries.map fun e => (e.1, e.2.withoutMessages)) =
      List.map withoutMessages <$> all entries := by
  induction entries with
  | nil => rfl
  | cons e rest ih =>
      simp only [List.map_cons, all, make_withoutMessages, ih, map_bind, bind_map_left, map_pure]

/-- Where a field stands that the built-in checks have said `d?` about. -/
def after (p : Prepared) (value : Value) (d? : Option Violation) : Stage :=
  match d?, p.rule.validate with
  | some violation, _ => .settled (some violation)
  | none, some f => if value.isEmpty then .settled none else .asking f value
  | none, none => .settled none

theorem start_eq (p : Prepared) (data : Value) :
    p.start data = data.record >>= fun record =>
      (p.rule.checkValue p.field p.pattern (record.find p.key)).map
        (p.after (record.find p.key)) := by
  rw [start]
  refine bind_congr fun record => ?_
  show (p.rule.checkValue p.field p.pattern (record.find p.key) >>= _) = _
  cases p.rule.checkValue p.field p.pattern (record.find p.key) with
  | error e => rfl
  | ok d? =>
      show _ = Except.ok (p.after (record.find p.key) d?)
      unfold after
      cases d? with
      | some violation => rfl
      | none => cases p.rule.validate <;> rfl

theorem withoutMessage_after (p : Prepared) (value : Value) (d? : Option Violation) :
    (p.after value d?).withoutMessage = p.after value (d?.map Violation.withoutMessage) := by
  unfold after
  cases d? with
  | some violation => rfl
  | none =>
      cases p.rule.validate with
      | none => rfl
      | some f => by_cases hempty : value.isEmpty = true <;> simp [hempty, Stage.withoutMessage]

/-- **A field starts in the same way**: it settles with the same constraint and code, or asks the
same. -/
theorem start_withoutMessages (p : Prepared) (data : Value) :
    (p.withoutMessages.start data).map Stage.withoutMessage =
      (p.start data).map Stage.withoutMessage := by
  have hafter (q : Prepared) (value : Value) (x : Except Fault (Option Violation)) :
      (x.map (q.after value)).map Stage.withoutMessage =
        (x.map (Option.map Violation.withoutMessage)).map (q.after value) := by
    cases x with
    | error e => rfl
    | ok d? => exact congrArg Except.ok (q.withoutMessage_after value d?)
  rw [start_eq, start_eq]
  cases data.record with
  | error e => rfl
  | ok record =>
      show (Except.map _ (p.rule.withoutMessages.checkValue p.field p.pattern _)).map _ =
        (Except.map _ (p.rule.checkValue p.field p.pattern _)).map _
      rw [hafter, hafter, Rule.checkValue_withoutMessages]
      rfl

end Prepared

/-- A verdict means the same under any messages. -/
theorem Verdict.violation?_withoutMessages (r : Rule) (field : String) (verdict : Verdict) :
    (verdict.violation? r.withoutMessages field).map Violation.withoutMessage =
      (verdict.violation? r field).map Violation.withoutMessage := by
  cases verdict with
  | raised => rfl
  | returned v =>
      cases v with
      | bool b => cases b <;> rfl
      | _ => rfl

namespace Running

theorem round_withoutMessages (validators : Validators) (r : Running) :
    r.withoutMessages.round validators = r.round validators := by
  obtain ⟨p, stage⟩ := r
  cases stage <;> rfl

/-- Custom validators are asked the same. -/
theorem started_withoutMessages (validators : Validators) (record : Dict) (r : Running) :
    r.withoutMessages.started validators record = r.started validators record := by
  obtain ⟨p, stage⟩ := r
  cases stage <;> rfl

theorem resumed_withoutMessages (validators : Validators) (record : Dict) (r : Running) :
    r.withoutMessages.resumed validators record = r.resumed validators record := by
  obtain ⟨p, stage⟩ := r
  cases stage <;> rfl

/-- A field settles with the same constraint and code. -/
theorem violation?_withoutMessages (validators : Validators) (record : Dict) (r : Running) :
    (r.withoutMessages.violation? validators record).map Violation.withoutMessage =
      (r.violation? validators record).map Violation.withoutMessage := by
  obtain ⟨p, stage⟩ := r
  cases stage with
  | settled violation => cases violation <;> rfl
  | asking f value => exact Verdict.violation?_withoutMessages p.rule p.field _

end Running

/-! ## Whole records -/

namespace Prepared

theorem withoutMessages_withoutMessages (p : Prepared) :
    p.withoutMessages.withoutMessages = p.withoutMessages := by
  rw [withoutMessages, withoutMessages, Rule.withoutMessages_withoutMessages]

end Prepared

namespace Validation

/-- **All fields start in the same way.** -/
theorem startAll_withoutMessages (data : Value) (prepared : List Prepared) :
    (startAll data (prepared.map Prepared.withoutMessages)).1.map Running.withoutMessages =
        (startAll data prepared).1.map Running.withoutMessages ∧
      (startAll data (prepared.map Prepared.withoutMessages)).2 = (startAll data prepared).2 := by
  induction prepared with
  | nil => exact ⟨rfl, rfl⟩
  | cons p rest ih =>
      have hstart := p.start_withoutMessages data
      rw [List.map_cons, startAll, startAll]
      generalize p.withoutMessages.start data = started' at hstart ⊢
      generalize p.start data = started at hstart ⊢
      cases started with
      | error e =>
          cases started' with
          | error e' => exact ⟨ih.1, congrArg some (Except.error.inj hstart)⟩
          | ok stage' => cases hstart
      | ok stage =>
          cases started' with
          | error e' => cases hstart
          | ok stage' =>
              refine ⟨?_, ih.2⟩
              show Running.withoutMessages ⟨p.withoutMessages, stage'⟩ :: _ =
                Running.withoutMessages ⟨p, stage⟩ :: _
              rw [ih.1, Running.withoutMessages, Running.withoutMessages,
                p.withoutMessages_withoutMessages, Except.ok.inj hstart]

section SameApartFromMessages

variable {running running' : List Running}
  (hsame : running'.map Running.withoutMessages = running.map Running.withoutMessages)

include hsame

theorem map_settlingOrder (validators : Validators) :
    (settlingOrder validators running').map Running.withoutMessages =
      (settlingOrder validators running).map Running.withoutMessages := by
  have hmap (l : List Running) : (settlingOrder validators l).map Running.withoutMessages =
      settlingOrder validators (l.map Running.withoutMessages) := by
    refine List.map_mergeSort fun a _ b _ => ?_
    rw [Running.round_withoutMessages, Running.round_withoutMessages]
  rw [hmap, hmap, hsame]

/-- Starting leaves the same trace. -/
theorem flatMap_started (validators : Validators) (record : Dict) :
    running'.flatMap (·.started validators record) =
      running.flatMap (·.started validators record) := by
  have hmap (l : List Running) : l.flatMap (·.started validators record) =
      (l.map Running.withoutMessages).flatMap (·.started validators record) := by
    simp only [List.flatMap_map, Running.started_withoutMessages]
  rw [hmap running', hmap running, hsame]

/-- Settling leaves the same trace. -/
theorem flatMap_resumed (validators : Validators) (record : Dict) :
    running'.flatMap (·.resumed validators record) =
      running.flatMap (·.resumed validators record) := by
  have hmap (l : List Running) : l.flatMap (·.resumed validators record) =
      (l.map Running.withoutMessages).flatMap (·.resumed validators record) := by
    simp only [List.flatMap_map, Running.resumed_withoutMessages]
  rw [hmap running', hmap running, hsame]

/-- Settling gives the same violations, their messages apart. -/
theorem map_filterMap_violation? (validators : Validators) (record : Dict) :
    (running'.filterMap (·.violation? validators record)).map Violation.withoutMessage =
      (running.filterMap (·.violation? validators record)).map Violation.withoutMessage := by
  have hmap (l : List Running) :
      (l.filterMap (·.violation? validators record)).map Violation.withoutMessage =
        (l.map Running.withoutMessages).filterMap fun r =>
          (r.violation? validators record).map Violation.withoutMessage := by
    simp only [List.map_filterMap, List.filterMap_map, Function.comp_def,
      Running.violation?_withoutMessages]
  rw [hmap, hmap, hsame]

end SameApartFromMessages

/-- **A record is validated in the same way.** -/
theorem run_withoutMessages (validators : Validators) (data : Value) (prepared : List Prepared) :
    withoutMessages <$> run validators data (prepared.map Prepared.withoutMessages) =
      withoutMessages <$> run validators data prepared := by
  have hstart := startAll_withoutMessages data prepared
  rw [run, run, List.length_map]
  generalize startAll data (prepared.map Prepared.withoutMessages) = started' at hstart
  generalize startAll data prepared = started at hstart
  obtain ⟨running', fault'⟩ := started'
  obtain ⟨running, fault⟩ := started
  obtain ⟨hrunning, hfault⟩ := hstart
  dsimp only at hrunning hfault ⊢
  subst hfault
  rw [flatMap_started hrunning]
  cases fault' with
  | some e => rfl
  | none =>
      have hsettled := map_settlingOrder hrunning validators
      have hdetails := map_filterMap_violation? hsettled validators (data.record.toOption.getD [])
      have hlength := congrArg List.length hdetails
      rw [List.length_map, List.length_map] at hlength
      rw [flatMap_resumed hsettled, hlength, Traced.map_of_ok, Traced.map_of_ok, withoutMessages,
        withoutMessages, hdetails]

end Validation

namespace Value

theorem entries_withoutFieldMessages (rules : Value) :
    rules.withoutFieldMessages.entries =
      rules.entries.map (List.map fun e => (e.1, e.2.withoutMessages)) := by
  cases rules with
  | dict d => cases d <;> simp [withoutFieldMessages, entries, record, truthy, Except.map]
  | _ =>
      have hplain (b : Bool) : (if b then .error .notMapping else .ok [] : Except Fault Rules) =
          (if b then .error .notMapping else .ok [] : Except Fault Rules).map
            (List.map fun e => (e.1, e.2.withoutMessages)) := by
        cases b <;> rfl
      show record _ = Except.map _ (record _)
      exact hplain _

end Value

/-- **Validating commutes with leaving the messages out.** -/
theorem validate_withoutMessages (validators : Validators) (data rules : Value) :
    Validation.withoutMessages <$> validate validators data rules.withoutFieldMessages =
      Validation.withoutMessages <$> validate validators data rules := by
  simp only [validate, Value.entries_withoutFieldMessages, ← Traced.map_ofExcept, bind_map_left,
    map_bind, Prepared.all_withoutMessages, Validation.run_withoutMessages]

/-! ## Two choices of messages -/

/-- Two violations of the same constraint of the same field. -/
structure Violation.Agrees (d d' : Violation) : Prop where
  field : d.field = d'.field
  constraint : d.constraint = d'.constraint
  code : d.code = d'.code

theorem Violation.agrees_iff {d d' : Violation} :
    d.Agrees d' ↔ d.withoutMessage = d'.withoutMessage := by
  simp only [withoutMessage, Violation.mk.injEq, true_and]
  exact ⟨fun h => ⟨h.field, h.constraint, h.code⟩, fun h => ⟨h.1, h.2.1, h.2.2⟩⟩

theorem Violation.forall₂_agrees {ds ds' : List Violation}
    (h : ds.map withoutMessage = ds'.map withoutMessage) : List.Forall₂ Agrees ds ds' := by
  rw [← List.forall₂_eq_eq_eq, List.forall₂_map_left_iff, List.forall₂_map_right_iff] at h
  exact h.imp fun _ _ => agrees_iff.mpr

/-- **Messages change nothing but texts.** Of two validations whose rules differ in nothing but the
messages that the fields bring, both leave the same trace, so that the same custom validators are
called with the same values and record in the same order; both end in the same faults; and both find
the same fields at fault, for the same constraints and under the same codes. -/
theorem validate_messages (validators : Validators) (data : Value) {rules rules' : Value}
    (h : rules.withoutFieldMessages = rules'.withoutFieldMessages) :
    (validate validators data rules).entries = (validate validators data rules').entries ∧
    (∀ e, (validate validators data rules).outcome = .error e ↔
      (validate validators data rules').outcome = .error e) ∧
    ∀ v, (validate validators data rules).outcome = .ok v →
      ∃ v', (validate validators data rules').outcome = .ok v' ∧
        List.Forall₂ Violation.Agrees v.details v'.details := by
  have hsame : Validation.withoutMessages <$> validate validators data rules =
      Validation.withoutMessages <$> validate validators data rules' := by
    rw [← validate_withoutMessages, h, validate_withoutMessages]
  obtain ⟨hentries, hfaults, hresults⟩ := Traced.of_map_eq hsame
  refine ⟨hentries, hfaults, fun v hv => ?_⟩
  obtain ⟨v', hv', hdetails⟩ := hresults v hv
  exact ⟨v', hv', Violation.forall₂_agrees (congrArg Validation.details hdetails)⟩

/-- Rules for a nick of at least three characters. -/
def nickRules (messages : Dict) : Value :=
  .dict [(.text "nick", .dict [(.text "min", .int 3), (.text "messages", .dict messages)])]

/-- A short nick, under rules with a message of their own for it and without. -/
theorem validate_messages_nick : ∃ v v',
    (validate (fun _ => ⟨0, fun _ _ => .raised⟩) (.dict [(.text "nick", .text "ab")])
      (nickRules [(.text "min", .text "Too short")])).outcome = .ok v ∧
    (validate (fun _ => ⟨0, fun _ _ => .raised⟩) (.dict [(.text "nick", .text "ab")])
      (nickRules [])).outcome = .ok v' ∧
    v.errors = [("nick", .text "Too short")] ∧
    List.Forall₂ Violation.Agrees v.details v'.details := by
  have hsame : (nickRules [(.text "min", .text "Too short")]).withoutFieldMessages =
      (nickRules []).withoutFieldMessages := rfl
  obtain ⟨-, -, hresults⟩ := validate_messages (fun _ => ⟨0, fun _ _ => .raised⟩)
    (.dict [(.text "nick", .text "ab")]) hsame
  obtain ⟨v', hv', hdetails⟩ := hresults _ rfl
  refine ⟨_, v', rfl, hv', ?_, hdetails⟩
  show List.map _ (List.filterMap _ (List.mergeSort [_] _)) = _
  rw [List.mergeSort_singleton]
  rfl

end FieldRules
