import FieldRules.Proofs.Check.Constraint
import FieldRules.Validation.Record

/-!
# Proofs — Outcome

What becomes of the value of one field: presence first, then the constraints of its rule in their
order up to the first that is broken. The reference is written on the text of the value
(`Rule.brokenReport?`), and so is the condition under which there is no verdict (`Rule.Stops`);
`checkValue_cases` says that the checks that are run agree with both.
-/

namespace FieldRules

open Constraint (StopsAmong firstBroken?)

/-! ## Constraints of a rule -/

namespace Rule

/-- What the rule asks of a value that is not blank, in the order in which it is looked at. Of the
formats only the first that is on counts. -/
def constraints (r : Rule) (pattern : Option Pattern) : List Constraint :=
  (if r.email then [.email] else if r.url then [.url] else if r.number then [.number] else []) ++
    (r.min.map Constraint.minLength).toList ++ (r.max.map Constraint.maxLength).toList ++
    (r.minValue.map Constraint.minValue).toList ++
    (r.maxValue.map Constraint.maxValue).toList ++ (pattern.map Constraint.pattern).toList

/-- The message for a broken condition: that of the rule, if it brings one under the key. -/
def messageFor (r : Rule) (key message : String) : Value :=
  match Dict.get? r.messages key with
  | some m => if m.truthy then m else .text defaultMessage
  | none => .text message

/-- The report of a broken constraint. -/
def report (r : Rule) (field : String) (c : Constraint) : Violation :=
  ⟨field, c.name, r.messageFor c.key c.message, c.code⟩

/-- The report of a missing value. -/
def requiredReport (r : Rule) (field : String) : Violation :=
  ⟨field, "required", r.messageFor "required" "This field is required", .requiredFieldMissing⟩

/-- The pattern is the compiled pattern of the rule. -/
def Compiled (r : Rule) (pattern : Option Pattern) : Prop :=
  ∃ field, r.compiledPattern field = .ok pattern

/-- The built-in checks of the rule reach no verdict on the value: the value cannot be written, or
one of the constraints stops. -/
def Stops (r : Rule) (pattern : Option Pattern) (v : Value) : Prop :=
  v.isWritable = false ∨ v.isEmpty = false ∧ StopsAmong v.asText (r.constraints pattern)

/-- The violation of the built-in conditions of a rule. -/
def brokenReport? (r : Rule) (pattern : Option Pattern) (field : String) (v : Value) :
    Option Violation :=
  if v.isEmpty then if r.required then some (r.requiredReport field) else none
  else (firstBroken? v.asText (r.constraints pattern)).map (r.report field)

/-! ## Built-in checks -/

variable {r : Rule} {pattern : Option Pattern} {field : String} {v : Value}

/-- The check for a constraint, with the message that the rule brings for it. -/
def ownCheck (r : Rule) (c : Constraint) : Check :=
  r.withOwnMessage c.key c.check

theorem boundCheck_eq {α : Type} (r : Rule) (bound : Option α) (c : α → Constraint) {key : String}
    {check : α → Check} (hkey : ∀ a, (c a).key = key) (hcheck : ∀ a, (c a).check = check a) :
    r.boundCheck key bound check = (bound.map c).toList.map r.ownCheck := by
  cases bound with
  | none => rfl
  | some a => simp [boundCheck, ownCheck, hkey, hcheck]

theorem formatChecks_eq (r : Rule) :
    r.formatChecks =
      (if r.email then [Constraint.email] else if r.url then [.url]
        else if r.number then [.number] else []).map r.ownCheck := by
  unfold formatChecks
  split
  · rfl
  · split
    · rfl
    · split <;> rfl

/-- The checks of a rule are those of its constraints. -/
theorem checks_eq (r : Rule) (pattern : Option Pattern) :
    r.checks pattern = (r.constraints pattern).map r.ownCheck := by
  have hmin := boundCheck_eq r r.min .minLength (fun _ => rfl) (fun _ => rfl)
  have hmax := boundCheck_eq r r.max .maxLength (fun _ => rfl) (fun _ => rfl)
  have hminValue := boundCheck_eq r r.minValue .minValue (fun _ => rfl) (fun _ => rfl)
  have hmaxValue := boundCheck_eq r r.maxValue .maxValue (fun _ => rfl) (fun _ => rfl)
  have hpattern := boundCheck_eq r pattern .pattern (fun _ => rfl) (fun _ => rfl)
  simp only [constraints, List.map_append, ← formatChecks_eq]
  rw [← hmin, ← hmax, ← hminValue, ← hmaxValue, ← hpattern]
  rfl

/-- A check that brings a message of the rule fails as it does without, the message apart. -/
theorem run_withOwnMessage (r : Rule) (key : String) (c : Check) (v : Value) :
    (r.withOwnMessage key c).run v =
      (c.run v).map (Option.map fun f =>
        { f with message := (Dict.get? r.messages key).getD f.message }) := by
  unfold withOwnMessage
  cases Dict.get? r.messages key with
  | none =>
      cases hc : c.run v with
      | error e => simp [Except.map]
      | ok f? => cases f? <;> simp [Except.map]
  | some m => exact Check.run_withMessage c m v

/-- What is reported of a failure with a message of the rule. -/
theorem ofFailure_withOwnMessage {f : Failure} {key message : String}
    (hname : f.constraint.isEmpty = false) (hmessage : f.message = .text message)
    (hne : message.isEmpty = false) :
    Violation.ofFailure field
        { f with message := (Dict.get? r.messages key).getD f.message } =
      ⟨field, f.constraint, r.messageFor key message, f.code⟩ := by
  unfold messageFor
  cases Dict.get? r.messages key with
  | none => simp [Violation.ofFailure, hname, hmessage, Value.truthy, hne]
  | some m => simp [Violation.ofFailure, hname]

/-- The check of a constraint under a rule ends as the constraint says, and is reported with the
rule's own message. -/
theorem ends_ownCheck (r : Rule) (h : v.isWritable = true) (c : Constraint) :
    c.Ends v.asText (fun f => ∀ field, Violation.ofFailure field f = r.report field c)
      ((r.ownCheck c).run v) := by
  have hplain := c.run_check h
  rw [ownCheck, run_withOwnMessage]
  generalize Check.run c.check v = outcome at hplain
  cases hplain with
  | stopped e hs => exact .stopped e hs
  | held hs hh => exact .held hs hh
  | failed f hs hh hf =>
      refine .failed _ hs hh fun field => ?_
      have hname : f.constraint.isEmpty = false := by rw [hf.constraint]; exact c.name_isEmpty
      rw [ofFailure_withOwnMessage hname hf.message c.message_isEmpty, report, hf.constraint,
        hf.code]

/-! ## The built-in verdict on a value -/

theorem requiredViolation_eq (r : Rule) (field : String) (v : Value) :
    r.requiredViolation field v = if r.required then
      ((r.withOwnMessage "required" .required).run v).map (Option.map (.ofFailure field))
    else .ok none := by
  rw [requiredViolation]
  split
  · cases (r.withOwnMessage "required" .required).run v with
    | error e => rfl
    | ok f? => cases f? <;> rfl
  · rfl

/-- The presence comes first, then for a value that is not blank the chain of checks. -/
theorem checkValue_eq (r : Rule) (field : String) (pattern : Option Pattern) (v : Value) :
    r.checkValue field pattern v = r.requiredViolation field v >>= fun
      | some violation => return some violation
      | none => liftExcess v.isEmpty? >>= fun empty =>
        if empty then return none
        else (r.validator pattern >>= fun c => c.run v).map (Option.map (.ofFailure field)) := by
  rw [checkValue]
  refine bind_congr fun d? => ?_
  cases d? with
  | some violation => rfl
  | none =>
      refine bind_congr fun empty => ?_
      cases empty with
      | true => rfl
      | false =>
          show (r.validator pattern >>= fun c => _) = _
          cases r.validator pattern with
          | error e => rfl
          | ok c =>
              show (c.run v >>= _) = (c.run v).map _
              cases c.run v with
              | error e => rfl
              | ok f? => cases f? <;> rfl

theorem isEmpty?_of_isWritable (h : v.isWritable = true) : v.isEmpty? = .ok v.isEmpty := by
  simp [Value.isEmpty?, Value.ifWritable, h]

theorem isEmpty?_of_not_isWritable (h : v.isWritable = false) :
    v.isEmpty? = .error .writing := by
  simp [Value.isEmpty?, Value.ifWritable, h]

/-- The presence that a rule may require, on a value that can be written. -/
theorem requiredViolation_of_isWritable (r : Rule) (field : String) (h : v.isWritable = true) :
    r.requiredViolation field v =
      .ok (if r.required = true ∧ v.isEmpty = true then some (r.requiredReport field)
        else none) := by
  unfold requiredViolation
  by_cases hr : r.required = true
  · have hrun : Check.run .required v = .ok (if v.isEmpty then
        Check.failed "This field is required" .requiredFieldMissing "required"
          "non-empty value" v else none) := by
      rw [Check.run, Check.runRequired, isEmpty?_of_isWritable h]
      by_cases he : v.isEmpty = true
      · rw [if_pos he]
        exact if_pos he
      · rw [if_neg he]
        exact if_neg he
    rw [if_pos hr, run_withOwnMessage, hrun]
    by_cases he : v.isEmpty = true
    · rw [if_pos he, if_pos ⟨hr, he⟩]
      exact congrArg (fun x => Except.ok (some x)) (ofFailure_withOwnMessage rfl rfl rfl)
    · rw [if_neg he, if_neg (fun hre => he hre.2)]
      rfl
  · rw [if_neg hr, if_neg (fun hre => hr hre.1)]
    rfl

theorem requiredViolation_of_not_isWritable (r : Rule) (field : String)
    (h : v.isWritable = false) :
    r.requiredViolation field v = .ok none ∨ ∃ e, r.requiredViolation field v = .error e := by
  unfold requiredViolation
  by_cases hr : r.required = true
  · right
    refine ⟨.excess .writing, ?_⟩
    rw [if_pos hr, run_withOwnMessage, Check.run, Check.runRequired,
      isEmpty?_of_not_isWritable h]
    rfl
  · left
    rw [if_neg hr]
    rfl

/-- Only a rule without a pattern has none that is compiled. -/
theorem pattern_of_compiled_none (h : r.Compiled none) : r.pattern = none := by
  obtain ⟨field, h⟩ := h
  unfold compiledPattern at h
  split at h
  · assumption
  · cases h
  · split at h <;> cases h

/-- The checks that are run are those of the compiled pattern. -/
theorem validator_of_compiled (h : r.Compiled pattern) :
    r.validator pattern = .ok (.allOf (r.checks pattern)) := by
  cases pattern with
  | some p => rfl
  | none =>
      rw [validator, compiledPattern, pattern_of_compiled_none h]
      rfl

/-- A value that cannot be written has no verdict: both the presence and the test for a blank one
need its text. -/
theorem checkValue_of_not_isWritable (r : Rule) (field : String) (pattern : Option Pattern)
    (h : v.isWritable = false) : ∃ e, r.checkValue field pattern v = .error e := by
  rw [checkValue]
  rcases requiredViolation_of_not_isWritable r field h with hr | ⟨e, hr⟩
  · rw [hr, isEmpty?_of_not_isWritable h]
    exact ⟨_, rfl⟩
  · rw [hr]
    exact ⟨e, rfl⟩

/-- On a blank value only the presence is looked at. -/
theorem checkValue_of_isEmpty (r : Rule) (field : String) (pattern : Option Pattern)
    (hw : v.isWritable = true) (he : v.isEmpty = true) :
    r.checkValue field pattern v = .ok (r.brokenReport? pattern field v) := by
  have hreq := requiredViolation_of_isWritable r field hw
  rw [checkValue, hreq, brokenReport?, if_pos he]
  by_cases hr : r.required = true
  · rw [if_pos ⟨hr, he⟩, if_pos hr]
    rfl
  · rw [if_neg (fun hre => hr hre.1), if_neg hr, isEmpty?_of_isWritable hw, he]
    rfl

/-- On any other value the chain of checks is run, whether it is required or not. -/
theorem checkValue_of_not_isEmpty (hc : r.Compiled pattern) (field : String)
    (hw : v.isWritable = true) (he : v.isEmpty = false) :
    r.checkValue field pattern v =
      (Check.runAll (r.checks pattern) v).map (Option.map (Violation.ofFailure field)) := by
  have hreq := requiredViolation_of_isWritable r field hw
  have hpresent : ¬ (r.required = true ∧ v.isEmpty = true) := by simp [he]
  rw [checkValue, hreq, if_neg hpresent, isEmpty?_of_isWritable hw, he, validator_of_compiled hc]
  show (Check.run (.allOf (r.checks pattern)) v >>= _) = _
  rw [Check.run]
  cases Check.runAll (r.checks pattern) v with
  | error e => rfl
  | ok f? => cases f? <;> rfl

/-- **The built-in verdict**: either the checks reach none, or they report what the conditions of
the rule say. -/
theorem checkValue_cases (hc : r.Compiled pattern) (field : String) (v : Value) :
    (r.Stops pattern v ∧ ∃ e, r.checkValue field pattern v = .error e) ∨
      (¬ r.Stops pattern v ∧
        r.checkValue field pattern v = .ok (r.brokenReport? pattern field v)) := by
  by_cases hw : v.isWritable = true
  · have hwritable : v.isWritable ≠ false := by simp [hw]
    by_cases he : v.isEmpty = true
    · exact .inr ⟨by simp [Stops, hwritable, he], checkValue_of_isEmpty r field pattern hw he⟩
    · have hempty : v.isEmpty = false := Bool.eq_false_iff.mpr he
      have hchain := Constraint.chainEnds_runAll (ends_ownCheck r hw) (r.constraints pattern)
      rw [← checks_eq] at hchain
      rw [checkValue_of_not_isEmpty hc field hw hempty, brokenReport?, if_neg he, Stops]
      -- the first constraint that does not hold decides, whether it stops or fails
      generalize Check.runAll (r.checks pattern) v = outcome at hchain
      cases hchain with
      | stopped e hs => exact .inl ⟨.inr ⟨hempty, hs⟩, e, rfl⟩
      | held hs hnone =>
          refine .inr ⟨by simp [hwritable, hs], ?_⟩
          rw [hnone]
          rfl
      | failed c f hs hsome hf =>
          refine .inr ⟨by simp [hwritable, hs], ?_⟩
          rw [hsome]
          exact congrArg (fun x => Except.ok (some x)) (hf field)
  · have hw' : v.isWritable = false := Bool.eq_false_iff.mpr hw
    exact .inl ⟨.inl hw', checkValue_of_not_isWritable r field pattern hw'⟩

end Rule
end FieldRules
