import FieldRules.Proofs.Validation.Preparation
import Mathlib.Data.List.Perm.Basic
import Mathlib.Data.List.Nodup

/-!
# Proofs — Fields

The outcome of every field of a validation. `Prepared.outcome` is the reference: presence, the
first broken constraint, and last the custom validator. A validation in which every built-in
check reaches a verdict ends well (`run_outcome_eq_ok`), and its details are the outcomes of the
fields in some order (`settledDetails_perm`), so each field has exactly its own outcome
(`validate_fields`).
-/

namespace FieldRules

open Constraint (firstBroken?)

/-! ## Custom validators -/

namespace Verdict

/-- The validator is content: it returned something other than a text and `false`. -/
def accepts : Verdict → Bool
  | .raised => false
  | .returned (.text _) => false
  | .returned (.bool b) => b
  | .returned _ => true

/-- The message that the validator gives itself. -/
def message? : Verdict → Option String
  | .returned (.text s) => some s
  | _ => none

end Verdict

/-- The report of a custom validator that is not content. -/
def Rule.customReport (r : Rule) (field : String) (verdict : Verdict) : Violation where
  field := field
  constraint := "custom"
  message :=
    match verdict.message? with
    | some s => .text s
    | none => (Dict.get? r.messages "custom").getD (.text defaultMessage)
  code := .customRuleFailed

theorem Verdict.violation?_eq (verdict : Verdict) (r : Rule) (field : String) :
    verdict.violation? r field =
      if verdict.accepts then none else some (r.customReport field verdict) := by
  cases verdict with
  | raised => rfl
  | returned v =>
      cases v with
      | bool b => cases b <;> rfl
      | _ => rfl

/-! ## The reference -/

namespace Prepared

/-- The value of the field in a record. -/
def value (p : Prepared) (record : Dict) : Value :=
  record.find p.key

/-- What a custom validator says about the field. -/
def verdict (validators : Validators) (record : Dict) (p : Prepared) (f : Handle) : Verdict :=
  (validators f).verdict (p.value record) record

/-- **The outcome of a field.** A value that is blank can only be missing. Any other value has to
satisfy the constraints in their order, and only then the custom validator. -/
def outcome (validators : Validators) (record : Dict) (p : Prepared) : Option Violation :=
  if (p.value record).isEmpty then
    if p.rule.required then some (p.rule.requiredReport p.field) else none
  else
    match firstBroken? (p.value record).asText (p.rule.constraints p.pattern) with
    | some c => some (p.rule.report p.field c)
    | none =>
      match p.rule.validate with
      | none => none
      | some f =>
        if (p.verdict validators record f).accepts then none
        else some (p.rule.customReport p.field (p.verdict validators record f))

/-- Everything that applies to the value of the field holds. -/
def IsMet (validators : Validators) (record : Dict) (p : Prepared) : Prop :=
  if (p.value record).isEmpty then p.rule.required = false
  else
    (∀ c ∈ p.rule.constraints p.pattern, c.holds (p.value record).asText = true) ∧
      ∀ f, p.rule.validate = some f → (p.verdict validators record f).accepts = true

/-- The built-in checks reach a verdict on the value of the field. -/
def IsDecided (record : Dict) (p : Prepared) : Prop :=
  ∃ violation?, p.rule.checkValue p.field p.pattern (p.value record) = .ok violation?

variable {validators : Validators} {record : Dict} {p : Prepared}

theorem field_of_outcome {d : Violation} (h : p.outcome validators record = some d) :
    d.field = p.field := by
  unfold outcome at h
  split at h
  · split at h
    · cases h
      rfl
    · cases h
  · split at h
    · cases h
      rfl
    · split at h
      · cases h
      · split at h
        · cases h
        · cases h
          rfl

/-- All that counts of the custom validators is what the one of the field says. -/
theorem outcome_congr {validators' : Validators}
    (h : ∀ f, p.rule.validate = some f → p.verdict validators' record f =
      p.verdict validators record f) :
    p.outcome validators' record = p.outcome validators record := by
  unfold outcome
  cases hv : p.rule.validate with
  | none => rfl
  | some f => simp only [h f hv]

/-- A field has no violation exactly when everything that applies to it holds. -/
theorem outcome_eq_none : p.outcome validators record = none ↔ p.IsMet validators record := by
  unfold outcome IsMet
  by_cases he : (p.value record).isEmpty = true
  · simp only [he, if_true]
    by_cases hr : p.rule.required = true <;> simp [hr]
  · simp only [he, Bool.false_eq_true, if_false]
    cases hb : firstBroken? (p.value record).asText (p.rule.constraints p.pattern) with
    | some c =>
        have hc := List.find?_some hb
        have hmem := List.mem_of_find?_eq_some hb
        constructor
        · intro h
          cases h
        · rintro ⟨h, -⟩
          simp [h c hmem] at hc
    | none =>
        have hall : ∀ c ∈ p.rule.constraints p.pattern,
            c.holds (p.value record).asText = true := by
          simpa using List.find?_eq_none.mp hb
        cases hv : p.rule.validate with
        | none => simpa using hall
        | some f =>
            by_cases ha : (p.verdict validators record f).accepts = true
            · simpa [ha] using hall
            · simp [ha]

/-! ## Running a field -/

/-- Where the field stands once its built-in checks have reached a verdict. -/
def stage (record : Dict) (p : Prepared) : Stage :=
  match p.rule.brokenReport? p.pattern p.field (p.value record) with
  | some violation => .settled (some violation)
  | none =>
    match p.rule.validate with
    | some f => if (p.value record).isEmpty then .settled none else .asking f (p.value record)
    | none => .settled none

variable {data : Value}

theorem isDecided_iff (hc : p.rule.Compiled p.pattern) :
    p.IsDecided record ↔ ¬ p.rule.Stops p.pattern (p.value record) := by
  unfold IsDecided
  rcases Rule.checkValue_cases hc p.field (p.value record) with ⟨hs, e, he⟩ | ⟨hs, hok⟩
  · simp [hs, he]
  · simp [hs, hok]

theorem start_eq_ok (hdata : data.record = .ok record) (hc : p.rule.Compiled p.pattern)
    (hd : p.IsDecided record) : p.start data = .ok (p.stage record) := by
  rcases Rule.checkValue_cases hc p.field (p.value record) with ⟨hs, -⟩ | ⟨-, hok⟩
  · exact absurd hs ((isDecided_iff hc).mp hd)
  · rw [start, hdata]
    show (p.rule.checkValue p.field p.pattern (p.value record) >>= _) = _
    rw [hok, stage]
    cases p.rule.brokenReport? p.pattern p.field (p.value record) with
    | some violation => rfl
    | none => cases p.rule.validate <;> rfl

theorem start_eq_error (hdata : data.record = .ok record) (hc : p.rule.Compiled p.pattern)
    (hd : ¬ p.IsDecided record) : ∃ e, p.start data = .error e := by
  rcases Rule.checkValue_cases hc p.field (p.value record) with ⟨-, e, he⟩ | ⟨hs, -⟩
  · refine ⟨e, ?_⟩
    rw [start, hdata]
    show (p.rule.checkValue p.field p.pattern (p.value record) >>= _) = _
    rw [he]
    rfl
  · exact absurd ((isDecided_iff hc).mpr hs) hd

/-- **A field settles with its outcome.** -/
theorem violation?_stage :
    Running.violation? validators record ⟨p, p.stage record⟩ = p.outcome validators record := by
  unfold outcome stage Rule.brokenReport?
  by_cases he : (p.value record).isEmpty = true
  · simp only [he, if_true]
    by_cases hr : p.rule.required = true
    · simp only [hr, if_true]
      rfl
    · simp only [hr, Bool.false_eq_true, if_false]
      cases p.rule.validate <;> rfl
  · simp only [he, Bool.false_eq_true, if_false]
    cases firstBroken? (p.value record).asText (p.rule.constraints p.pattern) with
    | some c => rfl
    | none =>
        cases p.rule.validate with
        | none => rfl
        | some f => exact Verdict.violation?_eq _ _ _

end Prepared

/-! ## Running all fields -/

namespace Validation

open Prepared

variable {validators : Validators} {data : Value} {record : Dict} {prepared : List Prepared}

/-- A field that runs, its built-in checks done. -/
def runningOf (record : Dict) (p : Prepared) : Running := ⟨p, p.stage record⟩

theorem startAll_eq (hdata : data.record = .ok record)
    (hc : ∀ p ∈ prepared, p.rule.Compiled p.pattern)
    (hd : ∀ p ∈ prepared, p.IsDecided record) :
    startAll data prepared = (prepared.map (runningOf record), none) := by
  induction prepared with
  | nil => rfl
  | cons p rest ih =>
      have hrest := ih (fun q hq => hc q (by simp [hq])) (fun q hq => hd q (by simp [hq]))
      have hp := start_eq_ok hdata (hc p (by simp)) (hd p (by simp))
      simp only [startAll, hrest, hp]
      rfl

/-- The details that are collected when every field reaches a verdict. -/
def settledDetails (validators : Validators) (record : Dict) (prepared : List Prepared) :
    List Violation :=
  (settlingOrder validators (prepared.map (runningOf record))).filterMap
    (Running.violation? validators record)

theorem run_outcome_eq_ok (hdata : data.record = .ok record)
    (hc : ∀ p ∈ prepared, p.rule.Compiled p.pattern)
    (hd : ∀ p ∈ prepared, p.IsDecided record) :
    (run validators data prepared).outcome =
      .ok ⟨settledDetails validators record prepared⟩ := by
  rw [run, startAll_eq hdata hc hd, hdata]
  rfl

/-- The order in which the fields settle aside, the details are the outcomes of the fields. -/
theorem settledDetails_perm (validators : Validators) (record : Dict)
    (prepared : List Prepared) :
    (settledDetails validators record prepared).Perm
      (prepared.filterMap (outcome validators record)) := by
  have hperm : (settlingOrder validators (prepared.map (runningOf record))).Perm
      (prepared.map (runningOf record)) := List.mergeSort_perm _ _
  refine (hperm.filterMap _).trans (List.Perm.of_eq ?_)
  rw [List.filterMap_map]
  exact List.filterMap_congr fun p _ => violation?_stage

section

variable {β : Type} {give : Prepared → Option β} {name : β → String}

theorem filter_given_of_not_mem (hname : ∀ p b, give p = some b → name b = p.field)
    {field : String} (h : field ∉ prepared.map (·.field)) :
    (prepared.filterMap give).filter (fun b => name b == field) = [] := by
  rw [List.filter_eq_nil_iff]
  intro b hb hfield
  obtain ⟨q, hq, hqb⟩ := List.mem_filterMap.mp hb
  have hq' : q.field = field := by
    rw [← hname q b hqb]
    exact eq_of_beq hfield
  exact h (List.mem_map.mpr ⟨q, hq, hq'⟩)

/-- What the fields give, each at most one thing under its own name, is found under the names. -/
theorem filter_given (hname : ∀ p b, give p = some b → name b = p.field)
    (hnodup : (prepared.map (·.field)).Nodup) {p : Prepared} (hp : p ∈ prepared) :
    (prepared.filterMap give).filter (fun b => name b == p.field) = (give p).toList := by
  induction prepared with
  | nil => simp at hp
  | cons q rest ih =>
      obtain ⟨hq, hrest⟩ := List.nodup_cons.mp hnodup
      rw [← List.singleton_append, List.filterMap_append, List.filter_append]
      rcases List.mem_cons.mp hp with rfl | hmem
      · rw [filter_given_of_not_mem hname hq, List.append_nil]
        cases ho : give p with
        | none => simp [ho]
        | some b => simp [ho, hname p b ho]
      · have hne : ¬ (q.field = p.field) := by
          intro h
          exact hq (List.mem_map.mpr ⟨p, hmem, h.symm⟩)
        rw [ih hrest hmem]
        cases ho : give q with
        | none => simp [ho]
        | some b => simp [ho, hname q b ho, hne]

end

/-- The details of a field are its outcome. -/
theorem filter_settledDetails (validators : Validators) (record : Dict)
    (hnodup : (prepared.map (·.field)).Nodup) {p : Prepared}
    (hp : p ∈ prepared) :
    (settledDetails validators record prepared).filter (fun d => d.field == p.field) =
      (p.outcome validators record).toList := by
  have hperm := (settledDetails_perm validators record prepared).filter
    fun d => d.field == p.field
  rw [filter_given (fun _ _ => field_of_outcome) hnodup hp] at hperm
  cases ho : p.outcome validators record with
  | none => exact List.Perm.eq_nil (by simpa [ho] using hperm)
  | some d => exact List.perm_singleton.mp (by simpa [ho] using hperm)

/-- A validation is the running of the prepared rules. -/
theorem validate_outcome {rules : Value} {entries : Rules} (hrules : rules.entries = .ok entries)
    (hprepared : (Prepared.all entries).outcome = .ok prepared) :
    (validate validators data rules).outcome = (run validators data prepared).outcome := by
  simp only [validate, Traced.outcome_bind, Traced.outcome_ofExcept, hrules]
  show ((Prepared.all entries).outcome >>= _) = _
  rw [hprepared]
  rfl

end Validation

open Validation in
/-- **Each field has its own outcome and nothing else.** -/
theorem validate_fields (validators : Validators) {data rules : Value} {record : Dict}
    {entries : Rules} {prepared : List Prepared} (hdata : data.record = .ok record)
    (hrules : rules.entries = .ok entries) (hnames : (Rules.names entries).Nodup)
    (hprepared : (Prepared.all entries).outcome = .ok prepared)
    (hdecided : ∀ p ∈ prepared, p.IsDecided record) :
    ∃ v, (validate validators data rules).outcome = .ok v ∧
      ∀ p ∈ prepared,
        v.details.filter (fun d => d.field == p.field) =
            (p.outcome validators record).toList ∧
          (v.details.filter (fun d => d.field == p.field) = [] ↔
            p.IsMet validators record) := by
  have hcompiled : ∀ p ∈ prepared, p.rule.Compiled p.pattern :=
    fun p hp => Prepared.compiled_of_mem_all hprepared hp
  have hnodup : (prepared.map (·.field)).Nodup := by
    rw [Prepared.fields_of_all hprepared]
    exact hnames
  refine ⟨⟨settledDetails validators record prepared⟩, ?_, fun p hp => ?_⟩
  · rw [validate_outcome hrules hprepared]
    exact run_outcome_eq_ok hdata hcompiled hdecided
  · have hfilter := filter_settledDetails validators record hnodup hp
    refine ⟨hfilter, ?_⟩
    rw [hfilter, ← Prepared.outcome_eq_none]
    cases p.outcome validators record <;> simp

/-- A required address of at least twenty characters, and a validator that always fails. -/
def mailRule : Rule :=
  { Rule.empty with required := true, email := true, min := some 20, validate := some ⟨0⟩ }

/-- For an address without an at sign the format comes before the length, and the validator is
not asked. -/
theorem validate_fields_mail :
    ∃ v, (validate (fun _ => ⟨0, fun _ _ => .raised⟩) (.dict [(.text "mail", .text "nobody")])
        (.dict [(.text "mail", .rule mailRule)])).outcome = .ok v ∧
      v.details.filter (fun d => d.field == "mail") =
        [⟨"mail", "email", .text "Invalid email address", .invalidEmail⟩] := by
  have hdata : (Value.dict [(.text "mail", .text "nobody")]).record =
      .ok [(.text "mail", .text "nobody")] := rfl
  have hrules : (Value.dict [(.text "mail", .rule mailRule)]).entries =
      .ok [(.text "mail", .rule mailRule)] := rfl
  have hdecided : ∀ p ∈ [Prepared.mk (.text "mail") mailRule none],
      p.IsDecided [(.text "mail", .text "nobody")] := by
    intro p hp
    rw [List.mem_singleton] at hp
    subst hp
    exact ⟨_, rfl⟩
  obtain ⟨v, hv, hfields⟩ := validate_fields (fun _ => ⟨0, fun _ _ => .raised⟩)
    hdata hrules (by decide) rfl hdecided
  exact ⟨v, hv, (hfields _ (List.mem_singleton_self _)).1.trans rfl⟩

end FieldRules
