import FieldRules.Proofs.Validation.Calls

/-!
# Proofs — Ledger

The calls of custom validators along any run. A ledger is a board with the calls that have been
made; a step lets one field go on, and what a validator says is left open, as is the number of its
suspensions. The calls made and the calls still owed are together those of all fields
(`Ledger.Balanced`), at every ledger that is reached, so at the end of every run each field has
had the call that it owes, once (`Reached.calledFor`). With the calls of `validate` itself and the
patterns that are refused before any call this is `validate_calls`.
-/

namespace FieldRules

open Relation (ReflTransGen)

/-- The call that a coroutine still owes. -/
def Coroutine.owed? (record : Dict) : Coroutine → Option Call
  | fresh p => p.call? record
  | suspended _ _ _ _ => none

/-- The fields that have not settled, the violations of those that have, and the calls made. -/
structure Ledger where
  board : Board
  calls : List Call

namespace Ledger

/-! ## Runs -/

/-- One of the coroutines goes on. A custom validator is called when it is asked; it may be
suspended any number of times, and then say anything. -/
inductive Step (data : Value) (record : Dict) : Ledger → Ledger → Prop
  | settle {before after p violation? details calls}
      (h : p.start data = .ok (.settled violation?)) :
      Step data record ⟨⟨before ++ .fresh p :: after, details⟩, calls⟩
        ⟨⟨before ++ after, Board.write p.field violation? details⟩, calls⟩
  | ask {before after p f value details calls} (left : Nat)
      (h : p.start data = .ok (.asking f value)) :
      Step data record ⟨⟨before ++ .fresh p :: after, details⟩, calls⟩
        ⟨⟨before ++ .suspended p f value left :: after, details⟩,
          calls ++ [⟨p.field, f, value, record⟩]⟩
  | resume {before after p f value left details calls} :
      Step data record ⟨⟨before ++ .suspended p f value (left + 1) :: after, details⟩, calls⟩
        ⟨⟨before ++ .suspended p f value left :: after, details⟩, calls⟩
  | decide {before after p f value details calls} (verdict : Verdict) :
      Step data record ⟨⟨before ++ .suspended p f value 0 :: after, details⟩, calls⟩
        ⟨⟨before ++ after, Board.write p.field (verdict.violation? p.rule p.field) details⟩, calls⟩

/-- A ledger is reached from the one on which nothing has run. -/
def Reached (data : Value) (record : Dict) (prepared : List Prepared) : Ledger → Prop :=
  ReflTransGen (Step data record) ⟨⟨prepared.map .fresh, []⟩, []⟩

/-! ## The books -/

variable {validators : Validators} {data : Value} {record : Dict} {prepared : List Prepared}

/-- The calls made and the calls still owed are together those of all fields. -/
structure Balanced (record : Dict) (prepared : List Prepared) (ledger : Ledger) : Prop where
  compiled : ∀ p, Coroutine.fresh p ∈ ledger.board.running → p.rule.Compiled p.pattern
  calls : (ledger.calls ++ ledger.board.running.filterMap (·.owed? record)).Perm
    (prepared.filterMap (·.call? record))

theorem balanced_start (hc : ∀ p ∈ prepared, p.rule.Compiled p.pattern) :
    Balanced record prepared ⟨⟨prepared.map .fresh, []⟩, []⟩ where
  compiled := by
    intro p hp
    obtain ⟨_, hq, ⟨⟩⟩ := List.mem_map.mp hp
    exact hc p hq
  calls := by
    rw [List.nil_append, List.filterMap_map]
    exact .rfl

/-- A field that starts owes the call that its stage asks for. -/
theorem call?_of_start (hdata : data.record = .ok record) {p : Prepared} {stage : Stage}
    (hc : p.rule.Compiled p.pattern) (h : p.start data = .ok stage) :
    p.call? record = Running.call? record ⟨p, stage⟩ := by
  have hdecided : p.IsDecided record := by
    refine Classical.byContradiction fun hd => ?_
    obtain ⟨e, he⟩ := Prepared.start_eq_error hdata hc hd
    rw [he] at h
    cases h
  rw [Prepared.start_eq_ok hdata hc hdecided] at h
  rw [← Except.ok.inj h, Prepared.call?_stage]

variable {before after : List Coroutine} {c : Coroutine} {details details' : Named Violation}
  {calls : List Call}

namespace Balanced

/-- A coroutine that settles without a call must not have owed one. -/
theorem settle (h : Balanced record prepared ⟨⟨before ++ c :: after, details⟩, calls⟩)
    (howed : c.owed? record = none) :
    Balanced record prepared ⟨⟨before ++ after, details'⟩, calls⟩ where
  compiled := by
    intro p hp
    refine h.compiled p ?_
    rcases List.mem_append.mp hp with hmem | hmem <;> simp [hmem]
  calls := by
    simpa [List.filterMap_append, List.filterMap_cons, howed] using h.calls

/-- A coroutine that goes on and owes nothing any more has paid what it owed. -/
theorem pay {d : Coroutine}
    (h : Balanced record prepared ⟨⟨before ++ c :: after, details⟩, calls⟩)
    (hfresh : ∀ q, d ≠ .fresh q) (hpaid : d.owed? record = none) :
    Balanced record prepared
      ⟨⟨before ++ d :: after, details⟩, calls ++ (c.owed? record).toList⟩ where
  compiled := by
    intro q hq
    rcases List.mem_append.mp hq with hmem | hmem
    · exact h.compiled q (by simp [hmem])
    · rcases List.mem_cons.mp hmem with heq | hmem
      · exact absurd heq.symm (hfresh q)
      · exact h.compiled q (by simp [hmem])
  calls := by
    refine List.Perm.trans ?_ h.calls
    cases howed : c.owed? record with
    | none => simp [List.filterMap_append, hpaid, howed]
    | some call =>
        simp only [List.filterMap_append, List.filterMap_cons, hpaid, howed, Option.toList_some,
          List.append_assoc, List.singleton_append]
        exact List.Perm.append_left _ List.perm_middle.symm

end Balanced

/-- **Every step keeps the books balanced.** -/
theorem Step.balanced {ledger ledger' : Ledger} (hdata : data.record = .ok record)
    (hstep : Step data record ledger ledger') (h : Balanced record prepared ledger) :
    Balanced record prepared ledger' := by
  cases hstep with
  | @settle before after p violation? details calls hstart =>
      exact h.settle (call?_of_start hdata (h.compiled p (by simp)) hstart)
  | @ask before after p f value details calls left hstart =>
      have howed : (Coroutine.fresh p).owed? record = some ⟨p.field, f, value, record⟩ :=
        call?_of_start hdata (h.compiled p (by simp)) hstart
      have hpaid := h.pay (d := .suspended p f value left) (fun _ => Coroutine.noConfusion) rfl
      rwa [howed] at hpaid
  | @resume before after p f value left details calls =>
      have hpaid := h.pay (d := .suspended p f value left) (fun _ => Coroutine.noConfusion) rfl
      rwa [Coroutine.owed?, Option.toList_none, List.append_nil] at hpaid
  | decide verdict => exact h.settle rfl

/-- **The books are balanced on every ledger that is reached.** -/
theorem Reached.balanced {ledger : Ledger} (hdata : data.record = .ok record)
    (hc : ∀ p ∈ prepared, p.rule.Compiled p.pattern)
    (h : Reached data record prepared ledger) : Balanced record prepared ledger := by
  induction h with
  | refl => exact balanced_start hc
  | tail _ hstep ih => exact hstep.balanced hdata ih

/-- **When all fields have settled, each has had the call that it owes.** -/
theorem Reached.calledFor {ledger : Ledger} (hdata : data.record = .ok record)
    (hnodup : (prepared.map (·.field)).Nodup)
    (hc : ∀ p ∈ prepared, p.rule.Compiled p.pattern)
    (h : Reached data record prepared ledger) (hdone : ledger.board.running = []) :
    CalledFor record prepared ledger.calls := by
  have hcalls := (h.balanced hdata hc).calls
  rw [hdone, List.filterMap_nil, List.append_nil] at hcalls
  exact Validation.calledFor_of_perm hnodup hcalls

/-! ## Boards with calls -/

/-- A step of the board, with validators that always say the same, is one of the ledger. -/
theorem exists_step {board board' : Board} (h : Board.Step validators data record board board')
    (calls : List Call) : ∃ calls', Step data record ⟨board, calls⟩ ⟨board', calls'⟩ := by
  cases h with
  | settle hstart => exact ⟨_, .settle hstart⟩
  | ask left hstart => exact ⟨_, .ask left hstart⟩
  | resume => exact ⟨_, .resume⟩
  | decide => exact ⟨_, .decide _⟩

/-- Every run of the board is one of the ledger. -/
theorem exists_reached {board : Board} (h : Board.Reached validators data record prepared board) :
    ∃ calls, Reached data record prepared ⟨board, calls⟩ := by
  induction h with
  | refl => exact ⟨[], .refl⟩
  | tail _ hstep ih =>
      obtain ⟨calls, hreached⟩ := ih
      obtain ⟨calls', hstep'⟩ := exists_step hstep calls
      exact ⟨calls', hreached.tail hstep'⟩

end Ledger

/-! ## Whole validations -/

section

variable {validators : Validators} {data rules : Value} {record : Dict} {entries : Rules}
  {prepared : List Prepared}

theorem validate_callsMade (hrules : rules.entries = .ok entries)
    (hprepared : (Prepared.all entries).outcome = .ok prepared) :
    (validate validators data rules).callsMade =
      (Validation.run validators data prepared).callsMade := by
  have hentries : (Traced.ofExcept rules.entries).outcome = .ok entries := hrules
  rw [validate, Traced.callsMade_bind_of_ok hentries, Traced.callsMade_bind_of_ok hprepared,
    Prepared.isSilent_all]
  rfl

/-- Rules that cannot be prepared end the validation before any call. -/
theorem validate_eq_error {fault : Fault} (hrules : rules.entries = .ok entries)
    (hprepared : (Prepared.all entries).outcome = .error fault) :
    (validate validators data rules).outcome = .error fault ∧
      (validate validators data rules).callsMade = [] := by
  have hentries : (Traced.ofExcept rules.entries).outcome = .ok entries := hrules
  constructor
  · rw [validate, Traced.outcome_bind, hentries]
    show (Prepared.all entries >>= _).outcome = _
    rw [Traced.outcome_bind, hprepared]
    rfl
  · rw [validate, Traced.callsMade_bind_of_ok hentries, Traced.callsMade_bind_of_error hprepared,
      Prepared.isSilent_all]
    rfl

end

open Ledger in
/-- **Each field has the call that it owes, once, and a refused pattern comes before all calls.** -/
theorem validate_calls (validators : Validators) {data rules : Value} {record : Dict}
    {entries : Rules} (hdata : data.record = .ok record) (hrules : rules.entries = .ok entries)
    (hnames : (Rules.names entries).Nodup)
    (hnormal : ∀ e ∈ entries, ∃ r, (Rule.normalize e.2).outcome = .ok r)
    (hcompiler : ∀ e ∈ entries, PatternDecided e) :
    -- the first refused pattern is reported, and nothing is called
    ((∃ e ∈ entries, PatternRefused e) →
      ∃ before e after source flaw position, entries = before ++ e :: after ∧
        (∀ b ∈ before, ¬ PatternRefused b) ∧ PatternFlawed e source flaw position ∧
        (validate validators data rules).outcome =
          .error (patternReport e.1 source flaw position) ∧
        (validate validators data rules).callsMade = []) ∧
    ((∀ e ∈ entries, ¬ PatternRefused e) →
      ∃ prepared, (Prepared.all entries).outcome = .ok prepared ∧
        -- a validation that returns is one of the runs, and makes the calls that are owed
        (∀ v, (validate validators data rules).outcome = .ok v →
          CalledFor record prepared (validate validators data rules).callsMade ∧
          ∃ calls, Reached data record prepared ⟨⟨[], v.byField⟩, calls⟩) ∧
        -- and so does every run, whatever the validators say and however they are suspended
        ∀ ledger, Reached data record prepared ledger → ledger.board.running = [] →
          CalledFor record prepared ledger.calls) := by
  have hmake (e : Value × Value) (he : e ∈ entries) (h : ¬ PatternRefused e) :
      ∃ p, (Prepared.make e.1 e.2).outcome = .ok p := by
    rw [Prepared.exists_make (patternCompiles_of_not_refused (hcompiler e he) h),
      ← Rule.normalize_eq_ok]
    exact hnormal e he
  constructor
  · intro hrefused
    obtain ⟨before, e, after, rfl, hbefore, source, flaw, position, hflawed⟩ :=
      exists_first hrefused
    have hall := Prepared.all_eq_error after
      (fun b hb => hmake b (by simp [hb]) (hbefore b hb)) hflawed.make_eq_error
    exact ⟨before, e, after, source, flaw, position, rfl, hbefore, hflawed,
      validate_eq_error hrules hall⟩
  · intro hrefused
    obtain ⟨prepared, hprepared⟩ := Prepared.exists_all.mpr fun e he => hmake e he (hrefused e he)
    have hcompiled : ∀ p ∈ prepared, p.rule.Compiled p.pattern :=
      fun p hp => Prepared.compiled_of_mem_all hprepared hp
    have hnodup : (prepared.map (·.field)).Nodup := by
      rw [Prepared.fields_of_all hprepared]
      exact hnames
    refine ⟨prepared, hprepared, fun v hv => ?_, fun ledger hreached hdone =>
      hreached.calledFor hdata hnodup hcompiled hdone⟩
    rw [Validation.validate_outcome hrules hprepared] at hv
    have hdecided := (Validation.exists_run hdata hcompiled).mp ⟨v, hv⟩
    rw [Validation.run_outcome_eq_ok hdata hcompiled hdecided] at hv
    rw [validate_callsMade hrules hprepared, ← Except.ok.inj hv]
    have hsettles : Settles validators data record prepared _ :=
      settles_settledDetails hdata (Board.sound_start hnodup hcompiled hdecided)
    exact ⟨Validation.calledFor_of_perm hnodup
      (.of_eq (Validation.callsMade_run hdata hcompiled hdecided)),
      exists_reached hsettles⟩

/-- A name that is filled in, an address that is none, and a nickname that is left out. -/
def signup : Dict :=
  [(.text "name", .text "x"), (.text "mail", .text "nobody"), (.text "nick", .text "")]

/-- An address about which a custom validator is asked. -/
def askedMailRule : Rule := { customRule ⟨1⟩ with email := true }

def signupRules : Rules :=
  [(.text "name", .rule (customRule ⟨0⟩)), (.text "mail", .rule askedMailRule),
    (.text "nick", .rule (customRule ⟨1⟩))]

def signupPrepared : List Prepared :=
  [⟨.text "name", customRule ⟨0⟩, none⟩, ⟨.text "mail", askedMailRule, none⟩,
    ⟨.text "nick", customRule ⟨1⟩, none⟩]

/-- A rule with an open group for a pattern. -/
def openGroupRule : Rule := { customRule ⟨1⟩ with pattern := some (.source "(") }

def openGroupRules : Rules :=
  [(.text "name", .rule (customRule ⟨0⟩)), (.text "mail", .rule openGroupRule)]

/-- The compiler decides on a rule without a pattern, and on an open group. -/
theorem patternDecided_rule {key : Value} {r : Rule}
    (h : r.pattern = none ∨ r.pattern = some (.source "(")) :
    PatternDecided (key, .rule r) := by
  intro r' source refusal hr hpattern hrefused
  obtain rfl : r = r' := Except.ok.inj hr
  rcases h with h | h
  · rw [h] at hpattern
    cases hpattern
  · rw [h] at hpattern
    cases hpattern
    exact ⟨_, _, (Except.error.inj hrefused).symm⟩

theorem not_patternRefused_rule {key : Value} {r : Rule} (h : r.pattern = none) :
    ¬ PatternRefused (key, .rule r) := by
  rintro ⟨source, flaw, position, r', hr, hpattern, -⟩
  obtain rfl : r = r' := Except.ok.inj hr
  rw [h] at hpattern
  cases hpattern

/-- Only the name is asked about; and with an open group in the second rule, nothing is. -/
theorem validate_calls_signup :
    CalledFor signup signupPrepared (validate slowAndFailing (.dict signup)
      (.dict signupRules)).callsMade ∧
    signupPrepared.map (·.call? signup) = [some ⟨"name", ⟨0⟩, .text "x", signup⟩, none, none] ∧
    (validate slowAndFailing (.dict signup) (.dict openGroupRules)).callsMade =
      [] := by
  have hdata : (Value.dict signup).record = .ok signup := rfl
  have hrules : (Value.dict signupRules).entries = .ok signupRules := rfl
  have hpatterns : ∀ e ∈ signupRules, PatternDecided e ∧ ¬ PatternRefused e := by
    simp only [signupRules, List.forall_mem_cons]
    exact ⟨⟨patternDecided_rule (.inl rfl), not_patternRefused_rule rfl⟩,
      ⟨patternDecided_rule (.inl rfl), not_patternRefused_rule rfl⟩,
      ⟨patternDecided_rule (.inl rfl), not_patternRefused_rule rfl⟩, by simp⟩
  have hnormal : ∀ e ∈ signupRules, ∃ r, (Rule.normalize e.2).outcome = .ok r := by
    simp only [signupRules, List.forall_mem_cons]
    exact ⟨⟨_, rfl⟩, ⟨_, rfl⟩, ⟨_, rfl⟩, by simp⟩
  have hdecided : ∀ p ∈ signupPrepared, p.IsDecided signup := by
    simp only [signupPrepared, List.forall_mem_cons]
    exact ⟨⟨_, rfl⟩, ⟨_, rfl⟩, ⟨_, rfl⟩, by simp⟩
  refine ⟨?_, rfl, ?_⟩
  · obtain ⟨prepared, hprepared, hreturned, -⟩ :=
      (validate_calls slowAndFailing hdata hrules (by decide) hnormal
        fun e he => (hpatterns e he).1).2 fun e he => (hpatterns e he).2
    obtain rfl : signupPrepared = prepared := Except.ok.inj hprepared
    have hresult : (Validation.run slowAndFailing (.dict signup) signupPrepared).outcome =
        .ok ⟨Validation.settledDetails slowAndFailing signup signupPrepared⟩ :=
      Validation.run_outcome_eq_ok hdata
        (fun p hp => Prepared.compiled_of_mem_all hprepared hp) hdecided
    rw [← Validation.validate_outcome hrules hprepared] at hresult
    exact (hreturned _ hresult).1
  · have hrules' : (Value.dict openGroupRules).entries = .ok openGroupRules := rfl
    have hnormal' : ∀ e ∈ openGroupRules, ∃ r, (Rule.normalize e.2).outcome = .ok r := by
      simp only [openGroupRules, List.forall_mem_cons]
      exact ⟨⟨_, rfl⟩, ⟨_, rfl⟩, by simp⟩
    have hdecided' : ∀ e ∈ openGroupRules, PatternDecided e := by
      simp only [openGroupRules, List.forall_mem_cons]
      exact ⟨patternDecided_rule (.inl rfl), patternDecided_rule (.inr rfl), by simp⟩
    have hrefused : ∃ e ∈ openGroupRules, PatternRefused e :=
      ⟨(.text "mail", .rule openGroupRule), by simp [openGroupRules], "(", .unterminatedGroup,
        some 0, openGroupRule, rfl, rfl, rfl⟩
    obtain ⟨-, -, -, -, -, -, -, -, -, -, hcalls⟩ :=
      (validate_calls slowAndFailing hdata hrules' (by decide) hnormal' hdecided').1 hrefused
    exact hcalls

end FieldRules
