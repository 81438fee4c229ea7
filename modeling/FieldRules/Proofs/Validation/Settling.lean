import FieldRules.Proofs.Validation.Fields
import Mathlib.Logic.Relation

/-!
# Proofs — Settling

The fields of a record as coroutines that write to one board. A step lets any one of them go on,
so a run is any interleaving, with any number of suspensions in each custom validator. What has
been written and what is still to come are together the outcomes of the fields (`Board.Sound`),
at every board that is reached; so only the order of the details depends on the run.
-/

namespace FieldRules

open Relation (ReflTransGen)

/-! ## Coroutines -/

/-- A field that has not settled. -/
inductive Coroutine where
  /-- Its checks have not run. -/
  | fresh (p : Prepared)
  /-- A custom validator that goes on as often before it says what it thinks of the value. -/
  | suspended (p : Prepared) (f : Handle) (value : Value) (left : Nat)

namespace Coroutine

def prepared : Coroutine → Prepared
  | fresh p => p
  | suspended p _ _ _ => p

/-- The violation with which the field is going to settle. -/
def pending (validators : Validators) (record : Dict) : Coroutine → Option Violation
  | fresh p => p.outcome validators record
  | suspended p f value _ => Running.violation? validators record ⟨p, .asking f value⟩

/-- The entry that the coroutine is going to write. -/
def detail? (validators : Validators) (record : Dict) (c : Coroutine) :
    Option (String × Violation) :=
  (c.pending validators record).map fun d => (c.prepared.field, d)

/-- The coroutine can go on. -/
def IsReady (record : Dict) : Coroutine → Prop
  | fresh p => p.rule.Compiled p.pattern ∧ p.IsDecided record
  | suspended _ _ _ _ => True

end Coroutine

/-! ## Runs -/

/-- The fields that have not settled, and the violations of those that have. -/
structure Board where
  running : List Coroutine
  details : Named Violation

/-- Writes the violation of a field, if it has one. -/
def Board.write (field : String) (violation? : Option Violation) (details : Named Violation) :
    Named Violation :=
  match violation? with
  | some d => Named.put field d details
  | none => details

/-- One of the coroutines goes on. -/
inductive Board.Step (validators : Validators) (data : Value) (record : Dict) :
    Board → Board → Prop
  /-- The checks run and leave nothing to a custom validator. -/
  | settle {before after p violation? details} (h : p.start data = .ok (.settled violation?)) :
      Step validators data record ⟨before ++ .fresh p :: after, details⟩
        ⟨before ++ after, write p.field violation? details⟩
  /-- The checks run and a custom validator is asked. -/
  | ask {before after p f value details} (left : Nat)
      (h : p.start data = .ok (.asking f value)) :
      Step validators data record ⟨before ++ .fresh p :: after, details⟩
        ⟨before ++ .suspended p f value left :: after, details⟩
  /-- A custom validator is resumed and suspended again. -/
  | resume {before after p f value left details} :
      Step validators data record ⟨before ++ .suspended p f value (left + 1) :: after, details⟩
        ⟨before ++ .suspended p f value left :: after, details⟩
  /-- A custom validator says what it thinks. -/
  | decide {before after p f value details} :
      Step validators data record ⟨before ++ .suspended p f value 0 :: after, details⟩
        ⟨before ++ after,
          write p.field (((validators f).verdict value record).violation? p.rule p.field) details⟩

/-- A board is reached from the one on which nothing has run. -/
def Board.Reached (validators : Validators) (data : Value) (record : Dict)
    (prepared : List Prepared) : Board → Prop :=
  ReflTransGen (Step validators data record) ⟨prepared.map .fresh, []⟩

/-- The details that are on the board when all fields have settled in one of the possible
orders. -/
def Settles (validators : Validators) (data : Value) (record : Dict) (prepared : List Prepared)
    (details : Named Violation) : Prop :=
  Board.Reached validators data record prepared ⟨[], details⟩

/-! ## The board -/

namespace Board

variable {validators : Validators} {data : Value} {record : Dict} {prepared : List Prepared}

theorem write_of_not_mem {field : String} {violation? : Option Violation}
    {details : Named Violation} (h : field ∉ Named.names details) :
    write field violation? details =
      details ++ (violation?.map fun d => (field, d)).toList := by
  cases violation? with
  | none => simp [write]
  | some d => exact Named.put_of_not_mem d h

/-- What is written and what is to come are the outcomes of the fields, and no two of them have
one name. -/
structure Sound (validators : Validators) (record : Dict) (prepared : List Prepared)
    (board : Board) : Prop where
  ready : ∀ c ∈ board.running, c.IsReady record
  names : (Named.names board.details ++ board.running.map (·.prepared.field)).Nodup
  entries : (board.details ++ board.running.filterMap (·.detail? validators record)).Perm
    ((prepared.map Coroutine.fresh).filterMap (·.detail? validators record))

theorem sound_start (hnodup : (prepared.map (·.field)).Nodup)
    (hc : ∀ p ∈ prepared, p.rule.Compiled p.pattern)
    (hd : ∀ p ∈ prepared, p.IsDecided record) :
    Sound validators record prepared ⟨prepared.map .fresh, []⟩ where
  ready := by
    intro c hmem
    obtain ⟨p, hp, rfl⟩ := List.mem_map.mp hmem
    exact ⟨hc p hp, hd p hp⟩
  names := by
    rw [List.map_map]
    exact hnodup
  entries := .rfl

variable {before after : List Coroutine} {c : Coroutine} {details : Named Violation}

namespace Sound

theorem field_not_mem (h : Sound validators record prepared ⟨before ++ c :: after, details⟩) :
    c.prepared.field ∉ Named.names details := by
  intro hmem
  have hdisjoint := (List.nodup_append.mp h.names).2.2 _ hmem
  exact hdisjoint c.prepared.field (List.mem_map.mpr ⟨c, by simp, rfl⟩) rfl

/-- A coroutine that settles writes what was to come of it. -/
theorem settle (h : Sound validators record prepared ⟨before ++ c :: after, details⟩) :
    Sound validators record prepared
      ⟨before ++ after, write c.prepared.field (c.pending validators record) details⟩ := by
  have hwrite : write c.prepared.field (c.pending validators record) details =
      details ++ (c.detail? validators record).toList := write_of_not_mem h.field_not_mem
  rw [hwrite]
  refine ⟨fun c' hc' => h.ready c' ?_, ?_, ?_⟩
  · rcases List.mem_append.mp hc' with hmem | hmem <;> simp [hmem]
  -- the name moves from the running fields to the details, or goes away
  · have hsub : (Named.names (c.detail? validators record).toList).Sublist [c.prepared.field] := by
      unfold Coroutine.detail?
      cases c.pending validators record <;> simp [Named.names]
    have hmiddle : (Named.names details ++
        ([c.prepared.field] ++ (before ++ after).map (·.prepared.field))).Nodup := by
      refine (List.Perm.nodup_iff (List.Perm.append_left _ ?_)).mp h.names
      rw [List.map_append, List.map_append, List.map_cons]
      exact List.perm_middle
    refine List.Nodup.sublist ?_ hmiddle
    rw [Named.names, List.map_append, List.append_assoc]
    exact (hsub.append_right _).append_left _
  · refine List.Perm.trans ?_ h.entries
    rw [List.append_assoc, List.filterMap_append, List.filterMap_append]
    refine List.Perm.append_left _ (List.perm_append_comm_assoc _ _ _ |>.trans ?_)
    cases he : c.detail? validators record <;> simp [he]

/-- A coroutine that goes on without settling changes nothing. -/
theorem keep {c' : Coroutine}
    (h : Sound validators record prepared ⟨before ++ c :: after, details⟩)
    (hready : c'.IsReady record) (hprepared : c'.prepared = c.prepared)
    (hpending : c'.pending validators record = c.pending validators record) :
    Sound validators record prepared ⟨before ++ c' :: after, details⟩ where
  ready := by
    intro a ha
    rcases List.mem_append.mp ha with hmem | hmem
    · exact h.ready a (by simp [hmem])
    · rcases List.mem_cons.mp hmem with rfl | hmem
      · exact hready
      · exact h.ready a (by simp [hmem])
  names := by
    simpa [hprepared] using h.names
  entries := by
    have hentry : c'.detail? validators record = c.detail? validators record := by
      rw [Coroutine.detail?, Coroutine.detail?, hprepared, hpending]
    simpa [List.filterMap_cons, hentry] using h.entries

end Sound

/-- The checks of a field that is ready leave it where its stage says. -/
theorem stage_of_start (hdata : data.record = .ok record) {p : Prepared}
    (hready : (Coroutine.fresh p).IsReady record) {stage : Stage}
    (h : p.start data = .ok stage) : p.stage record = stage := by
  rw [Prepared.start_eq_ok hdata hready.1 hready.2] at h
  exact Except.ok.inj h

/-- **Every step keeps the board sound.** -/
theorem Step.sound {board board' : Board} (hdata : data.record = .ok record)
    (hstep : Step validators data record board board')
    (h : Sound validators record prepared board) : Sound validators record prepared board' := by
  cases hstep with
  | @settle before after p violation? details hstart =>
      have hstage := stage_of_start hdata (h.ready (.fresh p) (by simp)) hstart
      have hpending : (Coroutine.fresh p).pending validators record = violation? := by
        rw [Coroutine.pending, ← Prepared.violation?_stage, hstage]
        rfl
      rw [← hpending]
      exact h.settle
  | @ask before after p f value details left hstart =>
      have hstage := stage_of_start hdata (h.ready (.fresh p) (by simp)) hstart
      refine h.keep trivial rfl ?_
      rw [Coroutine.pending, Coroutine.pending, ← Prepared.violation?_stage, hstage]
  | resume => exact h.keep trivial rfl rfl
  | decide => exact h.settle

/-- **Every board that is reached is sound.** -/
theorem Reached.sound {board : Board} (hdata : data.record = .ok record)
    (hstart : Sound validators record prepared ⟨prepared.map .fresh, []⟩)
    (h : Reached validators data record prepared board) :
    Sound validators record prepared board := by
  induction h with
  | refl => exact hstart
  | tail _ hstep ih => exact hstep.sound hdata ih

/-! ## Possible orders -/

/-- A coroutine that is ready can settle while the others wait. -/
theorem settle_alone (validators : Validators) (before after : List Coroutine)
    (details : Named Violation) (hdata : data.record = .ok record)
    (hready : c.IsReady record) :
    ReflTransGen (Step validators data record) ⟨before ++ c :: after, details⟩
      ⟨before ++ after, write c.prepared.field (c.pending validators record) details⟩ := by
  have hanswer : ∀ p f value left,
      ReflTransGen (Step validators data record)
        ⟨before ++ .suspended p f value left :: after, details⟩
        ⟨before ++ after,
          write p.field (((validators f).verdict value record).violation? p.rule p.field)
            details⟩ := by
    intro p f value left
    induction left with
    | zero => exact .single .decide
    | succ left ih => exact .head .resume ih
  cases c with
  | suspended p f value left => exact hanswer p f value left
  | fresh p =>
      have hstart := Prepared.start_eq_ok hdata hready.1 hready.2
      have hpending : (Coroutine.fresh p).pending validators record =
          Running.violation? validators record ⟨p, p.stage record⟩ :=
        Prepared.violation?_stage.symm
      rw [hpending]
      cases hs : p.stage record with
      | settled violation? => exact .single (.settle (hs ▸ hstart))
      | asking f value => exact .head (.ask 0 (hs ▸ hstart)) (hanswer p f value 0)

/-- **The fields can settle in every order.** -/
theorem settle_in_order (hdata : data.record = .ok record) {order running : List Coroutine}
    (horder : order.Perm running) (h : Sound validators record prepared ⟨running, details⟩) :
    ReflTransGen (Step validators data record) ⟨running, details⟩
      ⟨[], details ++ order.filterMap (·.detail? validators record)⟩ := by
  -- the induction is on the order; the others keep their places while a coroutine settles
  induction order generalizing running details with
  | nil =>
      rw [List.nil_perm.mp horder, List.filterMap_nil, List.append_nil]
  | cons c order ih =>
      obtain ⟨before, after, rfl⟩ := List.append_of_mem (horder.subset (List.mem_cons_self ..))
      have hrest : order.Perm (before ++ after) :=
        (List.perm_cons c).mp (horder.trans List.perm_middle)
      have hwrite : write c.prepared.field (c.pending validators record) details =
          details ++ (c.detail? validators record).toList := write_of_not_mem h.field_not_mem
      have hone := settle_alone validators before after details hdata (h.ready c (by simp))
      have hsound := h.settle
      rw [hwrite] at hone hsound
      have hall := hone.trans (ih hrest hsound)
      rw [List.append_assoc] at hall
      cases he : c.detail? validators record <;> simpa [he] using hall

end Board

/-! ## The details of a run -/

section

open Board

variable {validators : Validators} {data : Value} {record : Dict} {prepared : List Prepared}
  {entries : Rules} {details : Named Violation}

/-- The details of a validation by field. -/
def Validation.byField (v : Validation) : Named Violation :=
  v.details.map fun d => (d.field, d)

theorem Coroutine.detail?_fresh (p : Prepared) :
    (Coroutine.fresh p).detail? validators record =
      (p.outcome validators record).map fun d => (d.field, d) := by
  show (p.outcome validators record).map (fun d => (p.field, d)) = _
  cases ho : p.outcome validators record with
  | none => rfl
  | some d => rw [Option.map_some, Option.map_some, Prepared.field_of_outcome ho]

/-- The order in which `validate` lets the fields settle is one of the possible ones. -/
theorem settles_settledDetails (hdata : data.record = .ok record)
    (hstart : Sound validators record prepared ⟨prepared.map .fresh, []⟩) :
    Settles validators data record prepared
      (Validation.byField ⟨Validation.settledDetails validators record prepared⟩) := by
  have hperm : (Validation.settlingOrder validators
      (prepared.map (Validation.runningOf record))).Perm
      (prepared.map (Validation.runningOf record)) := List.mergeSort_perm _ _
  -- the fields as `run` sorts them, each as the coroutine that it was in the beginning
  have horder := hperm.map fun r => Coroutine.fresh r.prepared
  rw [List.map_map] at horder
  have hrun := settle_in_order hdata (horder.trans (.of_eq rfl)) hstart
  have hdetails : Validation.byField ⟨Validation.settledDetails validators record prepared⟩ =
      ((Validation.settlingOrder validators (prepared.map (Validation.runningOf record))).map
        fun r => Coroutine.fresh r.prepared).filterMap (·.detail? validators record) := by
    rw [Validation.byField, Validation.settledDetails, List.map_filterMap, List.filterMap_map]
    refine List.filterMap_congr fun r hr => ?_
    obtain ⟨p, -, rfl⟩ := List.mem_map.mp (hperm.subset hr)
    rw [Validation.runningOf, Prepared.violation?_stage]
    exact (Coroutine.detail?_fresh p).symm
  rw [Settles, hdetails]
  exact hrun

/-- What is on the board in the end is the outcome of some field, under its name. -/
theorem mem_iff_of_settles (hdata : data.record = .ok record)
    (hstart : Sound validators record prepared ⟨prepared.map .fresh, []⟩)
    (h : Settles validators data record prepared details) {e : String × Violation} :
    e ∈ details ↔
      ∃ p ∈ prepared, p.outcome validators record = some e.2 ∧ p.field = e.1 := by
  have hperm := (Reached.sound hdata hstart h).entries
  rw [List.filterMap_nil, List.append_nil] at hperm
  rw [hperm.mem_iff, List.filterMap_map, List.mem_filterMap]
  refine exists_congr fun p => and_congr_right fun _ => ?_
  obtain ⟨name, d⟩ := e
  simp [Coroutine.detail?, Coroutine.pending, Coroutine.prepared]

/-- **In the end each field has its own outcome.** -/
theorem lookup_of_settles (hdata : data.record = .ok record)
    (hnodup : (prepared.map (·.field)).Nodup)
    (hstart : Sound validators record prepared ⟨prepared.map .fresh, []⟩)
    (h : Settles validators data record prepared details) {p : Prepared} (hp : p ∈ prepared) :
    details.lookup p.field = p.outcome validators record := by
  have hnames := (Reached.sound hdata hstart h).names
  rw [List.map_nil, List.append_nil] at hnames
  refine Option.ext fun d => ?_
  rw [Named.lookup_eq_some hnames, mem_iff_of_settles hdata hstart h]
  constructor
  -- no two fields have one name, so the entry under it is that of the field itself
  · rintro ⟨q, hq, hqd, hfield⟩
    rwa [← List.inj_on_of_nodup_map hnodup hq hp hfield]
  · intro hd
    exact ⟨p, hp, hd, rfl⟩

/-! ## Fields validated alone -/

/-- The validation of a record against the rule of one field. -/
def validateAlone (validators : Validators) (data : Value) (e : Value × Value) :
    Traced Validation :=
  validate validators data (.dict [e])

/-- The details of a field that is validated alone, by field. -/
def alone (validators : Validators) (data : Value) (e : Value × Value) : Named Violation :=
  match (validateAlone validators data e).outcome with
  | .ok v => v.byField
  | .error _ => []

theorem validateAlone_outcome (hdata : data.record = .ok record) {p : Prepared}
    {e : Value × Value} (hmake : (Prepared.make e.1 e.2).outcome = .ok p)
    (hdecided : p.IsDecided record) :
    (validateAlone validators data e).outcome =
      .ok ⟨(p.outcome validators record).toList⟩ := by
  have hall : (Prepared.all [e]).outcome = .ok [p] :=
    Prepared.all_eq_ok.mpr (.cons hmake .nil)
  have hcompiled : ∀ q ∈ [p], q.rule.Compiled q.pattern := by
    simpa using Prepared.compiled_of_make hmake
  rw [validateAlone, Validation.validate_outcome rfl hall,
    Validation.run_outcome_eq_ok hdata hcompiled (by simpa using hdecided),
    Validation.settledDetails, Validation.settlingOrder, List.map_singleton,
    List.mergeSort_singleton, List.filterMap_cons, Validation.runningOf, Prepared.violation?_stage]
  cases p.outcome validators record <;> rfl

/-- The fields that are validated alone have, one after the other, the outcomes of the fields. -/
theorem flatMap_alone (hdata : data.record = .ok record)
    (hprepared : (Prepared.all entries).outcome = .ok prepared)
    (hdecided : ∀ p ∈ prepared, p.IsDecided record) :
    entries.flatMap (alone validators data) =
      (prepared.map Coroutine.fresh).filterMap (·.detail? validators record) := by
  have hall := Prepared.all_eq_ok.mp hprepared
  clear hprepared
  induction hall with
  | nil => rfl
  | @cons e p entries prepared hmake _ ih =>
      rw [List.flatMap_cons, ih fun q hq => hdecided q (by simp [hq]), alone,
        validateAlone_outcome hdata hmake (hdecided p (by simp)), List.map_cons,
        List.filterMap_cons, Coroutine.detail?_fresh]
      cases p.outcome validators record <;> rfl

end

open Board in
/-- **The fields of a record do not influence each other.** -/
theorem validate_settles (validators : Validators) {data rules : Value} {record : Dict}
    {entries : Rules} {prepared : List Prepared} (hdata : data.record = .ok record)
    (hrules : rules.entries = .ok entries) (hnames : (Rules.names entries).Nodup)
    (hprepared : (Prepared.all entries).outcome = .ok prepared)
    (hdecided : ∀ p ∈ prepared, p.IsDecided record) :
    -- the validation is one of the possible runs, and every run can be completed
    (∃ v, (validate validators data rules).outcome = .ok v ∧
      Settles validators data record prepared v.byField) ∧
    (∀ board, Reached validators data record prepared board →
      ∃ details, ReflTransGen (Step validators data record) board ⟨[], details⟩) ∧
    ∀ details, Settles validators data record prepared details →
      -- as a map the details are the union over the fields
      (Named.names details).Nodup ∧
      details.Perm (entries.flatMap (alone validators data)) ∧
      (∀ e ∈ entries, ∃ v, (validateAlone validators data e).outcome = .ok v ∧
        details.lookup e.1.display = v.details.head?) ∧
      (∀ e ∈ details, e.2.field = e.1 ∧ e.1 ∈ Rules.names entries) ∧
      -- other custom validators leave the fields alone for which they say the same
      ∀ validators' details', Settles validators' data record prepared details' →
        ∀ p ∈ prepared,
          (∀ f, p.rule.validate = some f →
            p.verdict validators' record f = p.verdict validators record f) →
          details'.lookup p.field = details.lookup p.field := by
  have hcompiled : ∀ p ∈ prepared, p.rule.Compiled p.pattern :=
    fun p hp => Prepared.compiled_of_mem_all hprepared hp
  have hfields := Prepared.fields_of_all hprepared
  have hnodup : (prepared.map (·.field)).Nodup := by
    rw [hfields]
    exact hnames
  have hstart (vs : Validators) : Sound vs record prepared ⟨prepared.map .fresh, []⟩ :=
    sound_start hnodup hcompiled hdecided
  refine ⟨⟨_, ?_, settles_settledDetails hdata (hstart validators)⟩, fun board hboard => ?_,
    fun details hdetails => ⟨?_, ?_, fun e he => ?_, fun e he => ?_, ?_⟩⟩
  · rw [Validation.validate_outcome hrules hprepared]
    exact Validation.run_outcome_eq_ok hdata hcompiled hdecided
  · exact ⟨_, settle_in_order hdata .rfl (hboard.sound hdata (hstart validators))⟩
  · simpa using (Reached.sound hdata (hstart validators) hdetails).names
  · rw [flatMap_alone hdata hprepared hdecided]
    simpa using (Reached.sound hdata (hstart validators) hdetails).entries
  · obtain ⟨p, hp, hmake⟩ := Prepared.exists_of_mem_entries hprepared he
    refine ⟨_, validateAlone_outcome hdata hmake (hdecided p hp), ?_⟩
    have hfield : p.field = e.1.display := congrArg Value.display (Prepared.make_eq_ok.mp hmake).1
    rw [← hfield, lookup_of_settles hdata hnodup (hstart validators) hdetails hp]
    cases p.outcome validators record <;> rfl
  · obtain ⟨p, hp, hout, hfield⟩ :=
      (mem_iff_of_settles hdata (hstart validators) hdetails).mp he
    rw [← hfields, ← hfield]
    exact ⟨Prepared.field_of_outcome hout, List.mem_map_of_mem hp⟩
  · intro validators' details' hdetails' p hp hverdict
    rw [lookup_of_settles hdata hnodup (hstart validators) hdetails hp,
      lookup_of_settles hdata hnodup (hstart validators') hdetails' hp]
    exact Prepared.outcome_congr hverdict

/-- A validator that is suspended twice and then refuses, and one that fails at once. -/
def slowAndFailing : Validators := fun f =>
  if f = ⟨0⟩ then ⟨2, fun _ _ => .returned (.bool false)⟩ else ⟨0, fun _ _ => .raised⟩

/-- A rule that only has a custom validator. -/
def customRule (f : Handle) : Rule :=
  { Rule.empty with validate := some f }

/-- The one that fails does not keep the slow one from being heard. -/
theorem validate_settles_slow :
    ∃ details,
      Settles slowAndFailing (.dict [(.text "name", .text "x"), (.text "mail", .text "y")])
        [(.text "name", .text "x"), (.text "mail", .text "y")]
        [⟨.text "name", customRule ⟨0⟩, none⟩, ⟨.text "mail", customRule ⟨1⟩, none⟩] details ∧
      details.lookup "name" =
        some ⟨"name", "custom", .text "Invalid value", .customRuleFailed⟩ := by
  have hdata : (Value.dict [(.text "name", .text "x"), (.text "mail", .text "y")]).record =
      .ok [(.text "name", .text "x"), (.text "mail", .text "y")] := rfl
  have hrules : (Value.dict [(.text "name", .rule (customRule ⟨0⟩)),
      (.text "mail", .rule (customRule ⟨1⟩))]).entries =
      .ok [(.text "name", .rule (customRule ⟨0⟩)), (.text "mail", .rule (customRule ⟨1⟩))] := rfl
  have hdecided : ∀ p ∈ [Prepared.mk (.text "name") (customRule ⟨0⟩) none,
      Prepared.mk (.text "mail") (customRule ⟨1⟩) none],
      p.IsDecided [(.text "name", .text "x"), (.text "mail", .text "y")] := by
    intro p hp
    rcases List.mem_cons.mp hp with rfl | hp
    · exact ⟨_, rfl⟩
    · rw [List.mem_singleton.mp hp]
      exact ⟨_, rfl⟩
  obtain ⟨⟨v, -, hsettles⟩, -, hall⟩ :=
    validate_settles slowAndFailing hdata hrules (by decide) rfl hdecided
  obtain ⟨-, -, hlookup, -⟩ := hall _ hsettles
  obtain ⟨w, hw, hname⟩ := hlookup _ (List.mem_cons_self ..)
  rw [validateAlone_outcome hdata rfl (hdecided _ (List.mem_cons_self ..))] at hw
  refine ⟨_, hsettles, hname.trans ?_⟩
  rw [← Except.ok.inj hw]
  rfl

end FieldRules
