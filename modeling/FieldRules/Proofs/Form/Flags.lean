import FieldRules.Proofs.Check.Leaves
import FieldRules.Proofs.Form.Layering

/-!
# Proofs — Flags

What it takes to switch a check off. The single checks that a rule puts a value to are those that
its flags, bounds and pattern switch on (`Rule.singleChecks`), and a violation is a failure of one
of them. A flag that the rules of an entry refuse is off, whatever the entry says, unless it is a
format that the same rules declare as their type (`Builder.fieldRule_refused`): the declaration
counts more than the refusal.
-/

namespace FieldRules

open Builder (fieldRule)
open Rule (layered)

variable {entry d : Dict} {b q r : Rule} {x : Attribute} {c : Check} {code : ErrorCode}
  {k : Constraint} {field : String} {pattern : Option Pattern} {v : Value} {violation : Violation}

/-! ## Single checks -/

/-- The check that a flag switches on, and the code of its failures. -/
def Attribute.flag? : Attribute → Option (Check × ErrorCode)
  | .required => some (.required, .requiredFieldMissing)
  | .email => some (.email, .invalidEmail)
  | .url => some (.url, .invalidUrl)
  | .number => some (.number, .invalidNumber)
  | _ => none

/-- A check is switched on by one flag only. -/
theorem Attribute.flag?_inj {y : Attribute} {code' : ErrorCode} (hx : x.flag? = some (c, code))
    (hy : y.flag? = some (c, code')) : x = y := by
  cases x <;> cases hx <;> cases y <;> cases hy <;> rfl

namespace Rule

/-- The single checks that a rule puts a value to. -/
def singleChecks (r : Rule) (pattern : Option Pattern) : List Check :=
  (if r.required then [.required] else []) ++ (Check.allOf (r.checks pattern)).leaves.map (·.check)

/-- With a message of the rule a single check is a single check. -/
theorem map_check_leaves_withOwnMessage (r : Rule) (key : String) (hc : c.leaves = [⟨[], c⟩]) :
    (r.withOwnMessage key c).leaves.map (·.check) = [c] := by
  rw [withOwnMessage]
  cases Dict.get? r.messages key with
  | none => rw [hc, List.map_singleton]
  | some message => rw [Check.leaves, hc, List.map_singleton, List.map_singleton, Check.Leaf.under]

theorem singleChecks_eq (r : Rule) (pattern : Option Pattern) :
    r.singleChecks pattern =
      (if r.required then [.required] else []) ++ (r.constraints pattern).map Constraint.check := by
  have hleaves (ks : List Constraint) :
      (Check.leavesOfAll (ks.map r.ownCheck)).map (·.check) = ks.map Constraint.check := by
    induction ks with
    | nil => rfl
    | cons k ks ih =>
        have hk : k.check.leaves = [⟨[], k.check⟩] := by cases k <;> rfl
        rw [List.map_cons, Check.leavesOfAll, List.map_append, ownCheck,
          map_check_leaves_withOwnMessage r _ hk, ih]
        rfl
  rw [singleChecks, Check.leaves, checks_eq, hleaves]

/-- A constraint on the format is one of a flag that is on. -/
theorem holds_of_mem_constraints (hk : k ∈ r.constraints pattern)
    (hx : x.flag? = some (k.check, code)) : r.holds x = true := by
  have hformat : k ∈ if r.email then [Constraint.email] else if r.url then [.url]
      else if r.number then [.number] else [] := by
    simp only [constraints, List.mem_append, Option.mem_toList, Option.map_eq_some_iff] at hk
    cases k with
    | email | url | number => simpa using hk
    | _ => cases x <;> cases hx
  split at hformat
  · next hemail =>
      rw [List.mem_singleton.mp hformat] at hx
      rwa [Attribute.flag?_inj hx (y := .email) rfl]
  · split at hformat
    · next hurl =>
        rw [List.mem_singleton.mp hformat] at hx
        rwa [Attribute.flag?_inj hx (y := .url) rfl]
    · split at hformat
      · next hnumber =>
          rw [List.mem_singleton.mp hformat] at hx
          rwa [Attribute.flag?_inj hx (y := .number) rfl]
      · cases hformat

/-- A check that is run is switched on. -/
theorem holds_of_mem_singleChecks (hx : x.flag? = some (c, code))
    (hc : c ∈ r.singleChecks pattern) : r.holds x = true := by
  rw [singleChecks_eq, List.mem_append, List.mem_map] at hc
  rcases hc with hc | ⟨k, hk, rfl⟩
  · split at hc
    · next hrequired =>
        rw [List.mem_singleton.mp hc] at hx
        rwa [Attribute.flag?_inj hx (y := .required) rfl]
    · cases hc
  · exact holds_of_mem_constraints hk hx

theorem isWritable_of_checkValue {d? : Option Violation}
    (h : r.checkValue field pattern v = .ok d?) : v.isWritable = true := by
  by_contra hnot
  obtain ⟨e, he⟩ := checkValue_of_not_isWritable r field pattern (Bool.eq_false_iff.mpr hnot)
  rw [h] at he
  cases he

/-- The chain of checks is that of a pattern: the one that comes compiled, or that of the rule. -/
theorem exists_of_validator (h : r.validator pattern = .ok c) :
    ∃ compiled, c = .allOf (r.checks compiled) := by
  cases pattern with
  | some p => exact ⟨some p, (Except.ok.inj h).symm⟩
  | none =>
      obtain ⟨compiled, -, h⟩ := bind_eq_ok.mp h
      exact ⟨compiled, (Except.ok.inj h).symm⟩

/-- A tree fails with the code of a single check in it. -/
theorem exists_leaf_of_run {f : Failure} (h : c.run v = .ok (some f)) :
    ∃ s ∈ c.leaves.map (·.check), ∃ g, s.run v = .ok (some g) ∧ f.code = g.code := by
  obtain ⟨before, l, after, g, hleaves, -, hl, rfl⟩ := (Check.run_eq_some_iff c).mp h
  exact ⟨l.check, List.mem_map_of_mem (hleaves ▸ by simp), g, hl, rfl⟩

/-- **A violation comes from a single check** that the value is put to. -/
theorem exists_of_checkValue (h : r.checkValue field pattern v = .ok (some violation)) :
    ∃ compiled, ∃ s ∈ r.singleChecks compiled, ∃ f, s.run v = .ok (some f) ∧
      violation.code = f.code := by
  have hreported {x : Except Fault (Option Failure)}
      (hx : x.map (Option.map (Violation.ofFailure field)) = .ok (some violation)) :
      ∃ f, x = .ok (some f) ∧ violation.code = f.code := by
    cases x with
    | error e => cases hx
    | ok f? =>
        cases f? with
        | none => cases hx
        | some f => exact ⟨f, rfl, by rw [← Option.some.inj (Except.ok.inj hx)]; rfl⟩
  rw [checkValue_eq, bind_eq_ok] at h
  obtain ⟨d?, hpresence, h⟩ := h
  cases d? with
  | some _ =>
      obtain rfl := Option.some.inj (Except.ok.inj h)
      rw [requiredViolation_eq] at hpresence
      split at hpresence
      · next hrequired =>
          obtain ⟨f, hf, hcode⟩ := hreported hpresence
          obtain ⟨s, hs, g, hg, hcodeG⟩ := exists_leaf_of_run hf
          rw [map_check_leaves_withOwnMessage r _ rfl] at hs
          refine ⟨none, s, ?_, g, hg, hcode.trans hcodeG⟩
          rw [singleChecks, if_pos hrequired]
          exact List.mem_append_left _ hs
      · cases hpresence
  | none =>
      obtain ⟨empty, -, h⟩ := bind_eq_ok.mp h
      split at h
      · cases h
      · obtain ⟨f, hf, hcode⟩ := hreported h
        obtain ⟨tree, htree, hf⟩ := bind_eq_ok.mp hf
        obtain ⟨compiled, rfl⟩ := exists_of_validator htree
        obtain ⟨s, hs, g, hg, hcodeG⟩ := exists_leaf_of_run hf
        exact ⟨compiled, s, List.mem_append_right _ hs, g, hg, hcode.trans hcodeG⟩

/-- A failure of a single check has the code of the flag that switches the check on. -/
theorem flag?_of_code {f : Failure} {s : Check} (hx : x.flag? = some (c, f.code))
    (hw : v.isWritable = true) (hs : s ∈ r.singleChecks pattern) (hrun : s.run v = .ok (some f)) :
    s = c := by
  rw [singleChecks_eq, List.mem_append, List.mem_map] at hs
  rcases hs with hs | ⟨k, -, rfl⟩
  · have hrequired : s = .required := by
      split at hs
      · exact List.mem_singleton.mp hs
      · cases hs
    subst hrequired
    have hcode : f.code = .requiredFieldMissing := by
      rw [Check.run, Check.runRequired, isEmpty?_of_isWritable hw] at hrun
      by_cases hempty : v.isEmpty = true
      · rw [hempty] at hrun
        cases hrun
        rfl
      · rw [Bool.eq_false_iff.mpr hempty] at hrun
        cases hrun
    rw [hcode] at hx
    cases x <;> cases hx
    rfl
  · have hends := k.run_check hw
    rw [hrun] at hends
    cases hends with
    | failed _ _ _ hf =>
        rw [hf.code] at hx
        cases k <;> cases x <;> cases hx <;> rfl

/-- A violation with the code of a flag is reported where the flag is on. -/
theorem holds_of_code (hx : x.flag? = some (c, violation.code))
    (h : r.checkValue field pattern v = .ok (some violation)) : r.holds x = true := by
  obtain ⟨compiled, s, hs, f, hrun, hcode⟩ := exists_of_checkValue h
  rw [hcode] at hx
  obtain rfl := flag?_of_code hx (isWritable_of_checkValue h) hs hrun
  exact holds_of_mem_singleChecks hx hs

end Rule

/-! ## Refused flags -/

namespace Rule

/-- A flag that a mapping refuses is off, unless it is a format that the mapping declares. -/
theorem holds_ofDict_refused (hq : ofDict d = .ok q) (hx : x.flag?.isSome = true)
    (hrefused : d.get? x.name = some (.bool false)) :
    q.holds x = true ↔ x ∈ Attribute.formats ∧ q.type = some x.name := by
  have hvalue : d.getD x.name = .bool false := by
    rw [Dict.getD, hrefused]
    rfl
  simp only [ofDict, bind_eq_ok] at hq
  obtain ⟨type, -, min, -, max, -, minValue, -, maxValue, -, hq⟩ := hq
  obtain rfl := Except.ok.inj hq
  have hformat : formatOf d x.name type = true ↔ type = some x.name := by
    rw [formatOf, hvalue]
    simp [Value.truthy]
  cases x with
  | required =>
      refine iff_of_false ?_ fun h => absurd h.1 (by decide)
      show ¬ (d.getD "required").truthy = true
      rw [show d.getD "required" = .bool false from hvalue]
      exact Bool.false_ne_true
  | email => exact hformat.trans (and_iff_right (by decide)).symm
  | url => exact hformat.trans (and_iff_right (by decide)).symm
  | number => exact hformat.trans (and_iff_right (by decide)).symm
  | _ => cases hx

/-- What a mapping refuses it provides. -/
theorem mem_providedBy_refused (hx : x.flag?.isSome = true)
    (hrefused : d.get? x.name = some (.bool false)) : x ∈ providedBy d := by
  have hspelled : x.name ∈ x.spellings := by cases x <;> first | exact .head _ | cases hx
  refine mem_providedBy.mpr (.inl (List.any_eq_true.mpr ⟨x.name, hspelled, ?_⟩))
  rw [Dict.given?, hrefused]
  rfl

end Rule

namespace Builder

/-- **A flag that the rules of an entry refuse is off**, whatever the entry says, unless it is a
format and the rules declare it as their type, whose flag is on for all the refusal. A flag that is
off has its check not put to any value, and no violation has its code. -/
theorem fieldRule_refused (hrules : entry.getD "rules" = .dict d)
    (hbase : Rule.ofDict (entry.without ["rules", "ui"]) = .ok b) (hq : Rule.ofDict d = .ok q) :
    ∃ r, (fieldRule entry).outcome = .ok r ∧
      ∀ x c code, x.flag? = some (c, code) → d.get? x.name = some (.bool false) →
        (r.holds x = true ↔ x ∈ Attribute.formats ∧ q.type = some x.name) ∧
        (r.holds x = false → (∀ pattern, c ∉ r.singleChecks pattern) ∧
          ∀ field pattern v violation, r.checkValue field pattern v = .ok (some violation) →
            violation.code ≠ code) := by
  have hnormal : (Rule.normalize (.dict d)).outcome = .ok q :=
    (Rule.outcome_normalize_dict d).trans hq
  refine ⟨layered entry b q, fieldRule_eq_ok.mpr ⟨b, q, hbase, hrules ▸ hnormal, rfl⟩,
    fun x c code hx hrefused => ⟨?_, fun hoff => ⟨fun pattern hc => ?_, ?_⟩⟩⟩
  · have hflag : x.flag?.isSome = true := Option.isSome_of_eq_some hx
    have hui : x ≠ .ui := by
      rintro rfl
      cases hx
    have hpart : (layered entry b q).part x = q.part x := by
      rw [Rule.part_layered_dict hnormal hui,
        if_pos (Rule.mem_providedBy_refused hflag hrefused)]
    rw [Rule.holds_congr hpart, Rule.holds_ofDict_refused hq hflag hrefused]
  · rw [Rule.holds_of_mem_singleChecks hx hc] at hoff
    cases hoff
  · rintro field pattern v violation h rfl
    rw [Rule.holds_of_code hx h] at hoff
    cases hoff

/-- An entry that asks for an address, with rules of its own. -/
def mailEntry (rules : Dict) : Dict :=
  [(.text "name", .text "mail"), (.text "type", .text "email"), (.text "required", .bool true),
    (.text "rules", .dict rules)]

/-- Rules that refuse what the entry asks for. -/
theorem fieldRule_refused_mail : ∃ r,
    (fieldRule (mailEntry
      [(.text "required", .bool false), (.text "email", .bool false)])).outcome = .ok r ∧
      r.required = false ∧ r.email = false ∧ .email ∉ r.singleChecks none := by
  have hrules : (mailEntry [(.text "required", .bool false), (.text "email", .bool false)]).getD
      "rules" = .dict [(.text "required", .bool false), (.text "email", .bool false)] := rfl
  obtain ⟨r, hr, hrefused⟩ := fieldRule_refused hrules rfl rfl
  obtain ⟨hrequired, -⟩ := hrefused .required _ _ rfl rfl
  obtain ⟨hemail, hchecks⟩ := hrefused .email _ _ rfl rfl
  have hoff : r.holds .email = false := by
    rw [Bool.eq_false_iff, ne_eq, hemail]
    exact fun h => nomatch h.2
  refine ⟨r, hr, ?_, hoff, (hchecks hoff).1 none⟩
  have hnot : ¬ r.holds .required = true := fun h => absurd (hrequired.mp h).1 (by decide)
  exact Bool.eq_false_iff.mpr hnot

/-- Rules that refuse the format of the type that they declare. -/
def refusingEntry : Dict :=
  [(.text "name", .text "a"),
    (.text "rules", .dict [(.text "type", .text "email"), (.text "email", .bool false)])]

/-- The refusal is overruled, and the format is checked. -/
theorem fieldRule_overrules_refusal : ∃ r violation,
    (fieldRule refusingEntry).outcome = .ok r ∧ r.email = true ∧ .email ∈ r.singleChecks none ∧
      r.checkValue "a" none (.text "nobody") = .ok (some violation) ∧
      violation.code = .invalidEmail :=
  ⟨_, _, rfl, rfl, .head _, rfl, rfl⟩

end Builder
end FieldRules
