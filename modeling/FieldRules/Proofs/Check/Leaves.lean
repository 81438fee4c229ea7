import FieldRules.Check.Basic

/-!
# Proofs — Leaves

Trees of checks. A tree is the single checks in it, from left to right, each with the messages that
stand over it (`Check.leaves`); to run the tree is to run these one after the other
(`run_eq_runAll_leaves`). So the leftmost leaf that does not pass decides, with the outermost of its
messages (`run_leaves`), and it makes no difference how conjunctions are nested
(`run_flatten`).
-/

namespace FieldRules.Check

variable {v : Value} {c : Check} {f : Failure}

/-! ## One test after the other -/

theorem runAll_nil (v : Value) : runAll [] v = .ok none := rfl

theorem runAll_singleton (c : Check) (v : Value) : runAll [c] v = c.run v := by
  rw [runAll_cons, runAll_nil, orElse_none_right]

theorem runAll_append (cs ds : List Check) (v : Value) :
    runAll (cs ++ ds) v = orElse (runAll cs v) (runAll ds v) := by
  induction cs with
  | nil => rfl
  | cons c cs ih => rw [List.cons_append, runAll_cons, runAll_cons, ih, orElse_assoc]

theorem runAll_map_eq_none {ι : Type} {check : ι → Check} {is : List ι} :
    runAll (is.map check) v = .ok none ↔ ∀ i ∈ is, (check i).run v = .ok none := by
  induction is with
  | nil => simp [runAll_nil]
  | cons i is ih => rw [List.map_cons, runAll_cons, orElse_eq_none, ih, List.forall_mem_cons]

/-- What is no success comes from the first check that does not pass. -/
theorem runAll_map_eq {ι : Type} {check : ι → Check} {is : List ι}
    {outcome : Except Fault (Option Failure)} (houtcome : outcome ≠ .ok none) :
    runAll (is.map check) v = outcome ↔
      ∃ before i after, is = before ++ i :: after ∧
        (∀ j ∈ before, (check j).run v = .ok none) ∧ (check i).run v = outcome := by
  induction is with
  | nil => simp [runAll_nil, houtcome.symm]
  | cons i is ih =>
      rw [List.map_cons, runAll_cons]
      by_cases hi : (check i).run v = .ok none
      · rw [hi, orElse_none_left, ih]
        constructor
        · rintro ⟨before, j, after, rfl, hbefore, hj⟩
          exact ⟨i :: before, j, after, rfl, List.forall_mem_cons.mpr ⟨hi, hbefore⟩, hj⟩
        · rintro ⟨before, j, after, heq, hbefore, hj⟩
          cases before with
          | nil =>
              obtain ⟨rfl, rfl⟩ := List.cons.inj heq
              exact absurd (hj.symm.trans hi) houtcome
          | cons b before =>
              obtain ⟨rfl, rfl⟩ := List.cons.inj heq
              exact ⟨before, j, after, rfl, (List.forall_mem_cons.mp hbefore).2, hj⟩
      · rw [orElse_of_ne_none hi]
        constructor
        · exact fun h => ⟨[], i, is, rfl, by simp, h⟩
        · rintro ⟨before, j, after, heq, hbefore, hj⟩
          cases before with
          | nil =>
              obtain ⟨rfl, rfl⟩ := List.cons.inj heq
              exact hj
          | cons b before =>
              obtain ⟨rfl, rfl⟩ := List.cons.inj heq
              exact absurd (hbefore i (.head _)) hi

/-! ## Leaves -/

/-- A single check in a tree, and the messages that stand over it, the outermost first. -/
structure Leaf where
  messages : List Value
  check : Check

namespace Leaf

/-- The leaf with a message over all others. -/
def under (message : Value) (l : Leaf) : Leaf :=
  { l with messages := message :: l.messages }

/-- The report of a failure of the leaf. -/
def report (l : Leaf) (f : Failure) : Failure :=
  { f with message := l.messages.headD f.message }

/-- The leaf as a tree of its own, with no message but the outermost. -/
def toCheck (l : Leaf) : Check :=
  match l.messages with
  | [] => l.check
  | message :: _ => .withMessage l.check message

theorem run_toCheck (l : Leaf) (v : Value) :
    l.toCheck.run v = (l.check.run v).map (Option.map l.report) := by
  obtain ⟨messages, check⟩ := l
  cases messages with
  | nil =>
      show check.run v = _
      cases check.run v with
      | error e => rfl
      | ok f? => cases f? <;> rfl
  | cons message messages => exact run_withMessage check message v

theorem run_toCheck_eq_none {l : Leaf} : l.toCheck.run v = .ok none ↔ l.check.run v = .ok none := by
  rw [run_toCheck]
  cases l.check.run v <;> simp [Except.map]

theorem run_toCheck_eq_some {l : Leaf} {g : Failure} :
    l.toCheck.run v = .ok (some g) ↔ ∃ f, l.check.run v = .ok (some f) ∧ g = l.report f := by
  rw [run_toCheck]
  cases l.check.run v with
  | error e => simp [Except.map]
  | ok f? => cases f? <;> simp [Except.map, eq_comm]

theorem run_toCheck_eq_error {l : Leaf} {e : Fault} :
    l.toCheck.run v = .error e ↔ l.check.run v = .error e := by
  rw [run_toCheck]
  cases l.check.run v <;> simp [Except.map]

theorem run_toCheck_under (message : Value) (l : Leaf) (v : Value) :
    (l.under message).toCheck.run v =
      (l.toCheck.run v).map (Option.map ({ · with message := message })) := by
  rw [run_toCheck, run_toCheck]
  show (l.check.run v).map _ = _
  cases l.check.run v with
  | error e => rfl
  | ok f? => cases f? <;> rfl

end Leaf

mutual

/-- The single checks of a tree from left to right. -/
def leaves : Check → List Leaf
  | .allOf checks => leavesOfAll checks
  | .withMessage check message => (leaves check).map (·.under message)
  | check => [⟨[], check⟩]

def leavesOfAll : List Check → List Leaf
  | [] => []
  | c :: cs => leaves c ++ leavesOfAll cs

end

theorem runAll_under (message : Value) (ls : List Leaf) (v : Value) :
    runAll ((ls.map (·.under message)).map Leaf.toCheck) v =
      (runAll (ls.map Leaf.toCheck) v).map (Option.map ({ · with message := message })) := by
  induction ls with
  | nil => rfl
  | cons l ls ih =>
      simp only [List.map_cons, runAll_cons, map_orElse, ih, Leaf.run_toCheck_under]

mutual

/-- **Running a tree is running its leaves** one after the other. -/
theorem run_eq_runAll_leaves (c : Check) (v : Value) :
    c.run v = runAll (c.leaves.map Leaf.toCheck) v := by
  match c with
  | .allOf checks =>
      rw [run, leaves]
      exact runAll_eq_runAll_leaves checks v
  | .withMessage check message =>
      rw [run_withMessage, leaves, runAll_under, run_eq_runAll_leaves check v]
  | .required | .email | .url | .number | .length .. | .range .. | .pattern _ =>
      exact (runAll_singleton _ v).symm

theorem runAll_eq_runAll_leaves (cs : List Check) (v : Value) :
    runAll cs v = runAll ((leavesOfAll cs).map Leaf.toCheck) v := by
  match cs with
  | [] => rfl
  | c :: cs =>
      rw [runAll_cons, leavesOfAll, List.map_append, runAll_append, ← run_eq_runAll_leaves c v,
        ← runAll_eq_runAll_leaves cs v]

end

/-! ## Nested conjunctions -/

/-- No conjunction stands directly in another one. -/
inductive IsFlat : Check → Prop
  | single {c : Check} (hall : ∀ cs, c ≠ .allOf cs) (hmessage : ∀ d m, c ≠ .withMessage d m) :
      IsFlat c
  | withMessage {c : Check} (message : Value) : IsFlat c → IsFlat (.withMessage c message)
  | allOf {cs : List Check} :
      (∀ c ∈ cs, IsFlat c) → (∀ c ∈ cs, ∀ ds, c ≠ .allOf ds) → IsFlat (.allOf cs)

/-- The checks that a conjunction joins; any other check by itself. -/
def members : Check → List Check
  | .allOf checks => checks
  | check => [check]

mutual

/-- The tree with the members of every nested conjunction in its place. -/
def flatten : Check → Check
  | .allOf checks => .allOf (flattenAll checks)
  | .withMessage check message => .withMessage (flatten check) message
  | check => check

def flattenAll : List Check → List Check
  | [] => []
  | c :: cs => (flatten c).members ++ flattenAll cs

end

theorem runAll_members (c : Check) (v : Value) : runAll c.members v = c.run v := by
  cases c with
  | allOf checks => rw [members, run]
  | _ => exact runAll_singleton _ v

mutual

/-- **Flattening changes no result.** -/
theorem run_flatten (c : Check) (v : Value) : c.flatten.run v = c.run v := by
  match c with
  | .allOf checks =>
      rw [flatten, run, run]
      exact runAll_flattenAll checks v
  | .withMessage check message =>
      rw [flatten, run_withMessage, run_withMessage, run_flatten check v]
  | .required | .email | .url | .number | .length .. | .range .. | .pattern _ => rfl

theorem runAll_flattenAll (cs : List Check) (v : Value) :
    runAll (flattenAll cs) v = runAll cs v := by
  match cs with
  | [] => rfl
  | c :: cs =>
      rw [flattenAll, runAll_append, runAll_members, run_flatten c v, runAll_flattenAll cs v,
        runAll_cons]

end

/-- The members of a flat check are flat, and no conjunctions. -/
theorem IsFlat.members (h : c.IsFlat) :
    ∀ m ∈ c.members, m.IsFlat ∧ ∀ ds, m ≠ .allOf ds := by
  cases h with
  | allOf hflat hmembers => exact fun m hm => ⟨hflat m hm, hmembers m hm⟩
  | @withMessage d message hd =>
      intro m hm
      rw [List.mem_singleton.mp hm]
      exact ⟨.withMessage message hd, fun _ => nofun⟩
  | single hall hmessage =>
      intro m hm
      have hmembers : c.members = [c] := by
        cases c with
        | allOf cs => exact absurd rfl (hall cs)
        | _ => rfl
      rw [hmembers, List.mem_singleton] at hm
      rw [hm]
      exact ⟨.single hall hmessage, hall⟩

mutual

theorem isFlat_flatten (c : Check) : c.flatten.IsFlat := by
  match c with
  | .allOf checks =>
      have hparts := isFlat_flattenAll checks
      rw [flatten]
      exact .allOf (fun d hd => (hparts d hd).1) fun d hd => (hparts d hd).2
  | .withMessage check message =>
      rw [flatten]
      exact .withMessage message (isFlat_flatten check)
  | .required | .email | .url | .number | .length .. | .range .. | .pattern _ =>
      exact .single (fun _ => nofun) fun _ _ => nofun

theorem isFlat_flattenAll (cs : List Check) :
    ∀ d ∈ flattenAll cs, d.IsFlat ∧ ∀ ds, d ≠ .allOf ds := by
  match cs with
  | [] => exact fun d hd => nomatch hd
  | c :: cs =>
      intro d hd
      rw [flattenAll, List.mem_append] at hd
      rcases hd with hd | hd
      · exact (isFlat_flatten c).members d hd
      · exact isFlat_flattenAll cs d hd

end

/-! ## The leaf that decides -/

theorem run_eq_none_iff (c : Check) :
    c.run v = .ok none ↔ ∀ l ∈ c.leaves, l.check.run v = .ok none := by
  simp only [run_eq_runAll_leaves c, runAll_map_eq_none, Leaf.run_toCheck_eq_none]

theorem run_eq_some_iff (c : Check) {g : Failure} :
    c.run v = .ok (some g) ↔ ∃ before l after f, c.leaves = before ++ l :: after ∧
      (∀ b ∈ before, b.check.run v = .ok none) ∧ l.check.run v = .ok (some f) ∧ g = l.report f := by
  rw [run_eq_runAll_leaves, runAll_map_eq (by simp)]
  simp only [Leaf.run_toCheck_eq_none, Leaf.run_toCheck_eq_some]
  constructor
  · rintro ⟨before, l, after, heq, hbefore, f, hf, hg⟩
    exact ⟨before, l, after, f, heq, hbefore, hf, hg⟩
  · rintro ⟨before, l, after, f, heq, hbefore, hf, hg⟩
    exact ⟨before, l, after, heq, hbefore, f, hf, hg⟩

theorem run_eq_error_iff (c : Check) {e : Fault} :
    c.run v = .error e ↔ ∃ before l after, c.leaves = before ++ l :: after ∧
      (∀ b ∈ before, b.check.run v = .ok none) ∧ l.check.run v = .error e := by
  rw [run_eq_runAll_leaves, runAll_map_eq (by simp)]
  simp only [Leaf.run_toCheck_eq_none, Leaf.run_toCheck_eq_error]

/-- **The leftmost leaf that does not pass decides.** A tree passes when all its leaves do. If one
of them fails, and all to its left pass, the failure of the tree is that of the leaf, reported with
the outermost message over it. If one of them reaches no verdict, the tree reaches none. A tree can
be flattened without changing any of this. -/
theorem run_leaves (c : Check) (v : Value) :
    (c.run v = .ok none ↔ ∀ l ∈ c.leaves, l.check.run v = .ok none) ∧
    (∀ g, c.run v = .ok (some g) ↔ ∃ before l after f, c.leaves = before ++ l :: after ∧
      (∀ b ∈ before, b.check.run v = .ok none) ∧ l.check.run v = .ok (some f) ∧
        g = { f with message := l.messages.headD f.message }) ∧
    (∀ e, c.run v = .error e ↔ ∃ before l after, c.leaves = before ++ l :: after ∧
      (∀ b ∈ before, b.check.run v = .ok none) ∧ l.check.run v = .error e) ∧
    c.flatten.IsFlat ∧ c.flatten.run v = c.run v :=
  ⟨run_eq_none_iff c, fun _ => run_eq_some_iff c, fun _ => run_eq_error_iff c, isFlat_flatten c,
    run_flatten c v⟩

/-- A check under two messages. -/
def nestedCheck : Check :=
  .withMessage (.allOf [.required, .withMessage .email (.text "inner")]) (.text "outer")

example : nestedCheck.leaves.map (·.messages) =
    [[.text "outer"], [.text "outer", .text "inner"]] := rfl

/-- The leaf that fails is reported with the outer message, and otherwise as it reports itself. -/
example : ∃ f, Check.email.run (.text "ada") = .ok (some f) ∧ f.message ≠ .text "outer" ∧
    nestedCheck.run (.text "ada") = .ok (some { f with message := .text "outer" }) :=
  ⟨_, rfl, fun h => absurd (Value.text.inj h) (by decide), rfl⟩

end FieldRules.Check
