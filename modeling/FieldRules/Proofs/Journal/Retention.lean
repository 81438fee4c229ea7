import FieldRules.Proofs.Journal.Secrecy

/-!
# Proofs — Retention

What redaction leaves as it is. A path leads into a value through entries of mappings, each by its
place and its key, and through items of lists (`Leads`). One step that is open, that is, not to an
entry under a sensitive key, finds in a redacted value what it finds in the value itself, redacted
to one level less (`Step.leads_redact`), and so does an open path, to as many levels less as it is
long (`leads_redact`). So everything outside of the secrets is still there, and in its place
(`redactEvent_keeps`); what is redacted already stays as it is (`redact_redact`).
-/

namespace FieldRules.Redaction

/-! ## Paths -/

/-- One step into a value: to an entry of a mapping, by its place and its key, or to an item of a
list. -/
inductive Step where
  | entry (place : Nat) (key : Value)
  | item (place : Nat)

/-- The step leads from the first value to the second. -/
def Step.Leads : Step → Value → Value → Prop
  | .entry place key, v, w => ∃ es, v = .dict es ∧ es[place]? = some (key, w)
  | .item place, v, w => ∃ xs, v = .list xs ∧ xs[place]? = some w

/-- The steps of the path, taken one after the other, lead from the first value to the second. -/
def Leads : List Step → Value → Value → Prop
  | [], v, w => v = w
  | step :: path, v, w => ∃ u, step.Leads v u ∧ Leads path u w

/-- The step does not lead to an entry under a sensitive key. -/
def Step.IsOpen : Step → Prop
  | .entry _ key => isSensitive key = false
  | .item _ => True

/-- The path passes through no sensitive key. -/
def IsOpen (path : List Step) : Prop :=
  ∀ step ∈ path, step.IsOpen

/-- The second value is a mapping with the same keys in the same order where the first is a mapping,
a list of the same length where that is a list, and the same value where it is anything else. -/
inductive Keeps : Value → Value → Prop
  | dict {es fs : List (Value × Value)} (h : fs.map (·.1) = es.map (·.1)) :
      Keeps (.dict es) (.dict fs)
  | list {xs ys : List Value} (h : ys.length = xs.length) : Keeps (.list xs) (.list ys)
  | leaf {v : Value} (hdict : ∀ es, v ≠ .dict es) (hlist : ∀ xs, v ≠ .list xs) : Keeps v v

variable {levels place : Nat} {key v w : Value} {step : Step} {path rest : List Step}

theorem Step.Leads.unique {w' : Value} (h : step.Leads v w) (h' : step.Leads v w') : w = w' := by
  cases step with
  | entry place key =>
      obtain ⟨es, rfl, hplace⟩ := h
      obtain ⟨fs, hfs, hplace'⟩ := h'
      cases hfs
      rw [hplace] at hplace'
      exact (Prod.mk.inj (Option.some.inj hplace')).2
  | item place =>
      obtain ⟨xs, rfl, hplace⟩ := h
      obtain ⟨ys, hys, hplace'⟩ := h'
      cases hys
      rw [hplace] at hplace'
      exact Option.some.inj hplace'

/-- A path leads to one value at most. -/
theorem Leads.unique {w' : Value} (h : Leads path v w) (h' : Leads path v w') : w = w' := by
  induction path generalizing v with
  | nil => exact Eq.trans (Eq.symm h) h'
  | cons step path ih =>
      obtain ⟨u, hstep, hpath⟩ := h
      obtain ⟨u', hstep', hpath'⟩ := h'
      obtain rfl : u = u' := hstep.unique hstep'
      exact ih hpath hpath'

theorem leads_append : Leads (path ++ rest) v w ↔ ∃ u, Leads path v u ∧ Leads rest u w := by
  induction path generalizing v with
  | nil => simp [Leads]
  | cons step path ih =>
      simp only [List.cons_append, Leads, ih]
      constructor
      · rintro ⟨u, hstep, u', hpath, hrest⟩
        exact ⟨u', ⟨u, hstep, hpath⟩, hrest⟩
      · rintro ⟨u', ⟨u, hstep, hpath⟩, hrest⟩
        exact ⟨u, hstep, u', hpath, hrest⟩

/-! ## One level -/

/-- Keys, lengths and leaves stay. -/
theorem keeps_redact (levels : Nat) (v : Value) : Keeps v (redact levels v) := by
  have hsame (v : Value) : Keeps v v := by
    cases v with
    | dict es => exact .dict rfl
    | list xs => exact .list rfl
    | _ => exact .leaf (by simp) (by simp)
  cases levels with
  | zero =>
      rw [redact_zero]
      exact hsame v
  | succ levels =>
      cases v with
      | dict es =>
          rw [redact_dict]
          refine .dict ?_
          rw [List.map_map]
          rfl
      | list xs =>
          rw [redact_list]
          exact .list (List.length_map _)
      | _ =>
          simp only [redact]
          exact hsame _

/-- **An open step** finds what it found before, redacted to one level less. -/
theorem Step.leads_redact (h : step.IsOpen) :
    step.Leads (redact (levels + 1) v) w ↔ ∃ u, step.Leads v u ∧ w = redact levels u := by
  cases step with
  | entry place key =>
      have hkey : isSensitive key = false := h
      constructor
      · rintro ⟨es, hes, hplace⟩
        obtain ⟨fs, rfl, rfl⟩ := of_redact_eq_dict hes
        rw [List.getElem?_map, Option.map_eq_some_iff] at hplace
        obtain ⟨⟨k, u⟩, hplace, hentry⟩ := hplace
        obtain ⟨rfl, rfl⟩ := Prod.mk.inj hentry
        exact ⟨u, ⟨fs, rfl, hplace⟩, by simp [hkey]⟩
      · rintro ⟨u, ⟨fs, rfl, hplace⟩, rfl⟩
        refine ⟨_, redact_dict levels fs, ?_⟩
        rw [List.getElem?_map, hplace]
        simp [redactEntry, hkey]
  | item place =>
      constructor
      · rintro ⟨xs, hxs, hplace⟩
        obtain ⟨ys, rfl, rfl⟩ := of_redact_eq_list hxs
        rw [List.getElem?_map, Option.map_eq_some_iff] at hplace
        obtain ⟨u, hplace, rfl⟩ := hplace
        exact ⟨u, ⟨ys, rfl, hplace⟩, rfl⟩
      · rintro ⟨u, ⟨ys, rfl, hplace⟩, rfl⟩
        refine ⟨_, redact_list levels ys, ?_⟩
        rw [List.getElem?_map, hplace, Option.map_some]

/-- A step to an entry under a sensitive key finds the mark. -/
theorem Step.leads_redacted (hkey : isSensitive key = true)
    (h : (Step.entry place key).Leads v w) :
    (Step.entry place key).Leads (redact (levels + 1) v) redacted := by
  obtain ⟨es, rfl, hplace⟩ := h
  refine ⟨_, redact_dict levels es, ?_⟩
  rw [List.getElem?_map, hplace]
  simp [redactEntry, hkey]

/-! ## All levels -/

/-- **An open path** finds what it found before, redacted to the levels that are left. -/
theorem leads_redact (h : IsOpen path) :
    Leads path (redact levels v) w ↔
      ∃ u, Leads path v u ∧ w = redact (levels - path.length) u := by
  induction path generalizing levels v with
  | nil => simp [Leads, eq_comm]
  | cons step path ih =>
      obtain ⟨hstep, hpath⟩ := List.forall_mem_cons.mp h
      cases levels with
      | zero => simp
      | succ levels =>
          rw [List.length_cons, Nat.add_sub_add_right]
          constructor
          · rintro ⟨u, hu, hrest⟩
            obtain ⟨u', hu', rfl⟩ := (Step.leads_redact hstep).mp hu
            obtain ⟨w', hw', hw⟩ := (ih hpath).mp hrest
            exact ⟨w', ⟨u', hu', hw'⟩, hw⟩
          · rintro ⟨w', ⟨u', hu', hw'⟩, hw⟩
            exact ⟨_, (Step.leads_redact hstep).mpr ⟨u', hu', rfl⟩, (ih hpath).mpr ⟨w', hw', hw⟩⟩

/-- An entry under a sensitive key to which an open path leads holds the mark. -/
theorem leads_redacted (h : IsOpen path) (hlevels : path.length < levels)
    (hkey : isSensitive key = true) (hleads : Leads (path ++ [.entry place key]) v w) :
    Leads (path ++ [.entry place key]) (redact levels v) redacted := by
  obtain ⟨u, hpath, w', hstep, -⟩ := leads_append.mp hleads
  obtain ⟨below, hbelow⟩ : ∃ below, levels - path.length = below + 1 :=
    ⟨levels - path.length - 1, by omega⟩
  have hredacted : (Step.entry place key).Leads (redact (below + 1) u) redacted :=
    Step.leads_redacted hkey hstep
  rw [← hbelow] at hredacted
  exact leads_append.mpr ⟨_, (leads_redact h).mpr ⟨u, hpath, rfl⟩, _, hredacted, rfl⟩

/-- **Redacting twice is redacting once.** -/
theorem redact_redact (levels : Nat) (v : Value) :
    redact levels (redact levels v) = redact levels v := by
  induction levels generalizing v with
  | zero => rw [redact_zero, redact_zero]
  | succ levels ih =>
      cases v with
      | dict es =>
          rw [redact_dict, redact_dict, List.map_map]
          refine congrArg Value.dict (List.map_congr_left fun e _ => ?_)
          -- the mark is put in the place of a mark, and all else is redacted twice
          by_cases hs : isSensitive e.1 = true <;> simp [redactEntry, hs, ih]
      | list xs =>
          rw [redact_list, redact_list, List.map_map]
          exact congrArg Value.list (List.map_congr_left fun x _ => ih x)
      | _ => simp [redact]

/-! ## Events -/

/-- **A redacted event keeps what is not under a sensitive key.** A path that passes through no
sensitive key leads somewhere in the redacted event exactly if it leads somewhere in the event: to a
mapping with the same keys in the same order, to a list of the same length, or to the same value. An
event that is redacted already is not changed. (What is not kept is what such a path finds under a
sensitive key on the levels that are looked at: there stands the mark.) -/
theorem redactEvent_keeps (event : Value) :
    (∀ path, IsOpen path →
      ((∃ v, Leads path event v) ↔ ∃ w, Leads path (redactEvent event) w) ∧
      (∀ v w, Leads path event v → Leads path (redactEvent event) w → Keeps v w) ∧
      ∀ place key v, path.length < depth → isSensitive key = true →
        Leads (path ++ [.entry place key]) event v →
        Leads (path ++ [.entry place key]) (redactEvent event) redacted) ∧
    redactEvent (redactEvent event) = redactEvent event := by
  refine ⟨fun path hopen => ⟨⟨?_, ?_⟩, fun v w hv hw => ?_, ?_⟩, redact_redact depth event⟩
  · rintro ⟨v, hv⟩
    exact ⟨_, (leads_redact hopen).mpr ⟨v, hv, rfl⟩⟩
  · rintro ⟨w, hw⟩
    obtain ⟨v, hv, -⟩ := (leads_redact hopen).mp hw
    exact ⟨v, hv⟩
  · obtain ⟨u, hu, rfl⟩ := (leads_redact hopen).mp hw
    rw [hv.unique hu]
    exact keeps_redact _ u
  · intro place key v hlevels hkey hv
    exact leads_redacted hopen hlevels hkey hv

/-- An event with secrets on two levels. -/
def signup : Value :=
  .dict [(.text "event", .text "submit"), (.text "password", .text "hunter2"),
    (.text "payload", .list [.int 1, .dict [(.text "Token", .text "abc"),
      (.text "email", .text "ada@example.com")]])]

/-- Beside secrets all is as it was. -/
theorem redactEvent_keeps_signup :
    Leads [.entry 2 (.text "payload"), .item 1, .entry 1 (.text "email")] (redactEvent signup)
      (.text "ada@example.com") := by
  have hopen : IsOpen [.entry 2 (.text "payload"), .item 1, .entry 1 (.text "email")] := by
    have hpayload : isSensitive (.text "payload") = false := by decide +kernel
    have hemail : isSensitive (.text "email") = false := by decide +kernel
    simp [IsOpen, Step.IsOpen, hpayload, hemail]
  have hleads : Leads [.entry 2 (.text "payload"), .item 1, .entry 1 (.text "email")] signup
      (.text "ada@example.com") :=
    ⟨_, ⟨_, rfl, rfl⟩, _, ⟨_, rfl, rfl⟩, _, ⟨_, rfl, rfl⟩, rfl⟩
  obtain ⟨hsome, hkept, -⟩ := (redactEvent_keeps signup).1 _ hopen
  obtain ⟨w, hw⟩ := hsome.mp ⟨_, hleads⟩
  cases hkept _ w hleads hw with
  | leaf => exact hw

end FieldRules.Redaction
