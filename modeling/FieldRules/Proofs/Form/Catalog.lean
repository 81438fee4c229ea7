import FieldRules.Proofs.Form.Assembly

/-!
# Proofs — Catalog

A schema in use. Fields are added and looked up in any order, and only adding changes what is there.
A catalog keeps the same in two structures, the names in their order and the rules by name, and
takes each answer from one of them, or goes through the names and looks each up among the rules.
Adding keeps the two in step (`Catalog.InStep.add`) and does to them what it does to the schema
(`catalog_add`), so after any calls both give the same answers, and the schema holds exactly what
was added to it (`Schema.run_holds`).
-/

namespace FieldRules

/-! ## Calls -/

/-- What is done with a schema. -/
inductive SchemaCall where
  | add (name : String) (r : Rule)
  | get (name : String)
  | find (name : String)
  | has (name : String)
  | order
  | size
  | fields

/-- What comes back. -/
inductive SchemaAnswer where
  | added
  | got (r : Except Fault Rule)
  | found (r : Option Rule)
  | holds (b : Bool)
  | names (order : List String)
  | count (n : Nat)
  | fields (entries : Except Fault (Named Rule))

/-- The field that a call adds. -/
def SchemaCall.added? : SchemaCall → Option (String × Rule)
  | .add name r => some (name, r)
  | _ => none

/-- The fields that are added, in order. -/
def addedBy (calls : List SchemaCall) : Named Rule :=
  calls.filterMap SchemaCall.added?

namespace Schema

/-- The schema after a call. -/
def step (s : Schema) : SchemaCall → Schema
  | .add name r => s.add name r
  | _ => s

/-- The schema after a run of calls. -/
def run (s : Schema) (calls : List SchemaCall) : Schema :=
  calls.foldl step s

def answer (s : Schema) : SchemaCall → SchemaAnswer
  | .add _ _ => .added
  | .get name => .got (s.get name)
  | .find name => .found (s.find? name)
  | .has name => .holds (s.has name)
  | .order => .names s.order
  | .size => .count s.size
  | .fields => .fields (.ok s.fields)

/-- Looking up changes nothing. -/
theorem step_eq (s : Schema) (call : SchemaCall) : s.step call = s.addAll call.added?.toList := by
  cases call <;> rfl

/-- A run adds its fields. -/
theorem run_eq (s : Schema) (calls : List SchemaCall) : s.run calls = s.addAll (addedBy calls) := by
  induction calls generalizing s with
  | nil => rfl
  | cons call rest ih =>
      have hrun : s.run (call :: rest) = (s.step call).run rest := rfl
      rw [hrun, ih, step_eq, addedBy, addedBy, Builder.filterMap_cons_eq, addAll, addAll, addAll,
        List.foldl_append]

theorem mem_order {s : Schema} {name : String} : name ∈ s.order ↔ (s.find? name).isSome :=
  Named.isSome_lookup.symm

end Schema

/-! ## Two structures -/

/-- The names in order, and beside them the rules by name. -/
@[ext]
structure Catalog where
  order : List String
  rules : String → Option Rule

namespace Catalog

def empty : Catalog := ⟨[], fun _ => none⟩

/-- Adds a field or defines it again. A name is put last unless it has a rule. -/
def add (c : Catalog) (name : String) (r : Rule) : Catalog where
  order := if (c.rules name).isSome then c.order else c.order ++ [name]
  rules n := if n = name then some r else c.rules n

def get (c : Catalog) (name : String) : Except Fault Rule :=
  match c.rules name with
  | some r => .ok r
  | none => .error (.missing name)

/-- The names, gone through in order, each with its rule, which has to be there. -/
def entries (c : Catalog) : Except Fault (Named Rule) :=
  c.order.mapM fun name => do return (name, ← c.get name)

def step (c : Catalog) : SchemaCall → Catalog
  | .add name r => c.add name r
  | _ => c

def run (c : Catalog) (calls : List SchemaCall) : Catalog :=
  calls.foldl step c

def answer (c : Catalog) : SchemaCall → SchemaAnswer
  | .add _ _ => .added
  | .get name => .got (c.get name)
  | .find name => .found (c.rules name)
  | .has name => .holds (c.rules name).isSome
  | .order => .names c.order
  | .size => .count c.order.length
  | .fields => .fields c.entries

/-- The two structures are in step: a name stands in the order exactly if it has a rule, and it
stands there once. -/
structure InStep (c : Catalog) : Prop where
  nodup : c.order.Nodup
  mem_order : ∀ name, name ∈ c.order ↔ (c.rules name).isSome

namespace InStep

variable {c : Catalog}

theorem empty : InStep .empty where
  nodup := List.nodup_nil
  mem_order := by simp [Catalog.empty]

theorem mem_order_add (h : c.InStep) {name n : String} {r : Rule} :
    n ∈ (c.add name r).order ↔ n = name ∨ n ∈ c.order := by
  by_cases hold : (c.rules name).isSome
  · have hmem : name ∈ c.order := (h.mem_order name).mpr hold
    simp only [Catalog.add, hold, if_true]
    exact ⟨.inr, fun hn => hn.elim (· ▸ hmem) id⟩
  · simp [Catalog.add, hold, or_comm]

/-- **Adding keeps the structures in step.** -/
theorem add (h : c.InStep) (name : String) (r : Rule) : (c.add name r).InStep where
  nodup := by
    by_cases hold : (c.rules name).isSome
    · simpa [Catalog.add, hold] using h.nodup
    · have hnew : name ∉ c.order := fun hmem => hold ((h.mem_order name).mp hmem)
      simp only [Catalog.add, hold]
      exact List.nodup_append.mpr ⟨h.nodup, List.pairwise_singleton _ name,
        fun n hn m hm heq => hnew (List.mem_singleton.mp hm ▸ heq ▸ hn)⟩
  mem_order n := by
    rw [h.mem_order_add, h.mem_order]
    by_cases hn : n = name <;> simp [Catalog.add, hn]

theorem step (h : c.InStep) (call : SchemaCall) : (c.step call).InStep := by
  cases call with
  | add name r => exact h.add name r
  | _ => exact h

theorem run (h : c.InStep) (calls : List SchemaCall) : (c.run calls).InStep := by
  induction calls generalizing c with
  | nil => exact h
  | cons call rest ih => exact ih (h.step call)

end InStep
end Catalog

/-! ## The catalog of a schema -/

namespace Schema

/-- A schema, in two structures. -/
def catalog (s : Schema) : Catalog :=
  ⟨s.order, s.find?⟩

/-- **Adding does the same to both.** -/
theorem catalog_add (s : Schema) (name : String) (r : Rule) :
    (s.add name r).catalog = s.catalog.add name r := by
  refine Catalog.ext ?_ (funext (find?_add s name r))
  show (s.add name r).order = if (s.find? name).isSome then s.order else s.order ++ [name]
  rw [order_add, if_congr mem_order rfl rfl]

theorem catalog_step (s : Schema) (call : SchemaCall) :
    (s.step call).catalog = s.catalog.step call := by
  cases call with
  | add name r => exact catalog_add s name r
  | _ => rfl

theorem catalog_run (s : Schema) (calls : List SchemaCall) :
    (s.run calls).catalog = s.catalog.run calls := by
  induction calls generalizing s with
  | nil => rfl
  | cons call rest ih =>
      calc
        ((s.step call).run rest).catalog = (s.step call).catalog.run rest := ih _
        _ = (s.catalog.step call).run rest := by rw [catalog_step]

theorem mapM_get {s : Schema} {part : Named Rule} (h : ∀ e ∈ part, s.get e.1 = .ok e.2) :
    (Named.names part).mapM (fun name => do return (name, ← s.get name)) = .ok part := by
  induction part with
  | nil => rfl
  | cons e rest ih =>
      obtain ⟨hfirst, hrest⟩ := List.forall_mem_cons.mp h
      rw [Named.names_cons, List.mapM_cons, hfirst, ih hrest]
      rfl

/-- **Going through the names finds the fields.** -/
theorem entries_catalog {s : Schema} (h : s.order.Nodup) : s.catalog.entries = .ok s.fields := by
  refine mapM_get fun e he => ?_
  have hfind : s.find? e.1 = some e.2 := (Named.lookup_eq_some h).mpr he
  rw [get, hfind]

/-- **Both answer the same.** -/
theorem answer_catalog {s : Schema} (h : s.order.Nodup) (call : SchemaCall) :
    s.catalog.answer call = s.answer call := by
  cases call with
  | size => exact congrArg SchemaAnswer.count (List.length_map _)
  | fields => exact congrArg SchemaAnswer.fields (entries_catalog h)
  | _ => rfl

/-! ## Runs -/

/-- The schema holds what was added, and nothing else: the names in the order in which they came
first, none of them twice, each with the rule that it was given last. -/
structure Holds (s : Schema) (added : Named Rule) : Prop where
  order : s.order = (Named.names added).eraseDups
  nodup : s.order.Nodup
  defined : ∀ name, name ∈ s.order ↔ ∃ r, s.get name = .ok r
  has : ∀ name, s.has name ↔ name ∈ s.order
  size : s.size = s.order.length
  last : ∀ before name r after, added = before ++ (name, r) :: after →
    name ∉ Named.names after → s.get name = .ok r ∧ s.find? name = some r
  missing : ∀ name, name ∉ Named.names added →
    s.get name = .error (.missing name) ∧ s.find? name = none

theorem get_eq_ok {s : Schema} {name : String} {r : Rule} :
    s.get name = .ok r ↔ s.find? name = some r := by
  unfold get
  cases s.find? name <;> simp

theorem get_eq_error {s : Schema} {name : String} (h : s.find? name = none) :
    s.get name = .error (.missing name) := by
  rw [get, h]

/-- A schema to which fields were added holds these fields. -/
theorem holds_addAll {added : Named Rule} (h : (empty.addAll added).order.Nodup) :
    (empty.addAll added).Holds added where
  order := order_addAll_empty added
  nodup := h
  defined name := by simp only [mem_order, Option.isSome_iff_exists, get_eq_ok]
  has name := mem_order.symm
  size := (List.length_map _).symm
  last before name r after hadded hlast := by
    have hfind : (empty.addAll added).find? name = some r := by
      rw [find?_addAll_empty, hadded, Named.lookup_reverse hlast]
    exact ⟨get_eq_ok.mpr hfind, hfind⟩
  missing name hnever := by
    have hfind : (empty.addAll added).find? name = none := by
      rw [find?_addAll_empty, Named.lookup_eq_none, Named.names, List.map_reverse,
        List.mem_reverse]
      exact hnever
    exact ⟨get_eq_error hfind, hfind⟩

/-- **A schema in use.** After any calls on an empty schema, it holds what was added to it. The two
structures of a catalog on which the same calls are made are in step, they are those of the schema,
and every call is answered from them as it is by the schema. -/
theorem run_holds (calls : List SchemaCall) :
    (empty.run calls).Holds (addedBy calls) ∧
    (Catalog.empty.run calls).InStep ∧
    Catalog.empty.run calls = (empty.run calls).catalog ∧
    ∀ call, (Catalog.empty.run calls).answer call = (empty.run calls).answer call := by
  have hcatalog : Catalog.empty.run calls = (empty.run calls).catalog :=
    (catalog_run empty calls).symm
  have hinStep : (Catalog.empty.run calls).InStep := Catalog.InStep.empty.run calls
  have hnodup : (empty.run calls).order.Nodup := by
    have h := hinStep.nodup
    rwa [hcatalog] at h
  refine ⟨?_, hinStep, hcatalog, fun call => ?_⟩
  · rw [run_eq] at hnodup ⊢
    exact holds_addAll hnodup
  · rw [hcatalog]
    exact answer_catalog hnodup call

/-- A field that is defined again keeps its place, whatever is looked up in between. -/
example : (empty.run [.add "a" .empty, .get "b", .add "b" .empty, .order,
    .add "a" { Rule.empty with min := some 2 }]).order = ["a", "b"] := by decide

end Schema
end FieldRules
