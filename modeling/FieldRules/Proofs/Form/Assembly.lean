import FieldRules.Form.Builder
import FieldRules.Proofs.Matching

/-!
# Proofs — Assembly

What a configuration is made into. An entry describes a field (`field?`), or the button
(`button?`), or nothing; a step does one thing to one half of the draft (`addEntry_eq`), so a whole
list of entries is its fields, added in their order, beside its buttons, folded in theirs
(`addEntries_eq`). Neither half depends on how the two kinds of entries are mixed, nor on what
stands between them.
-/

namespace FieldRules

/-! ## Schemas -/

namespace Schema

variable {s : Schema} {rules : Named Rule}

/-- The schema with fields added one after the other. -/
def addAll (s : Schema) (rules : Named Rule) : Schema :=
  rules.foldl (fun s e => s.add e.1 e.2) s

theorem addAll_cons (s : Schema) (e : String × Rule) (rules : Named Rule) :
    s.addAll (e :: rules) = (s.add e.1 e.2).addAll rules := rfl

theorem order_add (s : Schema) (name : String) (r : Rule) :
    (s.add name r).order = if name ∈ s.order then s.order else s.order ++ [name] :=
  Named.names_put s.fields name r

theorem find?_add (s : Schema) (name : String) (r : Rule) (n : String) :
    (s.add name r).find? n = if n = name then some r else s.find? n :=
  Named.lookup_put s.fields name r n

/-- A name stands where it came first. -/
theorem order_addAll (s : Schema) (rules : Named Rule) :
    (s.addAll rules).order = s.order ++ ((Named.names rules).removeAll s.order).eraseDups := by
  induction rules generalizing s with
  | nil => simp [addAll]
  | cons e rest ih =>
      rw [addAll_cons, ih, order_add, Named.names_cons]
      by_cases hmem : e.1 ∈ s.order
      · simp [hmem, List.removeAll]
      · have hfirst : (e.1 :: Named.names rest).removeAll s.order =
            e.1 :: (Named.names rest).removeAll s.order := by
          simp [List.removeAll, hmem]
        have hlater : (Named.names rest).removeAll (s.order ++ [e.1]) =
            ((Named.names rest).removeAll s.order).filter fun n => !n == e.1 := by
          simp only [List.removeAll, List.filter_filter]
          congr 1
          funext n
          by_cases hn : n = e.1 <;> simp [hn]
        rw [if_neg hmem, hfirst, hlater, List.eraseDups_cons, List.append_assoc,
          List.singleton_append]

/-- A name has the rule that it was given last. -/
theorem find?_addAll (s : Schema) (rules : Named Rule) (n : String) :
    (s.addAll rules).find? n = (rules.reverse.lookup n).or (s.find? n) := by
  induction rules generalizing s with
  | nil => rfl
  | cons e rest ih =>
      rw [addAll_cons, ih, find?_add, List.reverse_cons, List.lookup_append, Named.lookup_cons,
        List.lookup_nil]
      cases rest.reverse.lookup n with
      | some r => rfl
      | none => split <;> rfl

theorem order_addAll_empty (rules : Named Rule) :
    (empty.addAll rules).order = (Named.names rules).eraseDups := by
  rw [order_addAll]
  simp [empty, order, List.removeAll]

theorem find?_addAll_empty (rules : Named Rule) (n : String) :
    (empty.addAll rules).find? n = rules.reverse.lookup n := by
  rw [find?_addAll]
  exact Option.or_none

end Schema

/-! ## Entries -/

namespace Builder

/-- The field that an entry describes, under its name. -/
def field? : Value → Option (String × Dict)
  | .dict d =>
    let name := Dict.getD d "name"
    if !isSubmit d && name.truthy then some (name.display, d) else none
  | _ => none

/-- What an entry says about the button, if that is what it is for. -/
def button? : Value → Option Dict
  | .dict d => if isSubmit d then some d else none
  | _ => none

/-- The rule of a field, the pattern of which has to compile. -/
def compiledRule (f : String × Dict) : Traced Rule := do
  let rule ← fieldRule f.2
  Traced.ofExcept (requireWritable (f.2.getD "name").isWritable)
  let _ ← Traced.ofExcept (rule.compiledPattern (.text f.1))
  return rule

/-- The schema with the rules of fields added one after the other. -/
def addFields : Schema → Named Dict → Traced Schema
  | s, [] => pure s
  | s, f :: rest => do
    let rule ← compiledRule f
    addFields (s.add f.1 rule) rest

/-- The options with what entries say about the button, one after the other. -/
def withButtons (o : RenderOptions) (buttons : List Dict) : RenderOptions :=
  { o with submit := buttons.foldl (fun b d => applySubmit d b) o.submit }

variable {draft : Draft} {entry : Value} {entries : List Value}

/-- The guard is passed by what can be written. -/
theorem guard_eq_pure : Traced.ofExcept (requireWritable true) = pure () := rfl

/-- **What one entry does**: it adds a field, or changes the button, or neither, and never both. -/
theorem addEntry_eq (draft : Draft) (entry : Value) :
    addEntry draft entry = do
      Traced.ofExcept (requireWritable ((button? entry).all isWritableSubmit))
      let s ← addFields draft.1 (field? entry).toList
      return (s, withButtons draft.2 (button? entry).toList) := by
  -- the guard of the button is also there, and passed, where the entry is none
  cases entry with
  | dict d =>
      simp only [addEntry, field?, button?]
      by_cases hsubmit : isSubmit d = true
      · simp [hsubmit, addFields, withButtons]
      · by_cases hname : (Dict.getD d "name").truthy = true
        · simp [hsubmit, hname, addFields, withButtons, compiledRule, guard_eq_pure]
        · simp [hsubmit, hname, addFields, withButtons, guard_eq_pure]
  | _ => simp [addEntry, field?, button?, addFields, withButtons, guard_eq_pure]

theorem addFields_append (s : Schema) (fields more : Named Dict) :
    addFields s (fields ++ more) = addFields s fields >>= (addFields · more) := by
  induction fields generalizing s with
  | nil => simp [addFields]
  | cons f rest ih => simp [addFields, ih]

theorem withButtons_append (o : RenderOptions) (buttons more : List Dict) :
    withButtons o (buttons ++ more) = withButtons (withButtons o buttons) more := by
  simp [withButtons]

theorem filterMap_cons_eq {α β : Type} (f : α → Option β) (a : α) (l : List α) :
    (a :: l).filterMap f = (f a).toList ++ l.filterMap f := by
  cases h : f a <;> simp [h]

/-- What entries say about the button can be written. -/
def WritableButtons (entries : List Value) : Prop :=
  ∀ b ∈ entries.filterMap button?, isWritableSubmit b = true

theorem writableButtons_cons :
    WritableButtons (entry :: entries) ↔
      (button? entry).all isWritableSubmit = true ∧ WritableButtons entries := by
  rw [WritableButtons, filterMap_cons_eq]
  cases button? entry <;> simp [WritableButtons]

/-- **What a list of entries does**: its fields are added in their order, and its buttons are
folded in theirs. -/
theorem addEntries_eq (draft : Draft) (h : WritableButtons entries) :
    addEntries draft entries = do
      let s ← addFields draft.1 (entries.filterMap field?)
      return (s, withButtons draft.2 (entries.filterMap button?)) := by
  induction entries generalizing draft with
  | nil => simp [addEntries, addFields, withButtons]
  | cons entry rest ih =>
      obtain ⟨hentry, hrest⟩ := writableButtons_cons.mp h
      simp only [addEntries, addEntry_eq, hentry, guard_eq_pure, ih _ hrest, filterMap_cons_eq,
        addFields_append, withButtons_append, bind_assoc, pure_bind]

/-- No entry passes whose words about the button cannot be written. -/
theorem writableButtons_of_addEntries {draft result : Draft}
    (h : (addEntries draft entries).outcome = .ok result) : WritableButtons entries := by
  induction entries generalizing draft with
  | nil => exact nofun
  | cons entry rest ih =>
      obtain ⟨next, hnext, hrest⟩ := Traced.outcome_bind_eq_ok.mp h
      rw [addEntry_eq] at hnext
      obtain ⟨u, hguard, -⟩ := Traced.outcome_bind_eq_ok.mp hnext
      exact writableButtons_cons.mpr ⟨requireWritable_eq_ok.mp hguard, ih hrest⟩

/-! ## Fields -/

/-- The field has this rule, under its own name. -/
def Defines (f : String × Dict) (e : String × Rule) : Prop :=
  e.1 = f.1 ∧ (compiledRule f).outcome = .ok e.2

/-- A field has its rule where its name can be written and the pattern of that rule compiles. -/
theorem compiledRule_eq_ok {f : String × Dict} {r : Rule} :
    (compiledRule f).outcome = .ok r ↔ (fieldRule f.2).outcome = .ok r ∧
      (f.2.getD "name").isWritable = true ∧
        ∃ pattern, r.compiledPattern (.text f.1) = .ok pattern := by
  simp only [compiledRule, Traced.outcome_bind_eq_ok, Traced.outcome_ofExcept,
    Traced.outcome_pure, requireWritable_eq_ok, exists_const, Except.ok.injEq]
  constructor
  · rintro ⟨rule, hrule, hname, pattern, hpattern, rfl⟩
    exact ⟨hrule, hname, pattern, hpattern⟩
  · rintro ⟨hrule, hname, pattern, hpattern⟩
    exact ⟨r, hrule, hname, pattern, hpattern, rfl⟩

/-- **Fields are added when each of them has a rule.** -/
theorem addFields_eq_ok {s t : Schema} {fields : Named Dict} :
    (addFields s fields).outcome = .ok t ↔
      ∃ rules, List.Forall₂ Defines fields rules ∧ t = s.addAll rules := by
  induction fields generalizing s with
  | nil => simp [addFields, Schema.addAll, eq_comm]
  | cons f rest ih =>
      simp only [addFields, Traced.outcome_bind_eq_ok, ih]
      constructor
      · rintro ⟨r, hr, rules, hrules, rfl⟩
        exact ⟨(f.1, r) :: rules, .cons ⟨rfl, hr⟩ hrules, rfl⟩
      · rintro ⟨rules, hrules, rfl⟩
        obtain ⟨⟨name, r⟩, rules, ⟨hname, hr⟩, hrest, rfl⟩ :=
          List.forall₂_cons_left_iff.mp hrules
        obtain rfl : name = f.1 := hname
        exact ⟨r, hr, rules, hrest, rfl⟩

theorem names_of_defines {fields : Named Dict} {rules : Named Rule}
    (h : List.Forall₂ Defines fields rules) : Named.names rules = Named.names fields :=
  map_eq_of_forall₂ (fun _ _ hdefines => hdefines.1) h

/-! ## The button -/

/-- The text that an entry gives to the button. -/
def buttonText? (d : Dict) : Option String :=
  let value := d.getD "value"
  if value.truthy then some value.display else none

/-- The class that an entry gives to the button. -/
def buttonClass? (d : Dict) : Option String :=
  let className := (d.get? "className").getD (d.getD "class_name")
  if className.truthy then some className.display else none

/-- The attributes that an entry gives to the button. -/
def buttonAttrs? (d : Dict) : Option Dict :=
  (d.get? "attrs").bind Value.dict?

theorem applySubmit_eq (d : Dict) (b : SubmitOptions) :
    applySubmit d b =
      ⟨(buttonText? d).getD b.text, (buttonClass? d).getD b.className,
        (buttonAttrs? d).elim b.attrs b.attrs.union⟩ := by
  have hgiven (v : Value) (otherwise : String) :
      (if v.truthy then v.display else otherwise) =
        (if v.truthy then some v.display else none).getD otherwise := by
    split <;> rfl
  have hattrs : (applySubmit d b).attrs = (buttonAttrs? d).elim b.attrs b.attrs.union := by
    unfold applySubmit buttonAttrs?
    cases d.get? "attrs" with
    | none => rfl
    | some v => cases v <;> rfl
  exact congr (congrArg₂ SubmitOptions.mk (hgiven _ _) (hgiven _ _)) hattrs

theorem getLastD_filterMap_cons {α β : Type} (f : α → Option β) (a : α) (l : List α) (b : β) :
    ((a :: l).filterMap f).getLastD b = (l.filterMap f).getLastD ((f a).getD b) := by
  cases h : f a with
  | none => rw [List.filterMap_cons_none h, Option.getD_none]
  | some c => rw [List.filterMap_cons_some h, List.getLastD_cons, Option.getD_some]

/-- **The last text and the last class that are given count**, and attributes are joined. -/
theorem foldl_applySubmit (buttons : List Dict) (b : SubmitOptions) :
    buttons.foldl (fun b d => applySubmit d b) b =
      ⟨(buttons.filterMap buttonText?).getLastD b.text,
        (buttons.filterMap buttonClass?).getLastD b.className,
        (buttons.filterMap buttonAttrs?).foldl Dict.union b.attrs⟩ := by
  induction buttons generalizing b with
  | nil => rfl
  | cons d rest ih =>
      rw [List.foldl_cons, ih, applySubmit_eq, getLastD_filterMap_cons, getLastD_filterMap_cons]
      cases h : buttonAttrs? d with
      | none => rw [List.filterMap_cons_none h, Option.elim_none]
      | some attrs => rw [List.filterMap_cons_some h, Option.elim_some, List.foldl_cons]

/-! ## Whole configurations -/

/-- A configuration that is a list, once the options are resolved. -/
theorem build_eq {config : Value} {options : Except Fault RenderOptions}
    (h : entriesOf config = .ok entries) (hbuttons : WritableButtons entries) :
    build config options = do
      let o ← Traced.ofExcept options
      let s ← addFields Schema.empty (entries.filterMap field?)
      return (s, withButtons o (entries.filterMap button?)) := by
  unfold build
  rw [h]
  show (pure entries >>= _) = _
  simp only [pure_bind, addEntries_eq _ hbuttons]

/-- A configuration is not built if its words about the button cannot be written. -/
theorem writableButtons_of_build {config : Value} {options : Except Fault RenderOptions}
    {draft : Draft} (h : (build config options).outcome = .ok draft)
    (hentries : entriesOf config = .ok entries) : WritableButtons entries := by
  rw [build, hentries] at h
  obtain ⟨_, hread, h⟩ := Traced.outcome_bind_eq_ok.mp h
  obtain rfl := Except.ok.inj hread
  obtain ⟨_, -, h⟩ := Traced.outcome_bind_eq_ok.mp h
  exact writableButtons_of_addEntries h

/-- What entries and options come to. -/
structure Assembles (entries : List Value) (o : RenderOptions) (schema : Schema)
    (resolved : RenderOptions) : Prop where
  /-- The names of the fields, each where it came first. -/
  order : schema.order = (Named.names (entries.filterMap field?)).eraseDups
  /-- A field is as its last entry has it. -/
  last : ∀ before name d after, entries.filterMap field? = before ++ (name, d) :: after →
    name ∉ Named.names after → ∃ r, (fieldRule d).outcome = .ok r ∧ schema.get name = .ok r
  form : resolved.form = o.form
  /-- The button has the last text and the last class that are given, and all attributes. -/
  submit : resolved.submit =
    ⟨((entries.filterMap button?).filterMap buttonText?).getLastD o.submit.text,
      ((entries.filterMap button?).filterMap buttonClass?).getLastD o.submit.className,
      ((entries.filterMap button?).filterMap buttonAttrs?).foldl Dict.union o.submit.attrs⟩
  classes : resolved.classes = o.classes

theorem build_eq_ok {config : Value} {options : Except Fault RenderOptions} {schema : Schema}
    {resolved : RenderOptions} :
    (build config options).outcome = .ok (schema, resolved) ↔
      ∃ entries o rules, entriesOf config = .ok entries ∧ options = .ok o ∧
        WritableButtons entries ∧ List.Forall₂ Defines (entries.filterMap field?) rules ∧
        schema = Schema.empty.addAll rules ∧
        resolved = withButtons o (entries.filterMap button?) := by
  cases hentries : entriesOf config with
  | error fault =>
      refine iff_of_false ?_ (by simp)
      rw [build, hentries]
      intro h
      cases h
  | ok entries =>
      have hparts (hbuttons : WritableButtons entries) :
          (build config options).outcome = .ok (schema, resolved) ↔
            ∃ o, options = .ok o ∧ ∃ s,
              (∃ rules, List.Forall₂ Defines (entries.filterMap field?) rules ∧
                s = Schema.empty.addAll rules) ∧
              s = schema ∧ withButtons o (entries.filterMap button?) = resolved := by
        simp only [build_eq hentries hbuttons, Traced.outcome_bind_eq_ok, Traced.outcome_ofExcept,
          Traced.outcome_pure, Except.ok.injEq, addFields_eq_ok, Prod.mk.injEq]
      constructor
      · intro h
        have hbuttons := writableButtons_of_build h hentries
        obtain ⟨o, ho, s, ⟨rules, hrules, rfl⟩, rfl, rfl⟩ := (hparts hbuttons).mp h
        exact ⟨entries, o, rules, rfl, ho, hbuttons, hrules, rfl, rfl⟩
      · rintro ⟨_, o, rules, hread, ho, hbuttons, hrules, rfl, rfl⟩
        obtain rfl := Except.ok.inj hread
        exact (hparts hbuttons).mpr ⟨o, ho, _, ⟨rules, hrules, rfl⟩, rfl, rfl⟩

/-- The last entry of a name is the one whose rule is found. -/
theorem get_addAll {fields : Named Dict} {rules : Named Rule}
    (h : List.Forall₂ Defines fields rules) {before after : Named Dict} {name : String} {d : Dict}
    (hfields : fields = before ++ (name, d) :: after) (hlast : name ∉ Named.names after) :
    ∃ r, (fieldRule d).outcome = .ok r ∧ (Schema.empty.addAll rules).get name = .ok r := by
  rw [hfields] at h
  obtain ⟨⟨n, r⟩, rest, ⟨hname, hr⟩, hrest, hdrop⟩ :=
    List.forall₂_cons_right_iff.mp (List.forall₂_drop_append _ _ _ h.flip)
  obtain rfl : n = name := hname
  rw [← names_of_defines hrest.flip] at hlast
  refine ⟨r, (compiledRule_eq_ok.mp hr).1, ?_⟩
  rw [← List.take_append_drop before.length rules, hdrop, Schema.get, Schema.find?_addAll_empty,
    Named.lookup_reverse hlast]

/-- **A configuration is its fields and its buttons.** The fields come in the order of their names,
each as it is defined last; the options are changed by the buttons alone; and entries of either
kind may be moved among those of the other, and what is neither put in or left out, without any
difference. -/
theorem build_assembles {config : Value} {options : Except Fault RenderOptions} {schema : Schema}
    {resolved : RenderOptions} (h : (build config options).outcome = .ok (schema, resolved)) :
    ∃ entries o, entriesOf config = .ok entries ∧ options = .ok o ∧
      Assembles entries o schema resolved ∧
      ∀ others : List Value, others.filterMap field? = entries.filterMap field? →
        others.filterMap button? = entries.filterMap button? →
        build (.list others) options = build config options := by
  obtain ⟨entries, o, rules, hentries, ho, hwritable, hrules, rfl, rfl⟩ := build_eq_ok.mp h
  refine ⟨entries, o, hentries, ho, ⟨?_, ?_, rfl, foldl_applySubmit _ _, rfl⟩, ?_⟩
  · rw [Schema.order_addAll_empty, names_of_defines hrules]
  · intro before name d after hfields hlast
    exact get_addAll hrules hfields hlast
  · intro others hfields hbuttons
    have hothers : entriesOf (.list others) = .ok others := rfl
    have hwritable' : WritableButtons others := by
      rw [WritableButtons, hbuttons]
      exact hwritable
    rw [build_eq hentries hwritable, build_eq hothers hwritable', hfields, hbuttons]

/-- Two definitions of one field, two entries for the button, and entries that are neither. -/
def mixedEntries : List Value :=
  [.dict [(.text "name", .text "age"), (.text "rules", .text "min:1")],
    .text "stray",
    .dict [(.text "type", .text "submit"), (.text "value", .text "Go")],
    .dict [(.text "name", .int 7), (.text "label", .text "Lucky")],
    .dict [(.text "label", .text "nameless")],
    .dict [(.text "type", .text "submit"), (.text "name", .text "age"), (.text "value", .text ""),
      (.text "className", .text "btn")],
    .dict [(.text "name", .text "age"), (.text "rules", .text "min:9")]]

theorem build_assembles_mixed :
    ∃ schema resolved r,
      (build (.list mixedEntries) (.ok ⟨⟨"f", "#", "POST", "", []⟩, ⟨"Send", "", []⟩,
        ⟨"", "", "", "", ""⟩⟩)).outcome = .ok (schema, resolved) ∧
      schema.order = ["age", "7"] ∧ schema.get "age" = .ok r ∧ r.min = some 9 ∧
      resolved.submit = ⟨"Go", "btn", []⟩ := by
  obtain ⟨⟨schema, resolved⟩, hbuild⟩ : ∃ draft, (build (.list mixedEntries)
      (.ok ⟨⟨"f", "#", "POST", "", []⟩, ⟨"Send", "", []⟩, ⟨"", "", "", "", ""⟩⟩)).outcome =
        .ok draft := ⟨_, rfl⟩
  obtain ⟨entries, o, hentries, ho, hassembles, -⟩ := build_assembles hbuild
  obtain rfl := Except.ok.inj hentries
  obtain rfl := Except.ok.inj ho
  obtain ⟨r, hr, hget⟩ := hassembles.last [_, _] _ _ [] rfl (by simp)
  refine ⟨schema, resolved, r, hbuild, hassembles.order, hget, ?_, hassembles.submit⟩
  obtain rfl := Except.ok.inj hr
  rfl

end Builder
end FieldRules
