import FieldRules.Form.Builder
import FieldRules.Proofs.Options.Plain

/-!
# Proofs — Omission

A `null` in options, in a section or in an entry for the button says the same as no entry at all
(`build_compact`). There is one exception: of the two spellings of a class name the first hides the
second wherever it stands, also as a `null` (`Dict.isMasked`). So a hidden spelling has to go with
the `null` that hides it; where nothing is hidden the `null`s alone make no difference.
-/

namespace FieldRules

/-! ## Hidden class names -/

namespace Dict

variable {d : Dict} {name : String}

/-- A class name, which the common spelling has even as a `null`. -/
def className (d : Dict) : Value :=
  (d.get? "className").getD (d.getD "class_name")

/-- A class name is given in the second spelling and hidden by a `null` in the common one. -/
def isMasked (d : Dict) : Bool :=
  (d.get? "className").any Value.isNull && (d.given? "class_name").isSome

/-- The mapping without a class name that is hidden. -/
def unmask (d : Dict) : Dict :=
  if d.isMasked then d.erase "class_name" else d

theorem unmask_of_not_isMasked (h : d.isMasked = false) : d.unmask = d := by
  rw [unmask, h]
  rfl

theorem isMapping_unmask (hd : d.IsMapping) : d.unmask.IsMapping := by
  unfold unmask
  split
  · exact hd.filter _
  · exact hd

theorem get?_unmask (d : Dict) (h : name ≠ "class_name") : d.unmask.get? name = d.get? name := by
  unfold unmask
  split
  · rw [get?_erase, if_neg h]
  · rfl

theorem getD_compact_unmask (hd : d.IsMapping) (h : name ≠ "class_name") :
    d.unmask.compact.getD name = d.getD name := by
  rw [getD_compact (isMapping_unmask hd), getD, get?_unmask d h, getD]

/-- **Once a hidden class name is gone** the `null`s do not matter for the class name. -/
theorem className_compact_unmask (hd : d.IsMapping) : d.unmask.compact.className = d.className := by
  have hcamel : d.unmask.compact.get? "className" = d.given? "className" := by
    rw [get?_compact (isMapping_unmask hd), given?, given?, get?_unmask d (by decide)]
  rw [className, hcamel, getD_compact (isMapping_unmask hd), className, given?]
  cases hget : d.get? "className" with
  | none =>
      have hmasked : d.isMasked = false := by rw [isMasked, hget]; rfl
      rw [unmask_of_not_isMasked hmasked]
      rfl
  | some v =>
      cases hnull : v.isNull with
      | false =>
          have hpresent := Value.present?_eq_some.mpr ⟨rfl, Options.isNull_eq_false.mp hnull⟩
          rw [Option.bind_some, hpresent]
          rfl
      | true =>
          -- the second spelling is not looked at: it is `null` or else it is the hidden one
          obtain rfl : v = .null := by
            cases v with
            | null => rfl
            | _ => cases hnull
          show d.unmask.getD "class_name" = .null
          cases hsnake : d.given? "class_name" with
          | none =>
              have hmasked : d.isMasked = false := by rw [isMasked, hsnake]; simp
              rw [unmask_of_not_isMasked hmasked]
              exact Rule.getD_of_not_given hsnake
          | some u =>
              have hmasked : d.isMasked = true := by rw [isMasked, hget, hsnake]; rfl
              rw [unmask, if_pos hmasked, getD, get?_erase, if_pos rfl]
              rfl

end Dict

/-! ## Options without nulls -/

namespace Options

open Dict (compact unmask)

variable {d : Dict}

/-- A value without its nulls, if it is a mapping. -/
def compactValue : Value → Value
  | .dict entries => .dict (compact entries)
  | v => v

/-- The keys of the sections. -/
def partNames : List String :=
  ["form", "submit", "classes"]

/-- Options with the nulls left out of their sections. -/
def compactParts (d : Dict) : Dict :=
  d.map fun e => if partNames.any (fun name => Dict.keyIs name e.1) then (e.1, compactValue e.2)
    else e

/-- Options with all nulls left out. -/
def compactOptions (d : Dict) : Dict :=
  compactParts (compact d)

theorem get?_compactParts (d : Dict) (name : String) :
    (compactParts d).get? name =
      if name ∈ partNames then (d.get? name).map compactValue else d.get? name := by
  induction d with
  | nil => simp [compactParts]
  | cons e rest ih =>
      obtain ⟨k, v⟩ := e
      have hcons : compactParts ((k, v) :: rest) =
          (k, if partNames.any (fun name => Dict.keyIs name k) then compactValue v else v) ::
            compactParts rest := by
        rw [compactParts, List.map_cons, compactParts]
        split <;> rfl
      rw [hcons, Dict.get?_cons, Dict.get?_cons, ih]
      by_cases hkey : Dict.keyIs name k = true
      · rw [if_pos hkey, if_pos hkey, Dict.keyIs_eq_true.mp hkey]
        by_cases hname : name ∈ partNames <;> simp [hname]
      · rw [if_neg hkey, if_neg hkey]

variable (library : Library)

theorem sectionEntries_compact (entries : Dict) :
    sectionEntries library (compact entries) = sectionEntries library entries := by
  induction entries with
  | nil => rfl
  | cons e rest ih =>
      obtain ⟨k, v⟩ := e
      cases hnull : v.isNull with
      | true =>
          rw [sectionEntries, if_pos hnull, ← ih]
          simp [compact, hnull]
      | false =>
          have hcons : compact ((k, v) :: rest) = (k, v) :: compact rest := by
            simp [compact, hnull]
          rw [hcons, sectionEntries, sectionEntries, ih]

/-- Beside the sections nothing but nulls is left out. -/
theorem getD_compactOptions (hd : d.IsMapping) {name : String} (hname : name ∉ partNames)
    (hclass : name ≠ "class_name") : (compactOptions (unmask d)).getD name = d.getD name := by
  rw [compactOptions, Dict.getD, get?_compactParts, if_neg hname, ← Dict.getD,
    Dict.getD_compact_unmask hd hclass]

theorem className_compactOptions (hd : d.IsMapping) :
    (compactOptions (unmask d)).className = d.className := by
  have hcamel := get?_compactParts (compact (unmask d)) "className"
  have hsnake := get?_compactParts (compact (unmask d)) "class_name"
  rw [if_neg (by decide)] at hcamel hsnake
  rw [compactOptions, Dict.className, Dict.getD, hcamel, hsnake, ← Dict.getD, ← Dict.className,
    Dict.className_compact_unmask hd]

theorem sectionOf_eq_match (d : Dict) (p : Part) :
    sectionOf library d p =
      match d.getD p.name with
      | .dict entries => do return Dict.ofEntries (← sectionEntries library entries)
      | _ => .ok [] := by
  unfold sectionOf Dict.getD
  cases d.get? p.name with
  | none => rfl
  | some v => cases v <;> rfl

theorem sectionOf_compactOptions (hd : d.IsMapping) (p : Part) :
    sectionOf library (compactOptions (unmask d)) p = sectionOf library d p := by
  have hname : p.name ∈ partNames := by cases p <;> decide
  have hclass : p.name ≠ "class_name" := by cases p <;> decide
  have hgetD : (compactOptions (unmask d)).getD p.name = compactValue (d.getD p.name) := by
    rw [← Dict.getD_compact_unmask hd hclass, compactOptions, Dict.getD, get?_compactParts,
      if_pos hname, Dict.getD]
    cases (compact (unmask d)).get? p.name <;> rfl
  rw [sectionOf_eq_match, sectionOf_eq_match, hgetD]
  cases d.getD p.name with
  | dict entries =>
      show (sectionEntries library (compact entries) >>= _) =
        (sectionEntries library entries >>= _)
      rw [sectionEntries_compact]
  | _ => rfl

/-- The sections that are read do not change. -/
theorem ofDict_compactOptions (hd : d.IsMapping) :
    Sections.ofDict library (compactOptions (unmask d)) = Sections.ofDict library d := by
  have hflat {name : String} (hname : name ∉ partNames) (hclass : name ≠ "class_name") :=
    getD_compactOptions hd hname hclass
  have hform : flatForm (compactOptions (unmask d)) = flatForm d := by
    show flatEntry "id" _ ++ flatEntry "action" _ ++ flatEntry "method" _ ++
      flatEntry "className" (Dict.className (compactOptions (unmask d))) = _
    rw [hflat (by decide) (by decide), hflat (by decide) (by decide),
      hflat (by decide) (by decide), className_compactOptions hd]
    rfl
  have hsubmit : flatSubmit (compactOptions (unmask d)) = flatSubmit d := by
    rw [flatSubmit, flatSubmit, hflat (by decide) (by decide)]
  rw [Sections.ofDict, Sections.ofDict, hform, hsubmit, sectionOf_compactOptions library hd,
    sectionOf_compactOptions library hd, sectionOf_compactOptions library hd]

theorem resolve_compactOptions (hd : d.IsMapping) (deployment : Deployment) :
    resolve deployment (.dict (compactOptions (unmask d))) = resolve deployment (.dict d) := by
  rw [resolve_dict, resolve_dict, ofDict_compactOptions _ hd]

end Options

/-! ## Entries without nulls -/

namespace Builder

open Dict (compact unmask)

variable {e : Dict}

/-- An entry without its nulls, if it is for the button. -/
def compactEntry : Value → Value
  | .dict e => .dict (if isSubmit e then compact e else e)
  | v => v

/-- An entry without the class name that is hidden, if it is for the button. -/
def unmaskEntry : Value → Value
  | .dict e => .dict (if isSubmit e then unmask e else e)
  | v => v

theorem isSubmit_unmask (e : Dict) : isSubmit (unmask e) = isSubmit e := by
  rw [isSubmit, isSubmit, Dict.get?_unmask e (by decide)]

/-- Whether an entry is a button depends on its type, and no type is the same as a `null`. -/
theorem isSubmit_congr {e e' : Dict} (h : e.getD "type" = e'.getD "type") :
    isSubmit e = isSubmit e' := by
  unfold Dict.getD at h
  unfold isSubmit
  generalize e.get? "type" = found at h ⊢
  generalize e'.get? "type" = found' at h ⊢
  rcases found with - | v <;> rcases found' with - | v'
  · rfl
  · obtain rfl : Value.null = v' := h
    rfl
  · obtain rfl : v = .null := h
    rfl
  · obtain rfl : v = v' := h
    rfl

theorem isSubmit_compact_unmask (he : e.IsMapping) :
    isSubmit (compact (unmask e)) = isSubmit e :=
  isSubmit_congr (Dict.getD_compact_unmask he (by decide))

/-- The button is described the same. -/
theorem applySubmit_compact_unmask (he : e.IsMapping) (o : SubmitOptions) :
    applySubmit (compact (unmask e)) o = applySubmit e o := by
  have hread (e : Dict) : applySubmit e o =
      { text := if (e.getD "value").truthy then (e.getD "value").display else o.text
        className := if e.className.truthy then e.className.display else o.className
        attrs := match e.getD "attrs" with
          | .dict attrs => o.attrs.union attrs
          | _ => o.attrs } := by
    unfold applySubmit
    unfold Dict.getD
    cases e.get? "attrs" with
    | none => rfl
    | some v => cases v <;> rfl
  rw [hread, hread, Dict.getD_compact_unmask he (by decide),
    Dict.getD_compact_unmask he (by decide), Dict.className_compact_unmask he]

theorem isWritableSubmit_compact_unmask (he : e.IsMapping) :
    isWritableSubmit (compact (unmask e)) = isWritableSubmit e := by
  show ((Dict.getD _ "value").isWritable && (Dict.className _).isWritable) =
    ((Dict.getD _ "value").isWritable && (Dict.className _).isWritable)
  rw [Dict.getD_compact_unmask he (by decide), Dict.className_compact_unmask he]

/-- What an entry adds does not change. -/
theorem addEntry_compact (draft : Draft) {v : Value}
    (hv : ∀ e : Dict, v = .dict e → isSubmit e = true → e.IsMapping) :
    addEntry draft (compactEntry (unmaskEntry v)) = addEntry draft v := by
  cases v with
  | dict e =>
      cases hsubmit : isSubmit e with
      | false => simp only [unmaskEntry, compactEntry, hsubmit, Bool.false_eq_true, if_false]
      | true =>
          have he := hv e rfl hsubmit
          have hunmask : isSubmit (unmask e) = true := by
            rw [isSubmit_unmask, hsubmit]
          have htidy : isSubmit (compact (unmask e)) = true := by
            rw [isSubmit_compact_unmask he, hsubmit]
          simp only [unmaskEntry, compactEntry, hsubmit, hunmask, if_true, addEntry, htidy,
            isWritableSubmit_compact_unmask he, applySubmit_compact_unmask he]
  | _ => rfl

theorem addEntries_compact (draft : Draft) {entries : List Value}
    (hentries : ∀ e : Dict, .dict e ∈ entries → isSubmit e = true → e.IsMapping) :
    addEntries draft (entries.map fun v => compactEntry (unmaskEntry v)) =
      addEntries draft entries := by
  induction entries generalizing draft with
  | nil => rfl
  | cons v rest ih =>
      have hv : ∀ e : Dict, v = .dict e → isSubmit e = true → e.IsMapping := by
        rintro e rfl
        exact hentries e (.head _)
      rw [List.map_cons, addEntries, addEntries, addEntry_compact draft hv]
      refine congrArg _ (funext fun next => ih next fun e he => hentries e (.tail _ he))

variable {d : Dict} {entries : List Value}

/-- **Nulls are as good as nothing.** With the nulls left out of options, of their sections and of
the entries for the button, the options are resolved to the same and the form is built the same,
once class names in the second spelling are gone that a `null` in the first hides. If none is hidden
that is all. -/
theorem build_compact (deployment : Deployment) (hd : d.IsMapping)
    (hentries : ∀ e : Dict, .dict e ∈ entries → isSubmit e = true → e.IsMapping) :
    (Options.resolve deployment (.dict (Options.compactOptions (unmask d))) =
        Options.resolve deployment (.dict d) ∧
      build (.list ((entries.map unmaskEntry).map compactEntry))
          (Options.resolve deployment (.dict (Options.compactOptions (unmask d)))) =
        build (.list entries) (Options.resolve deployment (.dict d))) ∧
    (d.isMasked = false → (∀ e : Dict, .dict e ∈ entries → isSubmit e = true → e.isMasked = false) →
      Options.resolve deployment (.dict (Options.compactOptions d)) =
        Options.resolve deployment (.dict d) ∧
      build (.list (entries.map compactEntry))
          (Options.resolve deployment (.dict (Options.compactOptions d))) =
        build (.list entries) (Options.resolve deployment (.dict d))) := by
  have hresolve := Options.resolve_compactOptions hd deployment
  have hbuild (options : Except Fault RenderOptions) :
      build (.list ((entries.map unmaskEntry).map compactEntry)) options =
        build (.list entries) options := by
    rw [List.map_map]
    show (Traced.ofExcept options >>= fun resolved => addEntries (Schema.empty, resolved)
      (entries.map fun v => compactEntry (unmaskEntry v))) = _
    simp only [addEntries_compact _ hentries]
    rfl
  have htidy := hbuild (Options.resolve deployment (.dict d))
  refine ⟨⟨hresolve, by rw [hresolve, htidy]⟩, fun hmasked hmaskedEntries => ?_⟩
  have hentriesEq : entries.map unmaskEntry = entries := by
    rw [List.map_congr_left (g := id), List.map_id]
    intro v hv
    cases v with
    | dict e =>
        cases hsubmit : isSubmit e with
        | false => simp only [unmaskEntry, hsubmit, Bool.false_eq_true, if_false, id]
        | true =>
            have heq := Dict.unmask_of_not_isMasked (hmaskedEntries e hv hsubmit)
            simp only [unmaskEntry, hsubmit, if_true, heq, id]
    | _ => rfl
  rw [Dict.unmask_of_not_isMasked hmasked] at hresolve
  rw [hentriesEq] at htidy
  exact ⟨hresolve, by rw [hresolve, htidy]⟩

/-- Options with nulls of all sorts, none of which hides anything. -/
def sparseOptions : Dict :=
  [(.text "formId", .null), (.text "class_name", .text "wide"), (.text "className", .text "tall"),
    (.text "submit", .dict [(.text "className", .null), (.text "class_name", .text "btn")])]

def sparseButton : Dict :=
  [(.text "type", .text "submit"), (.text "value", .null), (.text "class_name", .text "big")]

theorem build_compact_sparse :
    build (.list [.dict [(.text "type", .text "submit"), (.text "class_name", .text "big")]])
        (Options.resolve .standard (.dict
          [(.text "class_name", .text "wide"), (.text "className", .text "tall"),
            (.text "submit", .dict [(.text "class_name", .text "btn")])])) =
      build (.list [.dict sparseButton]) (Options.resolve .standard (.dict sparseOptions)) := by
  have hd : Dict.IsMapping sparseOptions := by
    constructor <;> simp [sparseOptions, Dict.IsKeyed, Dict.keys, Value.isKey, Value.same]
  have he : Dict.IsMapping sparseButton := by
    constructor <;> simp [sparseButton, Dict.IsKeyed, Dict.keys, Value.isKey, Value.same]
  have hentries : ∀ e : Dict, .dict e ∈ [Value.dict sparseButton] → e = sparseButton := by
    intro e h
    exact Value.dict.inj (List.mem_singleton.mp h)
  have hmasked : Dict.isMasked sparseButton = false := rfl
  exact ((build_compact .standard hd fun e h _ => hentries e h ▸ he).2 rfl
    fun e h _ => hentries e h ▸ hmasked).2

/-- A `null` that hides a class name. -/
def maskedName : Dict :=
  [(.text "className", .null), (.text "class_name", .text "wide")]

def maskedButton : Dict :=
  (.text "type", .text "submit") :: maskedName

/-- A hidden class name comes to light when the `null` goes, in options and in an entry. -/
theorem build_compact_masked :
    Options.resolve .standard (.dict (Options.compactOptions maskedName)) ≠
        Options.resolve .standard (.dict maskedName) ∧
      build (.list [compactEntry (.dict maskedButton)]) (Options.resolve .standard (.dict [])) ≠
        build (.list [.dict maskedButton]) (Options.resolve .standard (.dict [])) := by
  constructor
  · intro h
    have hclass := congrArg (fun o => o.toOption.map (·.form.className)) h
    revert hclass
    decide
  · intro h
    have hclass := congrArg (fun t => t.outcome.toOption.map (·.2.submit.className)) h
    revert hclass
    decide

end Builder
end FieldRules
