import FieldRules.Proofs.Markup.Attributes
import FieldRules.Proofs.Markup.Shape
import FieldRules.Proofs.Rule.Sources

/-!
# Proofs — Constraints

The constraints that markup states. Of the tags of a rendered field exactly one is an input, and
reading its attributes gives the constraints of the rule (`renderField_mirrors`): the same bounds,
digit for digit, the same pattern and the same type. `Mirrors` says what that means without
reference to how attributes are written.
-/

namespace FieldRules.Markup

open Number (Numeric)

/-! ## What attributes state -/

/-- The attributes of a tag: what follows its name. -/
def Segment.attributes? (seg : Segment) : Option (Named (Option String)) :=
  readAttributes (String.ofList (seg.inside.dropWhile (· ≠ ' ')))

/-- The integer that a text is: decimal digits, with a sign if any. -/
def readInteger? (cs : List Char) : Option Int :=
  let (negative, digits) := Number.Literal.readSign cs
  if digits.isEmpty || !digits.all Char.isDigit then none
  else
    let n : Int := ((Number.ofDigits 10 digits : Nat) : Int)
    some (if negative then -n else n)

/-- The text denotes the number exactly. -/
def Denotes (text : String) : Numeric → Prop
  | .int n => readInteger? text.toList = some n
  | .double x => Number.parse? text.toList = .ok (some x)

/-- The attribute is there exactly when there is a bound, and its text denotes it. -/
def StatesBound (attrs : Named (Option String)) (name : String) : Option Numeric → Prop
  | none => attrs.lookup name = none
  | some bound => ∃ text, attrs.lookup name = some (some text) ∧ Denotes text bound

/-- The attributes state the constraints of the rule, no more and no fewer. -/
structure Mirrors (attrs : Named (Option String)) (r : Rule) : Prop where
  distinct : attrs.names.Nodup
  required : attrs.lookup "required" = if r.required then some none else none
  minlength : StatesBound attrs "minlength" (r.min.map .int)
  maxlength : StatesBound attrs "maxlength" (r.max.map .int)
  min : StatesBound attrs "min" r.minValue
  max : StatesBound attrs "max" r.maxValue
  pattern : attrs.lookup "pattern" = (r.patternSource?.filter (!·.isEmpty)).map some
  type : attrs.lookup "type" = some (some ((r.type.filter inputTypes.contains).getD "text"))

/-! ## Numbers -/

theorem readInteger?_integerChars (n : Int) : readInteger? (Number.integerChars n) = some n := by
  have hne : (Number.decimalDigits n.natAbs).isEmpty = false := by
    simpa using Number.decimalDigits_ne_nil n.natAbs
  have hall : (Number.decimalDigits n.natAbs).all Char.isDigit = true :=
    List.all_eq_true.mpr fun c hc => Number.isDigit_of_mem_decimalDigits hc
  simp only [readInteger?, Number.readSign_integerChars, hne, hall, Bool.not_true, Bool.or_false,
    Bool.false_eq_true, if_false, Number.ofDigits_decimalDigits]
  exact congrArg some (Number.signed_natAbs n)

theorem denotes_int (n : Int) : Denotes (Value.asText (.int n)) (.int n) := by
  rw [Denotes, Number.toList_asText_int, readInteger?_integerChars]

/-- A limit is written as a text that denotes it. -/
theorem denotes_reduced {y : Numeric} (h : y.IsReduced) :
    Denotes (Value.asText (.ofNumeric y)) y := by
  cases y with
  | int n => exact denotes_int n
  | double x =>
      obtain ⟨hfinite, hintegral⟩ := h
      rw [Denotes, Value.ofNumeric, Number.toList_asText_float hintegral]
      exact Number.parse?_chars hfinite

/-! ## Attributes by name -/

/-- What a value carries when it is written. -/
def carriedValue? : Value → Option (Option String)
  | .null => none
  | .bool false => none
  | .bool true => some none
  | v => some (some v.asText)

theorem carried?_eq (e : Value × Value) :
    carried? e = (carriedValue? e.2).map (e.1.asText, ·) := by
  obtain ⟨key, value⟩ := e
  cases value with
  | bool b => cases b <;> rfl
  | _ => rfl

/-- The keys are names of the list, in its order. -/
def KeyedBy (attrs : Dict) (names : List String) : Prop :=
  (attrs.map (·.1)).Sublist (names.map .text)

variable {attrs others : Dict} {names names' : List String} {name key : String}

theorem KeyedBy.append (h : KeyedBy attrs names) (h' : KeyedBy others names') :
    KeyedBy (attrs ++ others) (names ++ names') := by
  unfold KeyedBy
  rw [List.map_append, List.map_append]
  exact List.Sublist.append h h'

theorem keyedBy_singleton (name : String) (v : Value) : KeyedBy [(.text name, v)] [name] :=
  List.Sublist.refl _

theorem keyedBy_entryFor {α : Type} (name : String) (value : α → Value) (a : Option α) :
    KeyedBy (entryFor name value a) [name] := by
  cases a with
  | none => exact List.nil_sublist _
  | some a => exact keyedBy_singleton name _

theorem get?_entryFor {α : Type} (name : String) (value : α → Value) (a : Option α) :
    Dict.get? (entryFor name value a) key = if name = key then a.map value else none := by
  cases a <;> simp [entryFor, Dict.get?_cons]

theorem get?_of_not_mem (hkeys : attrs.map (·.1) = names.map .text) (hname : name ∉ names) :
    attrs.get? name = none := by
  rw [Dict.get?_eq_none, Dict.hasKey_eq_false]
  intro j hj
  rw [Dict.keys, hkeys] at hj
  obtain ⟨n, hn, rfl⟩ := List.mem_map.mp hj
  rw [Dict.same_text, Dict.keyIs_text]
  exact beq_false_of_ne fun heq => hname (heq ▸ hn)

/-- What is carried under a name is what the mapping holds there. -/
theorem lookup_carried (hkeys : attrs.map (·.1) = names.map .text) (hnames : names.Nodup)
    (name : String) :
    (attrs.filterMap carried?).lookup name = (attrs.get? name).bind carriedValue? := by
  induction attrs generalizing names with
  | nil => rfl
  | cons e rest ih =>
      cases names with
      | nil => cases hkeys
      | cons n names =>
          obtain ⟨k, v⟩ := e
          obtain ⟨rfl, hrest⟩ := List.cons.inj hkeys
          obtain ⟨hnew, hnames⟩ := List.nodup_cons.mp hnames
          rw [List.filterMap_cons, carried?_eq, Dict.get?_cons, Dict.keyIs_text]
          by_cases hname : n = name
          · subst hname
            have hlater := ih hrest hnames
            rw [get?_of_not_mem hrest hnew] at hlater
            cases hv : carriedValue? v with
            | none => simpa [hv] using hlater
            | some w => simp [hv]
          · have hlater := ih hrest hnames
            cases hv : carriedValue? v with
            | none => simpa [hname, hv] using hlater
            | some w => simpa [hname, hv, Named.lookup_cons, Ne.symm hname] using hlater

/-- What is carried keeps the names and their order. -/
theorem names_carried (hkeys : attrs.map (·.1) = names.map .text) :
    (Named.names (attrs.filterMap carried?)).Sublist names := by
  induction attrs generalizing names with
  | nil => exact List.nil_sublist _
  | cons e rest ih =>
      cases names with
      | nil => cases hkeys
      | cons n names =>
          obtain ⟨k, v⟩ := e
          obtain ⟨rfl, hrest⟩ := List.cons.inj hkeys
          rw [List.filterMap_cons, carried?_eq]
          cases carriedValue? v with
          | none => exact (ih hrest).cons _
          | some w => exact (ih hrest).cons_cons _

/-! ## Attributes of an input -/

/-- The names that an input's attributes can have. -/
def inputNames : List String :=
  ["type", "name", "id"] ++ (["required"] ++ ["minlength"] ++ ["maxlength"] ++ ["min"] ++ ["max"] ++
    ["pattern"]) ++ ["placeholder", "class"]

variable {r : Rule} {placeholder : Value} {className : String}

theorem keyedBy_constraintEntries (r : Rule) : KeyedBy (constraintEntries r)
    (["required"] ++ ["minlength"] ++ ["maxlength"] ++ ["min"] ++ ["max"] ++ ["pattern"]) := by
  have hrequired : KeyedBy (if r.required then [(.text "required", .bool true)] else [])
      ["required"] := by
    split
    · exact keyedBy_singleton _ _
    · exact List.nil_sublist _
  exact ((((hrequired.append (keyedBy_entryFor _ _ _)).append (keyedBy_entryFor _ _ _)).append
    (keyedBy_entryFor _ _ _)).append (keyedBy_entryFor _ _ _)).append (keyedBy_entryFor _ _ _)

/-- The attributes of a control before any are replaced. -/
def ownAttributes (name : String) (r : Rule) (placeholder : Value) (className : String) : Dict :=
  [(.text "type", ((typeEntry r).get? "type").getD (.text "text")), (.text "name", .text name),
    (.text "id", givenOr r.id (.text name))] ++ constraintEntries r ++
  [(.text "placeholder", placeholder), (.text "class", textOrNull className)]

/-- Without attributes that replace them, a rule gives its input those. -/
theorem controlAttributes_of_hasNoAttributes (h : r.HasNoAttributes) :
    controlAttributes name r placeholder className =
      ownAttributes name r placeholder className := by
  rw [controlAttributes, h.own, h.presented]
  rfl

theorem keyedBy_ownAttributes (name : String) (r : Rule) (placeholder : Value)
    (className : String) : KeyedBy (ownAttributes name r placeholder className) inputNames := by
  have hfront (type name id : Value) :
      KeyedBy [(.text "type", type), (.text "name", name), (.text "id", id)]
        ["type", "name", "id"] := List.Sublist.refl _
  have hback (placeholder className : Value) :
      KeyedBy [(.text "placeholder", placeholder), (.text "class", className)]
        ["placeholder", "class"] := List.Sublist.refl _
  exact ((hfront _ _ _).append (keyedBy_constraintEntries r)).append (hback _ _)

theorem keyedBy_controlAttributes (h : r.HasNoAttributes) :
    KeyedBy (controlAttributes name r placeholder className) inputNames := by
  rw [controlAttributes_of_hasNoAttributes h]
  exact keyedBy_ownAttributes name r placeholder className

theorem hasPlainNames_of_keyedBy (h : KeyedBy attrs names) (hplain : ∀ n ∈ names, IsPlainName n) :
    HasPlainNames attrs := by
  intro e he
  obtain ⟨n, hn, hkey⟩ := List.mem_map.mp (h.mem (List.mem_map_of_mem he))
  exact ⟨n, hkey.symm, hplain n hn⟩

theorem statesBound_of_lookup {α : Type} {read : Named (Option String)} (value : α → Value)
    (number : α → Numeric) {bound : Option α}
    (hlookup : read.lookup name = (bound.map value).bind carriedValue?)
    (hcarried : ∀ a, carriedValue? (value a) = some (some (value a).asText))
    (hdenotes : ∀ a ∈ bound, Denotes (value a).asText (number a)) :
    StatesBound read name (bound.map number) := by
  cases bound with
  | none => exact hlookup
  | some a =>
      refine ⟨(value a).asText, ?_, hdenotes a rfl⟩
      rw [hlookup]
      exact hcarried a

theorem carriedValue?_ofNumeric (y : Numeric) :
    carriedValue? (.ofNumeric y) = some (some (Value.asText (.ofNumeric y))) := by
  cases y <;> rfl

theorem get?_controlAttributes (h : r.HasNoAttributes) (hfront : key ∉ ["type", "name", "id"])
    (hback : key ∉ ["placeholder", "class"]) :
    (controlAttributes name r placeholder className).get? key = (constraintEntries r).get? key := by
  have hlast : Dict.get? [(.text "placeholder", placeholder),
      (.text "class", textOrNull className)] key = none := get?_of_not_mem rfl hback
  rw [controlAttributes_of_hasNoAttributes h, ownAttributes, Dict.get?_append, Dict.get?_append,
    get?_of_not_mem rfl hfront, hlast, Option.none_or, Option.or_none]

theorem get?_required (r : Rule) (key : String) :
    Dict.get? (if r.required then [(.text "required", .bool true)] else []) key =
      if "required" = key then if r.required then some (.bool true) else none else none := by
  cases r.required <;> simp [Dict.get?_cons]

/-- The declared type where inputs have it, and `text` otherwise. -/
theorem get?_type (h : r.HasNoAttributes) :
    (controlAttributes name r placeholder className).get? "type" =
      some (.text ((r.type.filter inputTypes.contains).getD "text")) := by
  have hempty : inputTypes.contains "" = false := by decide
  have htype : ((typeEntry r).get? "type").getD (.text "text") =
      .text ((r.type.filter inputTypes.contains).getD "text") := by
    unfold typeEntry
    cases r.type with
    | none => rfl
    | some type =>
        rw [Option.filter_some]
        by_cases hne : type = ""
        · subst hne
          rw [hempty]
          rfl
        · have hne' : type.isEmpty = false := by simpa using hne
          cases hmem : inputTypes.contains type <;>
            simp [hne', hmem, inputType, Dict.get?_cons, -List.contains_eq_mem]
  rw [controlAttributes_of_hasNoAttributes h, ownAttributes, htype]
  rfl

/-- **The attributes of an input state the constraints of its rule.** -/
theorem mirrors_controlAttributes (h : r.HasNoAttributes) (hlimits : r.HasReducedLimits) :
    Mirrors ((controlAttributes name r placeholder className).filterMap carried?) r := by
  have hkeyed : KeyedBy (controlAttributes name r placeholder className) inputNames :=
    keyedBy_controlAttributes h
  obtain ⟨names, hsub, hkeys⟩ := List.sublist_map_iff.mp hkeyed
  have hnames : names.Nodup := hsub.nodup (by decide)
  have hlookup := lookup_carried hkeys hnames
  have hconstraint (key : String) (hfront : key ∉ ["type", "name", "id"])
      (hback : key ∉ ["placeholder", "class"]) :
      ((controlAttributes name r placeholder className).filterMap carried?).lookup key =
        ((constraintEntries r).get? key).bind carriedValue? := by
    rw [hlookup, get?_controlAttributes h hfront hback]
  simp only [constraintEntries, Dict.get?_append, get?_entryFor, get?_required] at hconstraint
  constructor
  case distinct => exact (names_carried hkeys).nodup hnames
  case required =>
    rw [hconstraint "required" (by decide) (by decide)]
    cases r.required <;> rfl
  case minlength =>
    refine statesBound_of_lookup .int .int ?_ (fun _ => rfl) fun n _ => denotes_int n
    simpa using hconstraint "minlength" (by decide) (by decide)
  case maxlength =>
    refine statesBound_of_lookup .int .int ?_ (fun _ => rfl) fun n _ => denotes_int n
    simpa using hconstraint "maxlength" (by decide) (by decide)
  case min =>
    have hmin := hconstraint "min" (by decide) (by decide)
    have hself : r.minValue.map id = r.minValue := by simp
    rw [← hself]
    exact statesBound_of_lookup .ofNumeric id (by simpa using hmin) carriedValue?_ofNumeric
      fun y hy => denotes_reduced (hlimits.minValue y hy)
  case max =>
    have hmax := hconstraint "max" (by decide) (by decide)
    have hself : r.maxValue.map id = r.maxValue := by simp
    rw [← hself]
    exact statesBound_of_lookup .ofNumeric id (by simpa using hmax) carriedValue?_ofNumeric
      fun y hy => denotes_reduced (hlimits.maxValue y hy)
  case pattern =>
    rw [hconstraint "pattern" (by decide) (by decide)]
    cases r.patternSource?.filter (!·.isEmpty) <;> rfl
  case type =>
    rw [hlookup, get?_type h]
    rfl

/-! ## The input among the tags -/

/-- A tag between what is outlined before and after it. -/
theorem scan_around {before tag after : String} {x z : List Item} {lead inside : List Char}
    (hbefore : Outlined before x) (hafter : Outlined after z)
    (htag : tag.toList = lead ++ '<' :: (inside ++ ['>'])) (hlead : Bare lead)
    (hinside : Quoted inside) :
    ∃ segs segs', scan (before ++ tag ++ after) = some (segs ++ ⟨lead, inside⟩ :: segs') ∧
      segs.map Segment.item = x ∧ segs'.map Segment.item = z := by
  obtain ⟨-, segs, hsegs, hbare, rfl⟩ := hbefore
  obtain ⟨-, segs', hsegs', hbare', rfl⟩ := hafter
  refine ⟨segs, segs', scan_written ?_ fun seg hseg => ?_, rfl, rfl⟩
  · simp [hsegs, hsegs', htag, written_append, written]
  · rcases List.mem_append.mp hseg with hmem | hmem
    · exact (hbare seg hmem).imp id Quoted.bare
    · rcases List.mem_cons.mp hmem with rfl | hmem
      · exact ⟨hlead, hinside.bare⟩
      · exact (hbare' seg hmem).imp id Quoted.bare

theorem quoted_name {name : String} (h : IsName name) : Quoted name.toList where
  bare := fun c hc => (h c hc).2.imp id And.left
  balanced := by
    rw [List.count_eq_zero.mpr fun hmem => (h _ hmem).2.2.2 rfl]

/-- A segment that begins with a name, up to a space or its end. -/
theorem read_segment {name : String} (h : IsName name) {rest : List Char}
    (hrest : rest.head? = none ∨ rest.head? = some ' ') (lead : List Char) :
    Segment.item ⟨lead, name.toList ++ rest⟩ = ⟨String.ofList (unescape lead), name⟩ ∧
    Segment.attributes? ⟨lead, name.toList ++ rest⟩ = readAttributes (String.ofList rest) := by
  have hword : ∀ c ∈ name.toList, decide (c ≠ ' ') = true := by
    intro c hc
    simpa using (h c hc).1
  have hend : rest.takeWhile (fun c => decide (c ≠ ' ')) = [] ∧
      rest.dropWhile (fun c => decide (c ≠ ' ')) = rest := by
    cases rest with
    | nil => exact ⟨rfl, rfl⟩
    | cons c rest =>
        obtain rfl : c = ' ' := by simpa using hrest
        exact ⟨rfl, rfl⟩
  constructor
  · rw [Segment.item, List.takeWhile_append_of_pos hword, hend.1, List.append_nil,
      String.ofList_toList]
  · rw [Segment.attributes?, List.dropWhile_append_of_pos hword, hend.2]

/-- A tag is one segment, in which its name and its attributes are read. -/
theorem exists_inside {name : String} (hname : IsName name) (attrs : Dict) :
    ∃ inside, (tag name attrs).toList = '<' :: (inside ++ ['>']) ∧ Quoted inside ∧
      ∀ lead, Segment.item ⟨lead, inside⟩ = ⟨String.ofList (unescape lead), name⟩ ∧
        Segment.attributes? ⟨lead, inside⟩ = readAttributes (attributes attrs) := by
  unfold tag
  by_cases hempty : attributes attrs = ""
  · refine ⟨name.toList ++ [], by simp [hempty], (quoted_name hname).append quoted_nil, ?_⟩
    intro lead
    rw [hempty]
    exact read_segment hname (.inl rfl) lead
  · have hne : (attributes attrs).isEmpty = false := by simpa using hempty
    refine ⟨name.toList ++ ' ' :: (attributes attrs).toList, by simp [hne],
      (quoted_name hname).append (quoted_attributes attrs).space, fun lead => ?_⟩
    have hspace : (' ' :: (attributes attrs).toList).head? = some ' ' := rfl
    have hread := read_segment hname (.inr hspace) lead
    rwa [readAttributes, String.toList_ofList, readFrom_space] at hread

/-- The lines of a group below its input. -/
def endLines (view : FieldView) : List String :=
  ((if view.hint.truthy then [renderHint view] else []) ++ [renderError view]).map ("  " ++ ·) ++
    ["</div>"]

def endItems (view : FieldView) : List Item :=
  stacked (((if view.hint.truthy then [elementItems "small" view.hint.asText] else []) ++
    [elementItems "span" ""]).map (indented "  ") ++ [[⟨"", "/div"⟩]])

theorem outlined_endLines (view : FieldView) :
    Outlined (Text.joinWith "\n" (endLines view)) (endItems view) := by
  have herror : Outlined (renderError view) (elementItems "span" "") :=
    (outlined_tag "span" (by decide) _).append (outlined_bare rfl (by decide))
  have hhint : Outlined (renderHint view) (elementItems "small" view.hint.asText) :=
    outlined_element "small" (by decide) _ _
  have hend : Outlined "</div>" [⟨"", "/div"⟩] := outlined_bare rfl (by decide)
  refine outlined_lines (List.rel_append (outlined_indented_lines ?_) (.cons hend .nil))
    (by simp [endLines])
  refine List.rel_append ?_ (.cons herror .nil)
  split
  · exact .cons hhint .nil
  · exact .nil

theorem renderGroup_eq {view : FieldView} (hfloating : view.isFloating = false)
    (control : String) :
    renderGroup view control =
      (tag "div" [(.text "class", textOrNull view.groupClass),
          (.text "data-field", .text view.name)] ++ ("\n  " ++ renderLabel view)) ++
        ("\n  " ++ control) ++ ("\n" ++ Text.joinWith "\n" (endLines view)) := by
  have hlead : "\n  " = "\n" ++ "  " := by decide
  have hend : "\n</div>" = "\n" ++ "</div>" := by decide
  have hends : Text.joinWith "\n" (endLines view) =
      Text.joinWith "\n" (((if view.hint.truthy then [renderHint view] else []) ++
        [renderError view]).map ("  " ++ ·)) ++ "\n" ++ "</div>" := by
    rw [endLines, Text.joinWith_append "\n" (by simp) (by simp), Text.joinWith_singleton]
  have hparts : (fieldParts view control).map ("  " ++ ·) =
      ["  " ++ renderLabel view, "  " ++ control] ++
        ((if view.hint.truthy then [renderHint view] else []) ++ [renderError view]).map
          ("  " ++ ·) := by
    simp [fieldParts, hfloating]
  rw [renderGroup, hparts, Text.joinWith_append "\n" (by simp) (by simp), hends,
    Text.joinWith_cons_cons, Text.joinWith_singleton, hlead, hend]
  simp only [String.append_assoc]

theorem filter_tag_eq_nil {segs : List Segment} {items : List Item} {name : String}
    (hsegs : segs.map Segment.item = items) (h : ∀ item ∈ items, item.tag ≠ name) :
    segs.filter (fun s => s.item.tag = name) = [] := by
  subst hsegs
  refine List.filter_eq_nil_iff.mpr fun seg hseg => ?_
  simpa using h _ (List.mem_map_of_mem hseg)

/-- **A group has one input, with the attributes of its view.** -/
theorem renderGroup_input {view : FieldView} (hfloating : view.isFloating = false) :
    ∃ segs seg, scan (renderGroup view (renderInput view)) = some segs ∧
      segs.filter (fun s => s.item.tag = "input") = [seg] ∧
      seg.attributes? = readAttributes (attributes view.attrs) := by
  obtain ⟨inside, hinput, hinside, hread⟩ := exists_inside (by decide : IsName "input") view.attrs
  have hlabel : Outlined (renderLabel view) (elementItems "label" view.label.asText) :=
    outlined_element "label" (by decide) _ _
  have hbefore := (outlined_tag "div" (by decide) [(.text "class", textOrNull view.groupClass),
    (.text "data-field", .text view.name)]).append (hlabel.indented "\n  " (by decide))
  have hafter := (outlined_endLines view).indented "\n" (by decide)
  have htag : ("\n  " ++ renderInput view).toList = "\n  ".toList ++ '<' :: (inside ++ ['>']) := by
    rw [String.toList_append, renderInput, hinput]
  obtain ⟨segs, segs', hscan, hsegs, hsegs'⟩ :=
    scan_around hbefore hafter htag (by decide) hinside
  rw [← renderGroup_eq hfloating] at hscan
  refine ⟨_, ⟨"\n  ".toList, inside⟩, hscan, ?_, (hread _).2⟩
  have hbefore' : segs.filter (fun s => s.item.tag = "input") = [] := by
    refine filter_tag_eq_nil hsegs ?_
    simp [indented, elementItems]
  have hafter' : segs'.filter (fun s => s.item.tag = "input") = [] := by
    refine filter_tag_eq_nil hsegs' ?_
    unfold endItems
    split <;> simp [stacked, indented, elementItems]
  have htagged : (Segment.item ⟨"\n  ".toList, inside⟩).tag = "input" := by
    rw [(hread _).1]
  rw [List.filter_append, List.filter_cons_of_pos (by simpa using htagged), hbefore', hafter']
  rfl

/-! ## Fields -/

theorem fieldView_eq_ok {name : String} {r : Rule} {o : RenderOptions} {view : FieldView}
    (h : fieldView name r o = .ok view) :
    view.name = name ∧
      ∃ placeholder className, view.attrs = controlAttributes name r placeholder className := by
  simp only [fieldView, bind_eq_ok] at h
  obtain ⟨className, -, groupClass, -, labelClass, -, errorClass, -, h⟩ := h
  obtain rfl := Except.ok.inj h
  exact ⟨rfl, _, className, rfl⟩

/-- Without a presentation the control is an input, after its label. -/
theorem fieldView_of_unadorned {o : RenderOptions} {view : FieldView} (hr : r.Unadorned)
    (h : fieldView name r o = .ok view) :
    view.control = .text "input" ∧ view.isFloating = false ∧
      ∃ placeholder className, view.attrs = controlAttributes name r placeholder className := by
  simp only [fieldView, bind_eq_ok] at h
  obtain ⟨className, -, groupClass, -, labelClass, -, errorClass, -, h⟩ := h
  obtain rfl := Except.ok.inj h
  have hpart (part : Presentation → Option Value) : fromPresentation r part = none := by
    rw [fromPresentation, hr.ui]
    rfl
  refine ⟨?_, ?_, _, className, rfl⟩
  · simp only [hpart, givenOr]
  · simp only [FieldView.isFloating, hpart, givenOr]
    decide

/-- The name of the field and its pattern have quotes and brackets in them. -/
def quotedSource : Value :=
  .dict [(.text "required", .bool true), (.text "type", .text "zip"), (.text "min", .text "2 up"),
    (.text "maxValue", .int 99999), (.text "pattern", .text "[\"<&]+")]

def quotedRule : Rule :=
  { Rule.empty with
    required := true, type := some "zip", min := some 2, maxValue := some (.int 99999),
    pattern := some (.source "[\"<&]+")
    provided := [.required, .type, .email, .url, .number, .min, .maxValue, .pattern] }

end FieldRules.Markup
