import FieldRules.Proofs.Matching
import FieldRules.Proofs.Markup.Likeness
import FieldRules.Proofs.Markup.Opening

/-!
# Proofs — Segments

What a field is written with, tag by tag. `Composed` says of a markup exactly which tags it consists
of, each with what is inside its brackets and the text before it; like the outline of a markup it
follows the ways in which markup is put together. `groupSegments` says it for the group of a field.
A reader looks up attributes in a single tag by their names (`Segment.value?`), and it finds those
that were written there, as long as all names are plain (`value?_opening`) or those in front are
(`value?_opening_front`).
-/

namespace FieldRules.Markup

/-! ## Composition -/

/-- The markup consists of these segments: no text and no tag in it has a bracket of its own. -/
structure Composed (markup : String) (segs : List Segment) : Prop where
  nonempty : segs ≠ []
  toList : markup.toList = written segs
  bare : ∀ seg ∈ segs, Bare seg.text ∧ Bare seg.inside

/-- The segments with a text in front of them. -/
def leading (lead : String) : List Segment → List Segment
  | [] => []
  | seg :: rest => ⟨lead.toList ++ seg.text, seg.inside⟩ :: rest

/-- The segments of lines, one under the other. -/
def layered : List (List Segment) → List Segment
  | [] => []
  | first :: rest => first ++ rest.flatMap (leading "\n")

variable {markup other before : String} {segs others : List Segment}

theorem Composed.scan (h : Composed markup segs) : scan markup = some segs :=
  scan_written h.toList h.bare

theorem Composed.append (h : Composed markup segs) (h' : Composed other others) :
    Composed (markup ++ other) (segs ++ others) where
  nonempty := by simp [h.nonempty]
  toList := by rw [String.toList_append, h.toList, h'.toList, written_append]
  bare := List.forall_mem_append.mpr ⟨h.bare, h'.bare⟩

theorem Composed.lead (h : Composed markup segs) (lead : String) (hlead : Bare lead.toList) :
    Composed (lead ++ markup) (leading lead segs) := by
  obtain ⟨hne, hmarkup, hbare⟩ := h
  cases segs with
  | nil => exact absurd rfl hne
  | cons seg rest =>
      obtain ⟨⟨htext, hinside⟩, hrest⟩ := List.forall_mem_cons.mp hbare
      refine ⟨by simp [leading], ?_, ?_⟩
      · rw [String.toList_append, hmarkup, leading, written, written, List.append_assoc]
      · exact List.forall_mem_cons.mpr ⟨⟨bare_append.mpr ⟨hlead, htext⟩, hinside⟩, hrest⟩

theorem leading_append (hne : segs ≠ []) :
    leading before (segs ++ others) = leading before segs ++ others := by
  cases segs with
  | nil => exact absurd rfl hne
  | cons seg rest => rfl

@[simp] theorem inside_leading (lead : String) (segs : List Segment) :
    (leading lead segs).map Segment.inside = segs.map Segment.inside := by
  cases segs <;> rfl

theorem forall_of_inside {P : List Char → Prop}
    (h : segs.map Segment.inside = others.map Segment.inside) :
    (∀ seg ∈ segs, P seg.inside) ↔ ∀ seg ∈ others, P seg.inside := by
  have hread (segs : List Segment) :
      (∀ seg ∈ segs, P seg.inside) ↔ ∀ inside ∈ segs.map Segment.inside, P inside := by
    simp
  rw [hread, hread, h]

theorem exists_of_inside {P : List Char → Prop}
    (h : segs.map Segment.inside = others.map Segment.inside) :
    (∃ seg ∈ segs, P seg.inside) ↔ ∃ seg ∈ others, P seg.inside := by
  have hread (segs : List Segment) :
      (∃ seg ∈ segs, P seg.inside) ↔ ∃ inside ∈ segs.map Segment.inside, P inside := by
    simp
  rw [hread, hread, h]

/-- Putting lines together leaves the insides of the tags as they are. -/
@[simp] theorem inside_layered (segss : List (List Segment)) :
    (layered segss).map Segment.inside = segss.flatMap (·.map Segment.inside) := by
  cases segss with
  | nil => rfl
  | cons first rest => simp [layered, List.map_flatMap]

/-- What is read of a tag depends on its inside. -/
theorem map_eq_of_inside {α : Type} {f : Segment → α} (hf : ∀ seg, f seg = f ⟨[], seg.inside⟩)
    (h : segs.map Segment.inside = others.map Segment.inside) : segs.map f = others.map f := by
  have hread (segs : List Segment) :
      segs.map f = (segs.map Segment.inside).map fun inside => f ⟨[], inside⟩ := by
    rw [List.map_map]
    exact List.map_congr_left fun seg _ => hf seg
  rw [hread, hread, h]

/-- **Lines that are composed of tags are so one under the other.** -/
theorem composed_lines {lines : List String} {segss : List (List Segment)}
    (h : List.Forall₂ Composed lines segss) (hne : lines ≠ []) :
    Composed (Text.joinWith "\n" lines) (layered segss) := by
  induction h with
  | nil => exact absurd rfl hne
  | @cons line segs lines segss hline hlines ih =>
      cases hlines with
      | nil => simpa [layered] using hline
      | @cons line' segs' lines segss hline' hlines =>
          -- the line break goes to the first tag of the next line
          have hrest := (ih (by simp)).lead "\n" (by decide)
          rw [layered, leading_append hline'.nonempty] at hrest
          have hall := hline.append hrest
          rw [← String.append_assoc, ← Text.joinWith_cons_cons] at hall
          exact hall

theorem composed_indented {lines : List String} {segss : List (List Segment)}
    (h : List.Forall₂ Composed lines segss) :
    List.Forall₂ Composed (lines.map ("  " ++ ·)) (segss.map (leading "  ")) := by
  rw [List.forall₂_map_left_iff, List.forall₂_map_right_iff]
  exact h.imp fun line segs hline => hline.lead "  " (by decide)

/-! ## Tags -/

/-- What is written for a name and what follows it after a space. -/
def spaced (name : String) (rest : List Char) : List Char :=
  name.toList ++ if rest.isEmpty then [] else ' ' :: rest

/-- A tag that opens an element. -/
def opening (name : String) (attrs : Dict) : Segment :=
  ⟨[], spaced name (attributes attrs).toList⟩

/-- A tag that closes an element, with the content before it. -/
def closing (content : Value) (name : String) : Segment :=
  ⟨escapeChars content.asText.toList, '/' :: name.toList⟩

variable {name key : String} {attrs front : Dict} {v : Value}

theorem bare_spaced (hname : IsName name) {rest : List Char} (hrest : Bare rest) :
    Bare (spaced name rest) := by
  have hbare := (quoted_name hname).bare
  unfold spaced
  split
  · rwa [List.append_nil]
  · exact bare_append.mpr ⟨hbare, List.forall_mem_cons.mpr ⟨by decide, hrest⟩⟩

theorem composed_tag (hname : IsName name) (attrs : Dict) :
    Composed (tag name attrs) [opening name attrs] where
  nonempty := by simp
  toList := by
    unfold tag opening spaced
    by_cases hempty : attributes attrs = ""
    · simp [hempty, written]
    · have hchars : (attributes attrs).toList.isEmpty = false := by simpa using hempty
      simp [hempty, hchars, written]
  bare := List.forall_mem_singleton.mpr
    ⟨bare_nil, bare_spaced hname (quoted_attributes attrs).bare⟩

theorem bare_slash (hname : IsName name) : Bare ('/' :: name.toList) :=
  List.forall_mem_cons.mpr ⟨by decide, (quoted_name hname).bare⟩

theorem composed_closing (hname : IsName name) (content : Value) :
    Composed (escape content ++ ("</" ++ name ++ ">")) [closing content name] where
  nonempty := by simp
  toList := by simp [closing, written, toList_escape]
  bare := List.forall_mem_singleton.mpr ⟨bare_escapeChars _, bare_slash hname⟩

/-- **An element is the tag that opens it and the one that closes it.** -/
theorem composed_element (hname : IsName name) (attrs : Dict) (content : Value) :
    Composed (element name attrs content) [opening name attrs, closing content name] := by
  have h := (composed_tag hname attrs).append (composed_closing hname content)
  rwa [← String.append_assoc, ← String.append_assoc, ← String.append_assoc] at h

/-- A closing tag on a line of its own. -/
theorem composed_end (hmarkup : markup = "</" ++ name ++ ">") (hname : IsName name) :
    Composed markup [closing .null name] := by
  have h := composed_closing hname .null
  have hempty : escape .null = "" := by decide
  rwa [hempty, String.empty_append, ← hmarkup] at h

/-! ## Looking up attributes -/

/-- The value of the first attribute of a tag with a name, if it has one. -/
def Segment.value? (key : String) (seg : Segment) : Option String :=
  (findFrom key .between (seg.inside.dropWhile (· ≠ ' '))).join

theorem id?_eq_value? (seg : Segment) : seg.id? = seg.value? "id" := rfl

/-- What a reader finds after the name of a tag. -/
theorem value?_spaced (hname : IsName name) (text rest : List Char) :
    Segment.value? key ⟨text, spaced name rest⟩ = (findFrom key .between rest).join := by
  have hword : ∀ c ∈ name.toList, decide (c ≠ ' ') = true := by
    intro c hc
    simpa using (hname c hc).1
  unfold Segment.value? spaced
  rw [List.dropWhile_append_of_pos hword]
  cases rest with
  | nil => rfl
  | cons c rest =>
      have hdrop : (' ' :: c :: rest).dropWhile (fun c => decide (c ≠ ' ')) =
          ' ' :: c :: rest := rfl
      rw [List.isEmpty_cons, if_neg (by decide), hdrop, findFrom_space]

/-- **Attributes with plain names are found**, and no others. -/
theorem value?_attributes (hname : IsName name) (hattrs : HasPlainNames attrs)
    (text : List Char) :
    Segment.value? key ⟨text, spaced name (attributes attrs).toList⟩ =
      ((attrs.filterMap carried?).lookup key).join := by
  have hread := readAttributes_attributes hattrs
  have hfound : findFrom key .between ((attributes attrs).toList ++ []) = _ :=
    findFrom_append hread (.inl rfl)
  rw [List.append_nil] at hfound
  rw [value?_spaced hname, hfound]
  cases (attrs.filterMap carried?).lookup key <;> rfl

/-- **Attributes in front with plain names are found**, whatever follows them. -/
theorem value?_front (hname : IsName name) (hfront : HasPlainNames front) {value : Option String}
    (hvalue : (front.filterMap carried?).lookup key = some value) (rest : Dict)
    (text : List Char) :
    Segment.value? key ⟨text, spaced name (attributes (front ++ rest)).toList⟩ = value := by
  have hwritten : (front.filterMap fun e => attribute? e.1 e.2) ≠ [] := by
    intro hnone
    have hlength := (forall₂_attributes hfront).length_eq
    rw [hnone] at hlength
    rw [List.length_eq_zero_iff.mp hlength.symm] at hvalue
    cases hvalue
  obtain ⟨back, hback, hseparated⟩ := exists_attributes_append hwritten rest
  rw [value?_spaced hname, hback,
    findFrom_append (readAttributes_attributes hfront) hseparated, hvalue]
  rfl

/-- What a tag has under a name is what its mapping holds there. -/
theorem value?_opening (hname : IsName name) {names : List String} (hkeyed : KeyedBy attrs names)
    (hplain : ∀ n ∈ names, IsPlainName n) (hnames : names.Nodup) (text : List Char) :
    Segment.value? key ⟨text, (opening name attrs).inside⟩ =
      ((attrs.get? key).bind carriedValue?).join := by
  obtain ⟨kept, hsub, hkeys⟩ := List.sublist_map_iff.mp hkeyed
  rw [opening, value?_attributes hname (hasPlainNames_of_keyedBy hkeyed hplain),
    lookup_carried hkeys (hsub.nodup hnames)]

theorem value?_opening_of_not_mem (hname : IsName name) {names : List String}
    (hkeyed : KeyedBy attrs names) (hplain : ∀ n ∈ names, IsPlainName n) (hnames : names.Nodup)
    (hkey : key ∉ names) (text : List Char) :
    Segment.value? key ⟨text, (opening name attrs).inside⟩ = none := by
  obtain ⟨kept, hsub, hkeys⟩ := List.sublist_map_iff.mp hkeyed
  rw [value?_opening hname hkeyed hplain hnames,
    get?_of_not_mem hkeys fun hmem => hkey (hsub.subset hmem)]
  rfl

/-- A tag that closes an element has no attributes. -/
theorem value?_closing (hname : IsName name) (text : List Char) :
    Segment.value? key ⟨text, '/' :: name.toList⟩ = none := by
  have hword : ∀ c ∈ '/' :: name.toList, decide (c ≠ ' ') = true := by
    intro c hc
    rcases List.mem_cons.mp hc with rfl | hc
    · rfl
    · simpa using (hname c hc).1
  rw [Segment.value?, List.dropWhile_eq_nil_iff.mpr hword]
  rfl

theorem isMapping_of_keyedBy {attrs : Dict} {names : List String} (h : KeyedBy attrs names)
    (hnames : names.Nodup) : attrs.IsMapping := by
  obtain ⟨kept, hsub, hkeys⟩ := List.sublist_map_iff.mp h
  have hkeys' : attrs.keys = kept.map .text := hkeys
  constructor
  · intro k hk
    rw [hkeys'] at hk
    obtain ⟨n, -, rfl⟩ := List.mem_map.mp hk
    rfl
  · rw [hkeys', List.pairwise_map]
    refine (hsub.nodup hnames).imp fun hne => ?_
    rw [Dict.same_text, Dict.keyIs_text]
    exact beq_false_of_ne hne

theorem hasPlainNames_iff {attrs : Dict} :
    HasPlainNames attrs ↔ ∀ k ∈ attrs.keys, ∃ n, k = .text n ∧ IsPlainName n := by
  simp [HasPlainNames, Dict.keys]

theorem hasPlainNames_union {a b : Dict} (ha : HasPlainNames a) (hb : HasPlainNames b) :
    HasPlainNames (a.union b) := by
  refine hasPlainNames_iff.mpr fun k hk => ?_
  rcases Dict.mem_keys_union hk with hk | hk
  · exact hasPlainNames_iff.mp ha k hk
  · exact hasPlainNames_iff.mp hb k hk

theorem exists_names {attrs : Dict} (hplain : HasPlainNames attrs) (hd : attrs.IsMapping) :
    ∃ names : List String, attrs.keys = names.map .text ∧ names.Nodup ∧
      ∀ n ∈ names, IsPlainName n := by
  obtain ⟨names, hkeys, hnames⟩ := exists_forall₂_of_forall_mem (hasPlainNames_iff.mp hplain)
  have hmap : names.map Value.text = attrs.keys.map id :=
    map_eq_of_forall₂ (fun k n hkey => hkey.symm) hkeys
  rw [List.map_id] at hmap
  refine ⟨names, hmap.symm, ?_, hnames⟩
  have hdifferent := hd.different
  rw [← hmap, List.pairwise_map] at hdifferent
  refine hdifferent.imp fun hsame heq => ?_
  rw [heq, Dict.same_text, Dict.keyIs_text, beq_self_eq_true] at hsame
  cases hsame

/-- Where all names are plain, each is read as what the mapping holds there. -/
theorem value?_opening_of_plain {tag key : String} {attrs : Dict} (htag : IsName tag)
    (hplain : HasPlainNames attrs) (hd : attrs.IsMapping) (text : List Char) :
    Segment.value? key ⟨text, (opening tag attrs).inside⟩ =
      ((attrs.get? key).bind carriedValue?).join := by
  obtain ⟨names, hkeys, hnodup, hnames⟩ := exists_names hplain hd
  have hkeyed : KeyedBy attrs names := by
    rw [KeyedBy, ← hkeys]
    exact List.Sublist.refl _
  exact value?_opening htag hkeyed hnames hnodup text

/-! ## Names of tags -/

/-- The name of a tag. -/
def Segment.tagName (seg : Segment) : String :=
  seg.item.tag

/-- A tag that opens an element is read as its name and its attributes. -/
theorem read_opening (hname : IsName name) (attrs : Dict) (text : List Char) :
    Segment.item ⟨text, (opening name attrs).inside⟩ = ⟨String.ofList (unescape text), name⟩ ∧
      Segment.attributes? ⟨text, (opening name attrs).inside⟩ =
        readAttributes (attributes attrs) := by
  unfold opening spaced
  cases hattrs : (attributes attrs).toList with
  | nil =>
      have hnil : ([] : List Char).head? = none ∨ ([] : List Char).head? = some ' ' := .inl rfl
      have hread := read_segment hname hnil text
      rwa [String.ofList_nil, ← String.toList_eq_nil_iff.mp hattrs] at hread
  | cons c cs =>
      have hspace : (' ' :: c :: cs).head? = some ' ' := rfl
      have hread := read_segment hname (.inr hspace) text
      have hrest : readAttributes (String.ofList (' ' :: c :: cs)) =
          readAttributes (attributes attrs) := by
        rw [readAttributes, String.toList_ofList, readFrom_space, ← hattrs, readAttributes]
      exact ⟨hread.1, hread.2.trans hrest⟩

theorem tagName_opening (hname : IsName name) (attrs : Dict) (text : List Char) :
    Segment.tagName ⟨text, (opening name attrs).inside⟩ = name :=
  congrArg Item.tag (read_opening hname attrs text).1

theorem tagName_closing (hname : IsName name) (text : List Char) :
    Segment.tagName ⟨text, '/' :: name.toList⟩ = "/" ++ name := by
  have hslash : IsName ("/" ++ name) := by
    intro c hc
    rw [String.toList_append] at hc
    rcases List.mem_append.mp hc with hslash | hrest
    · rw [List.mem_singleton.mp hslash]
      decide
    · exact hname c hrest
  have hnil : ([] : List Char).head? = none ∨ ([] : List Char).head? = some ' ' := .inl rfl
  have hread := (read_segment hslash hnil text).1
  rw [List.append_nil, String.toList_append] at hread
  exact congrArg Item.tag hread

/-- Tags are found by what is inside of them. -/
theorem filter_eq_singleton {segs : List Segment} {P : Segment → Bool} {inside : List Char}
    (hP : ∀ seg, P seg = P ⟨[], seg.inside⟩)
    (h : (segs.map Segment.inside).filter (fun i => P ⟨[], i⟩) = [inside]) :
    ∃ seg, segs.filter P = [seg] ∧ seg.inside = inside := by
  rw [List.filter_map] at h
  obtain ⟨seg, hseg, hinside⟩ := List.map_eq_singleton_iff.mp h
  refine ⟨seg, ?_, hinside⟩
  rw [← hseg]
  exact List.filter_congr fun seg _ => hP seg

/-! ## Parts of controls -/

/-- The tags with which a field is filled in. -/
def controlNames : List String := ["input", "textarea", "select"]

theorem isName_of_mem_controlNames (h : name ∈ controlNames) : IsName name :=
  (by decide : ∀ n ∈ controlNames, IsName n) name h

/-- What is inside the tags that come after the first one of a control. -/
inductive IsChoicePart : List Char → Prop
  | choice (attrs : Dict) (h : KeyedBy attrs ["value", "selected"]) :
      IsChoicePart (opening "option" attrs).inside
  | ending (name : String) (h : name ∈ ["option", "select", "textarea"]) :
      IsChoicePart ('/' :: name.toList)

/-- The parts of choices say nothing but their value and whether they are selected. -/
theorem IsChoicePart.value? {inside : List Char} (h : IsChoicePart inside)
    (hkey : key ∉ ["value", "selected"]) (text : List Char) :
    Segment.value? key ⟨text, inside⟩ = none := by
  cases h with
  | choice attrs hkeyed =>
      exact value?_opening_of_not_mem (by decide) hkeyed (by decide) (by decide) hkey text
  | ending name hname =>
      have hnames : ∀ n ∈ ["option", "select", "textarea"], IsName n := by decide
      exact value?_closing (hnames name hname) text

theorem IsChoicePart.tagName_mem {inside : List Char} (h : IsChoicePart inside) (text : List Char) :
    Segment.tagName ⟨text, inside⟩ ∈ ["option", "/option", "/select", "/textarea"] := by
  cases h with
  | choice attrs _ =>
      rw [tagName_opening (by decide)]
      decide
  | ending name hname =>
      have hnames : ∀ n ∈ ["option", "select", "textarea"],
          IsName n ∧ "/" ++ n ∈ ["option", "/option", "/select", "/textarea"] := by decide
      obtain ⟨hisName, hmem⟩ := hnames name hname
      rw [tagName_closing hisName]
      exact hmem

/-! ## Selections -/

/-- The text of the current value, which a choice has to have to be selected. -/
def currentText? (view : FieldView) : Option String :=
  if (currentValue view).isNull then none else some (currentValue view).asText

/-- The attributes of a choice. -/
def choiceAttributes (value : String) (selected : Bool) : Dict :=
  [(.text "value", .text value), (.text "selected", .bool selected)]

/-- The lines of a selection, each with its attributes and with what it shows: the placeholder, if
it counts as given, and the choices. -/
def selectionLines (view : FieldView) (list : List (Value × Value)) : List (Dict × Value) :=
  ((view.rule.placeholder.filter Value.truthy).toList.map fun v =>
    ([(.text "value", .text "")], v)) ++
  list.map fun choice =>
    (choiceAttributes choice.1.asText (currentText? view == some choice.1.asText), choice.2)

/-- The tags of one line of a selection. -/
def optionSegments (line : Dict × Value) : List Segment :=
  leading "  " [opening "option" line.1, closing line.2 "option"]

/-- The tags of a selection. -/
def selectionSegments (view : FieldView) (list : List (Value × Value)) : List Segment :=
  layered ([[opening "select" (view.attrs.without selectionDropped)]] ++
    (selectionLines view list).map optionSegments ++ [[closing .null "select"]])

theorem keyedBy_selectionLines {view : FieldView} {list : List (Value × Value)}
    {line : Dict × Value} (h : line ∈ selectionLines view list) :
    KeyedBy line.1 ["value", "selected"] := by
  rcases List.mem_append.mp h with hline | hline
  · obtain ⟨v, -, rfl⟩ := List.mem_map.mp hline
    exact List.sublist_append_left [Value.text "value"] [Value.text "selected"]
  · obtain ⟨choice, -, rfl⟩ := List.mem_map.mp hline
    exact List.Sublist.refl _

theorem isChoicePart_optionSegments {line : Dict × Value}
    (h : KeyedBy line.1 ["value", "selected"]) :
    ∀ seg ∈ optionSegments line, IsChoicePart seg.inside :=
  List.forall_mem_cons.mpr ⟨.choice line.1 h, List.forall_mem_singleton.mpr
    (.ending "option" (by decide))⟩

theorem placeholderLines_eq (r : Rule) :
    placeholderLines r = (r.placeholder.filter Value.truthy).toList.map fun v =>
      "  " ++ element "option" [(.text "value", .text "")] v := by
  have hline (v : Value) : "  <option value=\"\">" ++ escape v ++ "</option>" =
      "  " ++ element "option" [(.text "value", .text "")] v := by
    have htag : tag "option" [(.text "value", .text "")] = "<option value=\"\">" := by decide
    have hend : "</" ++ "option" ++ ">" = "</option>" := by decide
    have hlead : "  <option value=\"\">" = "  " ++ "<option value=\"\">" := by decide
    rw [element, htag, hlead, ← hend]
    simp only [String.append_assoc]
  unfold placeholderLines
  cases r.placeholder with
  | none => rfl
  | some v => by_cases hv : v.truthy = true <;> simp [Option.filter_some, hv, hline]

/-- The markup of a selection. -/
def selectionMarkup (view : FieldView) (list : List (Value × Value)) : String :=
  Text.joinWith "\n" ([tag "select" (view.attrs.without selectionDropped)] ++
    ((selectionLines view list).map fun line => "  " ++ element "option" line.1 line.2) ++
    ["</select>"])

/-- Every line of a selection, the placeholder too, is an element. -/
theorem selectionOf_eq (view : FieldView) (list : List (Value × Value)) :
    selectionOf view list = selectionMarkup view list := by
  have hlines : placeholderLines view.rule ++ list.map (choiceLine (currentText? view)) =
      (selectionLines view list).map fun line => "  " ++ element "option" line.1 line.2 := by
    rw [placeholderLines_eq, selectionLines, List.map_append, List.map_map, List.map_map]
    rfl
  rw [selectionMarkup, ← hlines, ← List.append_assoc]
  rfl

/-- **A selection is composed of its lines** between its own tags. -/
theorem composed_selectionMarkup (view : FieldView) (list : List (Value × Value)) :
    Composed (selectionMarkup view list) (selectionSegments view list) := by
  have hselect := composed_tag (by decide : IsName "select") (view.attrs.without selectionDropped)
  have hend : Composed "</select>" [closing .null "select"] :=
    composed_end (by decide : "</select>" = "</" ++ "select" ++ ">") (by decide)
  refine composed_lines (List.rel_append (List.rel_append (.cons hselect .nil) ?_)
    (.cons hend .nil)) (by simp)
  exact forall₂_map_map fun line _ =>
    (composed_element (by decide) line.1 line.2).lead "  " (by decide)

/-- Every tag of a selection but the first belongs to a choice or ends the selection. -/
theorem isChoicePart_selection {view : FieldView} {list : List (Value × Value)} {seg : Segment}
    (h : seg ∈ ((selectionLines view list).map optionSegments ++
      [[closing .null "select"]]).flatMap (leading "\n")) : IsChoicePart seg.inside := by
  obtain ⟨segs, hsegs, hseg⟩ := List.mem_flatMap.mp h
  refine (forall_of_inside (inside_leading "\n" segs)).mpr ?_ seg hseg
  rcases List.mem_append.mp hsegs with hsegs | hsegs
  · obtain ⟨line, hline, rfl⟩ := List.mem_map.mp hsegs
    exact isChoicePart_optionSegments (keyedBy_selectionLines hline)
  · rw [List.mem_singleton.mp hsegs]
    exact List.forall_mem_singleton.mpr (.ending "select" (by decide))

/-! ## Controls -/

/-- **A built-in control is one tag with the attributes of the view**, some of which it may leave
out, and the tags that belong to it. -/
theorem composed_control {renderers : Renderers} {o : RenderOptions} {depth : Nat}
    {view : FieldView} {control : Control} {written : Value}
    (hcontrol : chosenControl .standard view.control = .ok control)
    (hwritten : renderControl renderers .standard o depth control view = .ok written) :
    ∃ name dropped rest, Composed written.display
      (opening name (view.attrs.without dropped) :: rest) ∧
      name ∈ controlNames ∧
      dropped ∈ [[], areaDropped, selectionDropped] ∧
      ∀ seg ∈ rest, IsChoicePart seg.inside := by
  cases control with
  | input =>
      obtain ⟨-, rfl⟩ := renderInput_eq_ok.mp hwritten
      refine ⟨"input", [], [], ?_, by decide, by decide, by simp⟩
      rw [Dict.without_nil]
      exact composed_tag (by decide) view.attrs
  | area =>
      obtain ⟨-, rfl⟩ := renderArea_eq_ok.mp hwritten
      exact ⟨"textarea", areaDropped, [_], composed_element (by decide) _ _, by decide, by decide,
        List.forall_mem_singleton.mpr (.ending "textarea" (by decide))⟩
  | selection =>
      obtain ⟨selection, hselection, rfl⟩ := renderSelection_control_eq_ok.mp hwritten
      obtain ⟨-, list, -, -, rfl⟩ := renderSelection_eq_ok.mp hselection
      rw [selectionOf_eq]
      exact ⟨"select", selectionDropped, _, composed_selectionMarkup view list, by decide,
        by decide, fun seg hseg => isChoicePart_selection hseg⟩
  | custom f => exact absurd rfl (chosenControl_ne_custom hcontrol)

/-! ## Groups -/

def labelAttributes (view : FieldView) : Dict :=
  [(.text "for", .text view.id), (.text "class", textOrNull view.labelClass)]

def hintAttributes (view : FieldView) : Dict :=
  [(.text "class", textOrNull view.hintClass), (.text "id", .text ("hint-" ++ view.name))]

def errorAttributes (view : FieldView) : Dict :=
  [(.text "class", textOrNull view.errorClass), (.text "id", .text view.errorId),
    (.text "data-error-for", .text view.name)]

def groupAttributes (view : FieldView) : Dict :=
  [(.text "class", textOrNull view.groupClass), (.text "data-field", .text view.name)]

theorem keyedBy_labelAttributes (view : FieldView) :
    KeyedBy (labelAttributes view) ["for", "class"] := List.Sublist.refl _

theorem keyedBy_hintAttributes (view : FieldView) :
    KeyedBy (hintAttributes view) ["class", "id"] := List.Sublist.refl _

theorem keyedBy_errorAttributes (view : FieldView) :
    KeyedBy (errorAttributes view) ["class", "id", "data-error-for"] := List.Sublist.refl _

theorem keyedBy_groupAttributes (view : FieldView) :
    KeyedBy (groupAttributes view) ["class", "data-field"] := List.Sublist.refl _

/-- The parts of a field around the tags of its control. -/
def partSegments (view : FieldView) (control : List Segment) : List (List Segment) :=
  let label := [opening "label" (labelAttributes view), closing view.label "label"]
  (if view.isFloating then [control, label] else [label, control]) ++
  (if view.hint.truthy then [[opening "small" (hintAttributes view), closing view.hint "small"]]
    else []) ++
  [[opening "span" (errorAttributes view), closing .null "span"]]

/-- The parts of a group, each on a line of its own, between the tags that open and close it. -/
def framed (first : Segment) (parts : List (List Segment)) : List Segment :=
  layered ([[first]] ++ parts.map (leading "  ") ++ [[closing .null "div"]])

def groupSegments (view : FieldView) (control : List Segment) : List Segment :=
  framed (opening "div" (groupAttributes view)) (partSegments view control)

theorem composed_fieldParts {view : FieldView} {control : String} (h : Composed control segs) :
    List.Forall₂ Composed (fieldParts view control) (partSegments view segs) := by
  have hlabel : Composed (renderLabel view)
      [opening "label" (labelAttributes view), closing view.label "label"] :=
    composed_element (by decide) _ _
  have hhint : Composed (renderHint view)
      [opening "small" (hintAttributes view), closing view.hint "small"] :=
    composed_element (by decide) _ _
  have herror : Composed (renderError view)
      [opening "span" (errorAttributes view), closing .null "span"] :=
    (composed_tag (by decide) _).append
      (composed_end (by decide : "</span>" = "</" ++ "span" ++ ">") (by decide))
  unfold fieldParts partSegments
  refine List.rel_append (List.rel_append ?_ ?_) (.cons herror .nil)
  · by_cases hfloating : view.isFloating = true
    · rw [if_pos hfloating, if_pos hfloating]
      exact .cons h (.cons hlabel .nil)
    · rw [if_neg hfloating, if_neg hfloating]
      exact .cons hlabel (.cons h .nil)
  · by_cases hgiven : view.hint.truthy = true
    · rw [if_pos hgiven, if_pos hgiven]
      exact .cons hhint .nil
    · rw [if_neg hgiven, if_neg hgiven]
      exact .nil

/-- **A group is composed of its parts** between the tags that open and close it. -/
theorem composed_framed {first : Segment} {opened : String} {lines : List String}
    {parts : List (List Segment)} (hfirst : Composed opened [first])
    (hparts : List.Forall₂ Composed lines parts) :
    Composed (Text.joinWith "\n" ([opened] ++ lines.map ("  " ++ ·) ++ ["</div>"]))
      (framed first parts) := by
  have hend : Composed "</div>" [closing .null "div"] :=
    composed_end (by decide : "</div>" = "</" ++ "div" ++ ">") (by decide)
  exact composed_lines (List.rel_append (List.rel_append (.cons hfirst .nil)
    (composed_indented hparts)) (.cons hend .nil)) (by simp)

theorem composed_renderGroup {view : FieldView} {control : String} (h : Composed control segs) :
    Composed (renderGroup view control) (groupSegments view segs) := by
  rw [renderGroup_lines]
  exact composed_framed (composed_tag (by decide) _) (composed_fieldParts h)

/-- **A field that is rendered is composed of a group**, whose control has the attributes of the
field. -/
theorem composed_renderField {kit : Toolkit} {r : Rule} {o : RenderOptions}
    (hkit : kit.controls = .standard) (hoverride : r.renderOverride? = none)
    (h : renderField kit name r o = .ok markup) :
    ∃ view placeholder className control dropped rest, view.name = name ∧
      view.attrs = controlAttributes name r placeholder className ∧
      Composed markup (groupSegments view (opening control (view.attrs.without dropped) :: rest)) ∧
      control ∈ controlNames ∧ dropped ∈ [[], areaDropped, selectionDropped] ∧
      ∀ seg ∈ rest, IsChoicePart seg.inside := by
  rw [renderField_eq_ok hoverride, hkit] at h
  obtain ⟨view, kind, written, hview, hkind, hwritten, -, -, rfl⟩ := h
  obtain ⟨hname, placeholder, className, hattrs⟩ := fieldView_eq_ok hview
  obtain ⟨control, dropped, rest, hcomposed, hcontrol⟩ := composed_control hkind hwritten
  exact ⟨view, placeholder, className, control, dropped, rest, hname, hattrs,
    composed_renderGroup hcomposed, hcontrol⟩

/-- The lines of the parts of a group. -/
def partLines (parts : List (List Segment)) : List Segment :=
  (parts.map (leading "  ")).flatMap (leading "\n")

theorem framed_eq (first : Segment) (parts : List (List Segment)) :
    framed first parts =
      first :: (partLines parts ++ leading "\n" [closing .null "div"]) := by
  simp [framed, layered, partLines]

theorem inside_partLines (parts : List (List Segment)) :
    (partLines parts).map Segment.inside = parts.flatten.map Segment.inside := by
  simp [partLines, List.flatMap_map, List.map_flatMap, List.map_flatten, ← List.flatMap_def]

/-- The insides of the tags of a group, in their order. -/
theorem inside_framed (first : Segment) (parts : List (List Segment)) :
    (framed first parts).map Segment.inside =
      first.inside :: (parts.flatten.map Segment.inside ++ [(closing .null "div").inside]) := by
  rw [framed_eq, List.map_cons, List.map_append, inside_partLines, inside_leading,
    List.map_singleton]

/-! ## Forms -/

/-- The tags of a form around those of its groups. -/
def formSegments (formAttrs buttonAttrs : Dict) (submitText : Value)
    (groups : List (List Segment)) : List Segment :=
  layered ([[opening "form" formAttrs]] ++ groups ++
    [[opening "button" buttonAttrs, closing submitText "button"], [closing .null "form"]])

/-- **A form is composed of its groups** between the tags that open and close it. -/
theorem composed_form {groups : List String} {segss : List (List Segment)}
    (h : List.Forall₂ Composed groups segss) (formAttrs buttonAttrs : Dict) (submitText : Value) :
    Composed (Text.joinWith "\n" ([tag "form" formAttrs] ++ groups ++
        [element "button" buttonAttrs submitText, "</form>"]))
      (formSegments formAttrs buttonAttrs submitText segss) := by
  have hform := composed_tag (by decide : IsName "form") formAttrs
  have hbutton := composed_element (by decide : IsName "button") buttonAttrs submitText
  have hend : Composed "</form>" [closing .null "form"] :=
    composed_end (by decide : "</form>" = "</" ++ "form" ++ ">") (by decide)
  exact composed_lines (List.rel_append (List.rel_append (.cons hform .nil) h)
    (.cons hbutton (.cons hend .nil))) (by simp)

end FieldRules.Markup
