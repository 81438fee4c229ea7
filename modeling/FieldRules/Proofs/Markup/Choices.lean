import FieldRules.Proofs.Markup.Segments

/-!
# Proofs — Choices

What a selection offers. The reader looks for the first tag `select` of a markup and takes the tags
from there in pairs, up to the end of the selection: the value of a choice is an attribute, what it
shows stands between its tags, and a choice is selected by a bare name. `Lists` says which pairs of
value and label some options stand for, in each of the shapes in which they may be given. A field
that is rendered as a selection offers these pairs in their order, after its placeholder if it has
one, and its markup depends on the pairs only, whatever shape they were given in
(`renderField_offers`).
-/

namespace FieldRules

/-! ## Options of a rule -/

namespace Rule

/-- The rule with these options in place of its own. -/
def withOptions (r : Rule) (options : Value) : Rule :=
  { r with extras := Dict.set r.extras "options" options }

theorem options_withOptions (r : Rule) (options : Value) :
    Dict.getD (r.withOptions options).extras "options" = options := by
  rw [withOptions, Dict.getD_set, if_pos rfl]

theorem getD_withOptions (r : Rule) (options : Value) {key : String} (hkey : key ≠ "options") :
    Dict.getD (r.withOptions options).extras key = Dict.getD r.extras key := by
  rw [withOptions, Dict.getD_set, if_neg hkey.symm]

theorem renderOverride?_withOptions (r : Rule) (options : Value) :
    (r.withOptions options).renderOverride? = r.renderOverride? := by
  unfold renderOverride?
  rw [getD_withOptions r options (by decide)]
  rfl

end Rule

namespace Markup

/-! ## Reading a selection -/

/-- A choice as a reader sees it. -/
structure Offer where
  value : String
  label : String
  selected : Bool
deriving DecidableEq

/-- The choice that the first tag opens and the second closes. -/
def readOffer? (first last : Segment) : Option Offer :=
  if first.tagName = "option" ∧ last.tagName = "/option" then
    first.attributes?.bind fun attrs =>
      (attrs.lookup "value").join.map fun value =>
        ⟨value, last.item.text, (attrs.lookup "selected").isSome⟩
  else none

/-- The choices up to the end of a selection. -/
def readOffers : List Segment → Option (List Offer)
  | [] => none
  | [last] => if last.tagName = "/select" then some [] else none
  | first :: last :: rest =>
    if first.tagName = "/select" then some []
    else (readOffer? first last).bind fun offer => (readOffers rest).map (offer :: ·)

/-- The choices of the first selection in a markup. -/
def readSelection (markup : String) : Option (List Offer) :=
  (scan markup).bind fun segs => readOffers (segs.dropWhile (·.tagName ≠ "select")).tail

/-! ## Shapes of options -/

/-- The item of a list stands for a value and a label: as a pair of them, as a mapping with both or
without a label, or as a value that is its own label. -/
inductive Describes : Value → Value × Value → Prop
  | pair (value label : Value) : Describes (.list [value, label]) (value, label)
  | tuple (value label : Value) : Describes (.tuple [value, label]) (value, label)
  | labelled {d : Dict} {label : Value} (h : d.get? "label" = some label) :
      Describes (.dict d) (d.getD "value", label)
  | unlabelled {d : Dict} (h : d.get? "label" = none) :
      Describes (.dict d) (d.getD "value", d.getD "value")
  | plain {v : Value} (hdict : ∀ d, v ≠ .dict d) (hlist : ∀ a b, v ≠ .list [a, b])
      (htuple : ∀ a b, v ≠ .tuple [a, b]) : Describes v (v, v)

/-- The options stand for these values and labels: a mapping from values to labels, or a list. -/
inductive Lists : Value → List (Value × Value) → Prop
  | mapping (d : Dict) : Lists (.dict d) d
  | items {items : List Value} {pairs : List (Value × Value)}
      (h : List.Forall₂ Describes items pairs) : Lists (.list items) pairs

/-- The value is the current one of the field, if that has one, as far as their texts tell. -/
def isCurrent (view : FieldView) (v : Value) : Bool :=
  !(currentValue view).isNull && (currentValue view).asText == v.asText

/-- What a field offers: its placeholder, if it counts as given, and the choices. -/
def offers (view : FieldView) (pairs : List (Value × Value)) : List Offer :=
  ((view.rule.placeholder.filter Value.truthy).toList.map fun v => ⟨"", v.asText, false⟩) ++
  pairs.map fun p => ⟨p.1.asText, p.2.asText, isCurrent view p.1⟩

variable {name : String} {r : Rule} {o : RenderOptions} {kit : Toolkit} {view : FieldView}
  {options : Value} {pairs : List (Value × Value)}

theorem Describes.choiceOf_eq {item : Value} {pair : Value × Value} (h : Describes item pair) :
    choiceOf item = pair := by
  cases h with
  | pair value label => rfl
  | tuple value label => rfl
  | labelled h => simp [choiceOf, h]
  | unlabelled h => simp [choiceOf, h]
  | plain hdict hlist htuple =>
      unfold choiceOf
      split
      · exact absurd rfl (hdict _)
      · exact absurd rfl (hlist _ _)
      · exact absurd rfl (htuple _ _)
      · rfl

/-- **Options are read in each of their shapes.** -/
theorem Lists.choices_eq (h : Lists options pairs) : choices options = .ok pairs := by
  cases h with
  | mapping d => rfl
  | @items items _ h =>
      have hpairs : items.map choiceOf = pairs := by
        have hmap := map_eq_of_forall₂ (f := choiceOf) (g := id) (fun _ _ h => h.choiceOf_eq.symm) h
        rw [← hmap, List.map_id]
      cases items with
      | nil => rw [← hpairs]; rfl
      | cons item rest => rw [← hpairs]; rfl

/-! ## Reading the lines -/

/-- The line is read as a choice, whatever stands before it. -/
def ReadsOffer (line : Dict × Value) (offer : Offer) : Prop :=
  ∀ text, readOffer? ⟨text, (opening "option" line.1).inside⟩ (closing line.2 "option") = some offer

theorem item_closing {tag : String} (htag : IsName tag) (content : Value) :
    (closing content tag).item = ⟨content.asText, "/" ++ tag⟩ := by
  have hname : (closing content tag).item.tag = "/" ++ tag := tagName_closing htag _
  have htext : (closing content tag).item.text = content.asText := by
    rw [Segment.item, closing, unescape_escapeChars, String.ofList_toList]
  rw [← hname, ← htext]

theorem readsOffer {attrs : Dict} (hattrs : KeyedBy attrs ["value", "selected"]) (value : String)
    (hvalue : (attrs.filterMap carried?).lookup "value" = some (some value)) (label : Value) :
    ReadsOffer (attrs, label)
      ⟨value, label.asText, ((attrs.filterMap carried?).lookup "selected").isSome⟩ := by
  intro text
  have hread : Segment.attributes? ⟨text, (opening "option" attrs).inside⟩ =
      some (attrs.filterMap carried?) := by
    rw [(read_opening (by decide) attrs text).2,
      readAttributes_attributes (hasPlainNames_of_keyedBy hattrs (by decide))]
  have hname : Segment.tagName ⟨text, (opening "option" attrs).inside⟩ = "option" :=
    tagName_opening (by decide) attrs text
  have hitem := item_closing (by decide : IsName "option") label
  have hend : (closing label "option").tagName = "/option" := by
    rw [Segment.tagName, hitem]
    rfl
  rw [readOffer?, if_pos ⟨hname, hend⟩, hread, Option.bind_some, hvalue, hitem]
  rfl

theorem readsOffer_choice (value : String) (selected : Bool) (label : Value) :
    ReadsOffer (choiceAttributes value selected, label) ⟨value, label.asText, selected⟩ := by
  have hkeyed : KeyedBy (choiceAttributes value selected) ["value", "selected"] :=
    List.Sublist.refl _
  cases selected with
  | false => exact readsOffer hkeyed value rfl label
  | true => exact readsOffer hkeyed value rfl label

theorem readsOffer_placeholder (label : Value) :
    ReadsOffer ([(.text "value", .text "")], label) ⟨"", label.asText, false⟩ := by
  have hkeyed : KeyedBy [(.text "value", .text "")] ["value", "selected"] :=
    List.sublist_append_left [Value.text "value"] [Value.text "selected"]
  exact readsOffer hkeyed "" rfl label

theorem currentText?_eq (view : FieldView) (v : Value) :
    (currentText? view == some v.asText) = isCurrent view v := by
  unfold currentText? isCurrent
  by_cases hnull : (currentValue view).isNull = true <;> simp [hnull]

/-- **Each line is read as what it offers.** -/
theorem readsOffer_selectionLines (view : FieldView) (pairs : List (Value × Value)) :
    List.Forall₂ ReadsOffer (selectionLines view pairs) (offers view pairs) := by
  refine List.rel_append ?_ ?_
  · exact forall₂_map_map fun v _ => readsOffer_placeholder v
  · refine forall₂_map_map fun p _ => ?_
    rw [currentText?_eq]
    exact readsOffer_choice p.1.asText (isCurrent view p.1) p.2

theorem readOffers_end {last : Segment} (h : last.tagName = "/select") (after : List Segment) :
    readOffers (last :: after) = some [] := by
  cases after with
  | nil => rw [readOffers, if_pos h]
  | cons next after => rw [readOffers, if_pos h]

/-- **Lines are read one after the other**, up to the end of the selection. -/
theorem readOffers_lines {lines : List (Dict × Value)} {offers : List Offer}
    (h : List.Forall₂ ReadsOffer lines offers) {last : Segment} (hlast : last.tagName = "/select")
    (after : List Segment) :
    readOffers ((lines.map optionSegments).flatMap (leading "\n") ++ last :: after) =
      some offers := by
  -- a line is two tags, so the reader is between two choices again when it is done with one
  induction h with
  | nil => exact readOffers_end hlast after
  | @cons line offer lines offers hline _ ih =>
      have hname (text : List Char) :
          Segment.tagName ⟨text, (opening "option" line.1).inside⟩ ≠ "/select" := by
        rw [tagName_opening (by decide)]
        decide
      rw [List.map_cons, List.flatMap_cons, List.append_assoc, optionSegments, leading, leading,
        List.cons_append, List.cons_append, List.nil_append, readOffers, if_neg (hname _),
        hline, ih]
      rfl

/-! ## Reading a group -/

/-- Each part of a group is put on a line of its own. -/
theorem partLines_cons (part : List Segment) (parts : List (List Segment)) :
    partLines (part :: parts) = leading "\n  " part ++ partLines parts := by
  have hlead : leading "\n" (leading "  " part) = leading "\n  " part := by
    cases part <;> rfl
  rw [partLines, List.map_cons, List.flatMap_cons, hlead]
  rfl

/-- The control of a group comes after nothing but the tag that opens the group and those of its
label. -/
theorem exists_groupSegments_eq (view : FieldView) (control : List Segment) :
    ∃ before after, groupSegments view control = before ++ (leading "\n  " control ++ after) ∧
      ∀ seg ∈ before, seg.tagName ∈ ["div", "label", "/label"] := by
  have hdiv : (opening "div" (groupAttributes view)).tagName = "div" :=
    tagName_opening (by decide) _ _
  obtain ⟨others, hothers⟩ : ∃ others, partSegments view control =
      (if view.isFloating then
        [control, [opening "label" (labelAttributes view), closing view.label "label"]]
      else [[opening "label" (labelAttributes view), closing view.label "label"], control]) ++
        others := ⟨_, by rw [partSegments, List.append_assoc]⟩
  rw [groupSegments, framed_eq, hothers]
  by_cases hfloating : view.isFloating = true
  · rw [if_pos hfloating, List.cons_append, partLines_cons, List.append_assoc]
    exact ⟨[opening "div" (groupAttributes view)], _, rfl, by simp [hdiv]⟩
  · have hlabel (text : List Char) :
        Segment.tagName ⟨text, (opening "label" (labelAttributes view)).inside⟩ = "label" :=
      tagName_opening (by decide) _ text
    have hend : (closing view.label "label").tagName = "/label" := tagName_closing (by decide) _
    rw [if_neg hfloating, List.cons_append, List.cons_append, partLines_cons, partLines_cons,
      List.append_assoc, List.append_assoc]
    exact ⟨opening "div" (groupAttributes view) :: leading "\n  "
      [opening "label" (labelAttributes view), closing view.label "label"], _, rfl,
      by simp [leading, hdiv, hlabel, hend]⟩

/-- **What a group offers is read back** from its markup. -/
theorem readSelection_renderGroup (view : FieldView) (pairs : List (Value × Value)) :
    readSelection (renderGroup view (selectionMarkup view pairs)) = some (offers view pairs) := by
  obtain ⟨before, after, hgroup, hbefore⟩ :=
    exists_groupSegments_eq view (selectionSegments view pairs)
  have hselect (text : List Char) : Segment.tagName
      ⟨text, (opening "select" (view.attrs.without selectionDropped)).inside⟩ = "select" :=
    tagName_opening (by decide) _ text
  have hskipped : ∀ seg ∈ before, decide (seg.tagName ≠ "select") = true := by
    intro seg hseg
    have hothers : ∀ n ∈ ["div", "label", "/label"], decide (n ≠ "select") = true := by decide
    exact hothers _ (hbefore seg hseg)
  have hend : Segment.tagName ⟨"\n".toList ++ (closing .null "select").text,
      (closing .null "select").inside⟩ = "/select" := tagName_closing (by decide) _
  have hlines := readOffers_lines (readsOffer_selectionLines view pairs) hend after
  have hlead : leading "\n  " (selectionSegments view pairs) ++ after =
      ⟨"\n  ".toList, (opening "select" (view.attrs.without selectionDropped)).inside⟩ ::
        (((selectionLines view pairs).map optionSegments).flatMap (leading "\n") ++
          ⟨"\n".toList ++ (closing .null "select").text, (closing .null "select").inside⟩ ::
            after) := by
    simp [selectionSegments, layered, leading, opening]
  rw [readSelection, (composed_renderGroup (composed_selectionMarkup view pairs)).scan,
    Option.bind_some, hgroup,
    List.dropWhile_append_of_pos hskipped, hlead,
    List.dropWhile_cons_of_neg (by simp [hselect]), List.tail_cons, hlines]

/-! ## Fields -/

/-- No integer in what a field shows as a selection is too long to be written. -/
def isWritableOffer (view : FieldView) (pairs : List (Value × Value)) : Bool :=
  isWritableSelection view && Value.entriesWritable pairs &&
  (view.attrs.getD "id").isWritable && view.label.isWritable && view.hint.isWritable

/-- **A field that is rendered as a selection** is the group around it, if it can be written. -/
theorem renderField_selection (hoverride : r.renderOverride? = none)
    (hview : fieldView name r o = .ok view)
    (hcontrol : chosenControl kit.controls view.control = .ok .selection)
    (hlists : Lists (Dict.getD r.extras "options") pairs) :
    renderField kit name r o =
      if isWritableOffer view pairs then .ok (renderGroup view (selectionMarkup view pairs))
      else .error (.excess .writing) := by
  have hchoices : choices (Dict.getD view.rule.extras "options") = .ok pairs := by
    rw [rule_fieldView hview]
    exact hlists.choices_eq
  simp only [renderField, hview, hoverride, hcontrol, renderControl, renderSelection, hchoices,
    FieldView.id?, isWritableOffer, ← selectionOf_eq, bind, Except.bind]
  -- the guards are passed one after the other, and each that is not passed ends in the same fault
  cases isWritableSelection view
  · rfl
  cases Value.entriesWritable pairs
  · rfl
  cases (view.attrs.getD "id").isWritable
  · rfl
  cases view.label.isWritable
  · rfl
  cases view.hint.isWritable <;> rfl

/-- What is shown as a selection does not depend on the shape of the options. -/
theorem offer_withOptions (view : FieldView) (options : Value) (pairs : List (Value × Value)) :
    isWritableOffer { view with rule := view.rule.withOptions options } pairs =
        isWritableOffer view pairs ∧
      renderGroup { view with rule := view.rule.withOptions options }
          (selectionMarkup { view with rule := view.rule.withOptions options } pairs) =
        renderGroup view (selectionMarkup view pairs) := by
  have hcurrent : currentValue { view with rule := view.rule.withOptions options } =
      currentValue view := by
    unfold currentValue
    rw [Rule.getD_withOptions view.rule options (by decide)]
  have hlines : selectionLines { view with rule := view.rule.withOptions options } pairs =
      selectionLines view pairs := by
    unfold selectionLines currentText?
    rw [hcurrent]
    rfl
  constructor
  · unfold isWritableOffer isWritableSelection
    rw [hcurrent]
    rfl
  · rw [selectionMarkup, hlines]
    rfl

/-- **What a selection offers** are its placeholder, if it has one, and the values and labels for
which its options stand, in their order; in which shape they were given makes no difference. It is
rendered unless an integer in it is too long to be written. -/
theorem renderField_offers (kit : Toolkit) (hoverride : r.renderOverride? = none)
    (hview : fieldView name r o = .ok view)
    (hcontrol : chosenControl kit.controls view.control = .ok .selection)
    (hlists : Lists (Dict.getD r.extras "options") pairs) :
    ((∃ markup, renderField kit name r o = .ok markup) ↔ isWritableOffer view pairs = true) ∧
    (∀ markup, renderField kit name r o = .ok markup →
      readSelection markup = some (offers view pairs)) ∧
    ∀ options, Lists options pairs →
      renderField kit name (r.withOptions options) o = renderField kit name r o := by
  have hrendered := renderField_selection hoverride hview hcontrol hlists
  refine ⟨?_, fun markup hmarkup => ?_, fun options hoptions => ?_⟩
  · rw [hrendered]
    split <;> simp_all
  · rw [hrendered] at hmarkup
    split at hmarkup
    · obtain rfl := Except.ok.inj hmarkup
      exact readSelection_renderGroup view pairs
    · cases hmarkup
  · have hview' : fieldView name (r.withOptions options) o =
        .ok { view with rule := view.rule.withOptions options } := by
      rw [rule_fieldView hview]
      exact (fieldView_withExtras r _ r.provided).trans (by rw [hview]; rfl)
    have hoverride' : (r.withOptions options).renderOverride? = none := by
      rw [Rule.renderOverride?_withOptions, hoverride]
    have hlists' : Lists (Dict.getD (r.withOptions options).extras "options") pairs := by
      rw [Rule.options_withOptions]
      exact hoptions
    obtain ⟨hwritable, hgroup⟩ := offer_withOptions view options pairs
    rw [hrendered, ← hwritable, ← hgroup]
    exact renderField_selection hoverride' hview' hcontrol hlists'

/-- A pair, a mapping that has its label first, and a value that is its own label. -/
def sizeItems : List Value :=
  [.tuple [.text "s", .text "<small>"],
    .dict [(.text "label", .text "two & \"more\""), (.text "value", .int 2)], .bool true]

def sizePairs : List (Value × Value) :=
  [(.text "s", .text "<small>"), (.int 2, .text "two & \"more\""), (.bool true, .bool true)]

def sizeRule : Rule :=
  { Rule.empty with
    placeholder := some (.text "choose")
    ui := some { Presentation.empty with control := some (.text "select") }
    extras := [(.text "options", .list sizeItems), (.text "value", .text "2")] }

theorem renderField_offers_size : ∃ markup,
    renderField ⟨fun _ _ _ => .ok .null, .standard⟩ "size" sizeRule bareOptions = .ok markup ∧
      readSelection markup = some
        [⟨"", "choose", false⟩, ⟨"s", "<small>", false⟩, ⟨"2", "two & \"more\"", true⟩,
          ⟨"true", "true", false⟩] ∧
      renderField ⟨fun _ _ _ => .ok .null, .standard⟩ "size"
        (sizeRule.withOptions (.dict sizePairs)) bareOptions = .ok markup := by
  have hlists : Lists (Dict.getD sizeRule.extras "options") sizePairs :=
    .items (.cons (.tuple _ _) (.cons (.labelled rfl)
      (.cons (.plain (by simp) (by simp) (by simp)) .nil)))
  have hview : fieldView "size" sizeRule bareOptions = .ok _ := rfl
  obtain ⟨hwritten, hread, hsame⟩ :=
    renderField_offers ⟨fun _ _ _ => .ok .null, .standard⟩ rfl hview rfl hlists
  obtain ⟨markup, hmarkup⟩ := hwritten.mpr (by decide +kernel)
  refine ⟨markup, hmarkup, (hread markup hmarkup).trans ?_, (hsame _ (.mapping _)).trans hmarkup⟩
  rfl

end Markup

end FieldRules
