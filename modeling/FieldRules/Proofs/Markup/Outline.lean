import FieldRules.Markup.Tag
import FieldRules.Proofs.Markup.Scan
import Mathlib.Data.List.Forall2

/-!
# Proofs — Outline

What a reader sees of a markup: the names of its tags in order, each with the text that leads up
to it. `Outlined` says that a markup is scanned to such an outline and that the quotes inside
every tag are balanced. It composes along the operations by which markup is built: joining,
indenting and stacking lines, whatever the texts are.
-/

namespace FieldRules.Markup

/-! ## Outlines -/

/-- A tag by its name, with the text that leads up to it as a reader sees it. -/
structure Item where
  text : String
  tag : String
deriving DecidableEq

/-- What a reader sees of a segment; the name of a tag goes up to the first space. -/
def Segment.item (seg : Segment) : Item where
  text := String.ofList (unescape seg.text)
  tag := String.ofList (seg.inside.takeWhile (· ≠ ' '))

/-- Inside a tag: no bracket, and every double quote that opens is closed. -/
structure Quoted (cs : List Char) : Prop where
  bare : Bare cs
  balanced : cs.count '"' % 2 = 0

/-- The markup consists of tags with these names and these texts before them. -/
def Outlined (markup : String) (items : List Item) : Prop :=
  items ≠ [] ∧ ∃ segs, markup.toList = written segs ∧
    (∀ seg ∈ segs, Bare seg.text ∧ Quoted seg.inside) ∧ segs.map Segment.item = items

/-- The outline with a text in front of it. -/
def indented (lead : String) : List Item → List Item
  | [] => []
  | item :: rest => ⟨lead ++ item.text, item.tag⟩ :: rest

/-- The outline of lines, one under the other. -/
def stacked : List (List Item) → List Item
  | [] => []
  | first :: rest => first ++ rest.flatMap (indented "\n")

/-- An outlined markup is scanned to its outline. -/
theorem Outlined.scan {markup : String} {items : List Item} (h : Outlined markup items) :
    ∃ segs, Markup.scan markup = some segs ∧ segs.map Segment.item = items ∧
      ∀ seg ∈ segs, seg.inside.count '"' % 2 = 0 := by
  obtain ⟨-, segs, hmarkup, hsegs, hitems⟩ := h
  refine ⟨segs, scan_written hmarkup fun seg hseg => ?_, hitems, fun seg hseg => ?_⟩
  · exact ⟨(hsegs seg hseg).1, (hsegs seg hseg).2.bare⟩
  · exact (hsegs seg hseg).2.balanced

/-! ## Composing markup -/

theorem Outlined.append {a b : String} {x y : List Item} (ha : Outlined a x)
    (hb : Outlined b y) : Outlined (a ++ b) (x ++ y) := by
  obtain ⟨hx, as, hmarkup, has, rfl⟩ := ha
  obtain ⟨-, bs, hmarkup', hbs, rfl⟩ := hb
  refine ⟨by simp [hx], as ++ bs, ?_, fun seg hseg => ?_, by simp⟩
  · rw [String.toList_append, hmarkup, hmarkup', written_append]
  · rcases List.mem_append.mp hseg with h | h
    · exact has seg h
    · exact hbs seg h

/-- A text without brackets and entities. -/
def IsLead (lead : String) : Prop :=
  ∀ c ∈ lead.toList, c ≠ '<' ∧ c ≠ '>' ∧ c ≠ '&'

instance (lead : String) : Decidable (IsLead lead) :=
  List.decidableBAll _ lead.toList

/-- Such a text can be put in front. -/
theorem Outlined.indented {markup : String} {items : List Item} (h : Outlined markup items)
    (lead : String) (hlead : IsLead lead) :
    Outlined (lead ++ markup) (indented lead items) := by
  obtain ⟨hitems, segs, hmarkup, hsegs, rfl⟩ := h
  cases segs with
  | nil => exact absurd rfl hitems
  | cons seg rest =>
      obtain ⟨⟨htext, hinside⟩, hrest⟩ := List.forall_mem_cons.mp hsegs
      have hbare : Bare lead.toList := fun c hc => ⟨(hlead c hc).1, (hlead c hc).2.1⟩
      have hplain : '&' ∉ lead.toList := fun hmem => (hlead _ hmem).2.2 rfl
      refine ⟨by simp [Markup.indented], ⟨lead.toList ++ seg.text, seg.inside⟩ :: rest, ?_, ?_, ?_⟩
      · rw [String.toList_append, hmarkup, written, written, List.append_assoc]
      · exact List.forall_mem_cons.mpr ⟨⟨bare_append.mpr ⟨hbare, htext⟩, hinside⟩, hrest⟩
      · simp [Segment.item, Markup.indented, unescape_append hplain]

theorem indented_append {lead : String} {x y : List Item} (hx : x ≠ []) :
    indented lead (x ++ y) = indented lead x ++ y := by
  cases x with
  | nil => exact absurd rfl hx
  | cons item rest => rfl

/-- **Lines that are outlined are outlined one under the other.** -/
theorem outlined_lines {lines : List String} {outlines : List (List Item)}
    (h : List.Forall₂ Outlined lines outlines) (hne : lines ≠ []) :
    Outlined (Text.joinWith "\n" lines) (stacked outlines) := by
  induction h with
  | nil => exact absurd rfl hne
  | @cons line x lines outlines hline hlines ih =>
      cases hlines with
      | nil => simpa [stacked] using hline
      | @cons line' y lines outlines hline' hlines =>
          -- the line break goes to the first tag of the next line, and every outline has one
          have hrest := (ih (by simp)).indented "\n" (by decide)
          rw [stacked, indented_append hline'.1] at hrest
          have hall := hline.append hrest
          rw [← String.append_assoc, ← Text.joinWith_cons_cons] at hall
          exact hall

/-! ## Tags -/

/-- A name that a tag can have. -/
def IsName (name : String) : Prop :=
  ∀ c ∈ name.toList, c ≠ ' ' ∧ c ≠ '<' ∧ c ≠ '>' ∧ c ≠ '"'

instance (name : String) : Decidable (IsName name) :=
  List.decidableBAll _ name.toList

/-- One tag whose inside is a name and what follows it after a space. -/
theorem outlined_of_toList {markup name : String} {text inside : List Char}
    (hmarkup : markup.toList = text ++ '<' :: (name.toList ++ (inside ++ ['>'])))
    (htext : Bare text) (hname : IsName name)
    (hinside : inside.head? = none ∨ inside.head? = some ' ') (hquoted : Quoted inside) :
    Outlined markup [⟨String.ofList (unescape text), name⟩] := by
  have hword : ∀ c ∈ name.toList, decide (c ≠ ' ') = true := by
    intro c hc
    simpa using (hname c hc).1
  have hbare : Bare name.toList := fun c hc => (hname c hc).2.imp id And.left
  have hcount : name.toList.count '"' = 0 :=
    List.count_eq_zero.mpr fun hmem => (hname _ hmem).2.2.2 rfl
  -- the name ends with the inside or at the space with which the rest begins
  have htake : inside.takeWhile (fun c => decide (c ≠ ' ')) = [] := by
    cases inside with
    | nil => rfl
    | cons c rest =>
        have hc : c = ' ' := by simpa using hinside
        simp [hc]
  refine ⟨by simp, [⟨text, name.toList ++ inside⟩], ?_, ?_, ?_⟩
  · rw [hmarkup, written, written, List.append_assoc]
  · refine List.forall_mem_singleton.mpr ⟨htext, bare_append.mpr ⟨hbare, hquoted.bare⟩, ?_⟩
    rw [List.count_append, hcount, Nat.zero_add]
    exact hquoted.balanced
  · rw [List.map_singleton, Segment.item, List.takeWhile_append_of_pos hword, htake,
      List.append_nil, String.ofList_toList]

theorem quoted_nil : Quoted [] := ⟨bare_nil, rfl⟩

theorem Quoted.append {a b : List Char} (ha : Quoted a) (hb : Quoted b) : Quoted (a ++ b) where
  bare := bare_append.mpr ⟨ha.bare, hb.bare⟩
  balanced := by
    have h := ha.balanced
    have h' := hb.balanced
    rw [List.count_append]
    omega

/-- A text between quotes. -/
theorem Quoted.wrap {cs : List Char} (h : Quoted cs) : Quoted ('"' :: (cs ++ ['"'])) where
  bare := by
    have hcs := h.bare
    have hquote : Bare ['"'] := by decide
    exact bare_append.mpr ⟨hquote, bare_append.mpr ⟨hcs, hquote⟩⟩
  balanced := by
    have hcs := h.balanced
    rw [List.count_cons_self, List.count_append, List.count_singleton_self]
    omega

theorem bare_escapeChars (cs : List Char) : Bare (escapeChars cs) :=
  fun c hc => (quiet_escapeChars cs c hc).imp id And.left

theorem quoted_escapeChars (cs : List Char) : Quoted (escapeChars cs) where
  bare := bare_escapeChars cs
  balanced := by
    rw [List.count_eq_zero.mpr fun hmem => (quiet_escapeChars cs _ hmem).2.2 rfl]

theorem toList_escapeString (s : String) :
    (escapeString s).toList = escapeChars s.toList := by
  simp [escapeString]

theorem toList_escape (v : Value) : (escape v).toList = escapeChars v.asText.toList :=
  toList_escapeString _

theorem quoted_joinWith {separator : String} (hseparator : Quoted separator.toList)
    {parts : List String} (h : ∀ part ∈ parts, Quoted part.toList) :
    Quoted (Text.joinWith separator parts).toList := by
  induction parts with
  | nil => exact quoted_nil
  | cons part rest ih =>
      obtain ⟨hpart, hrest⟩ := List.forall_mem_cons.mp h
      cases rest with
      | nil => exact hpart
      | cons next rest =>
          rw [Text.joinWith_cons_cons, String.toList_append, String.toList_append]
          exact (hpart.append hseparator).append (ih hrest)

/-- The attribute is its escaped name alone, or with its escaped text between quotes. -/
theorem quoted_attribute {key value : Value} {s : String} (h : attribute? key value = some s) :
    Quoted s.toList := by
  have hkey := quoted_escapeChars key.asText.toList
  have hvalue := quoted_escapeChars value.asText.toList
  have hequals : Quoted ['='] := ⟨by decide, rfl⟩
  have hboth : Quoted (escape key ++ "=\"" ++ escape value ++ "\"").toList := by
    simpa [toList_escape] using hkey.append (hequals.append hvalue.wrap)
  cases value with
  | null => cases h
  | bool b =>
      cases b with
      | false => cases h
      | true =>
          rw [← Option.some.inj h, toList_escape]
          exact hkey
  | _ =>
      rw [← Option.some.inj h]
      exact hboth

/-- **Attributes leave no quote open**, whatever their names and values are. -/
theorem quoted_attributes (attrs : Dict) : Quoted (attributes attrs).toList := by
  refine quoted_joinWith ⟨by decide, rfl⟩ fun part hpart => ?_
  obtain ⟨e, -, he⟩ := List.mem_filterMap.mp hpart
  exact quoted_attribute he

theorem Quoted.space {cs : List Char} (h : Quoted cs) : Quoted (' ' :: cs) := by
  have hspace : Quoted [' '] := ⟨by decide, rfl⟩
  exact hspace.append h

/-- A tag that is nothing but its name. -/
theorem outlined_bare {markup name : String}
    (hmarkup : markup.toList = '<' :: (name.toList ++ ['>'])) (hname : IsName name) :
    Outlined markup [⟨"", name⟩] := by
  have htext : markup.toList = [] ++ '<' :: (name.toList ++ ([] ++ ['>'])) := by
    simpa using hmarkup
  exact outlined_of_toList htext bare_nil hname (.inl rfl) quoted_nil

/-- **A tag is one tag**, whatever its attributes are. -/
theorem outlined_tag (name : String) (hname : IsName name) (attrs : Dict) :
    Outlined (tag name attrs) [⟨"", name⟩] := by
  unfold tag
  by_cases hempty : (attributes attrs).isEmpty = true
  · rw [if_pos hempty]
    exact outlined_bare (by simp) hname
  · have hmarkup : ("<" ++ name ++ " " ++ attributes attrs ++ ">").toList =
        [] ++ '<' :: (name.toList ++ (' ' :: (attributes attrs).toList ++ ['>'])) := by
      simp
    rw [if_neg hempty]
    exact outlined_of_toList hmarkup bare_nil hname (.inr rfl) (quoted_attributes attrs).space

/-- An escaped text and the tag that closes its element. -/
theorem outlined_closing {closing name : String}
    (hclosing : closing.toList = '<' :: '/' :: (name.toList ++ ['>'])) (hname : IsName name)
    (content : Value) :
    Outlined (escape content ++ closing) [⟨content.asText, "/" ++ name⟩] := by
  have hmarkup : (escape content ++ closing).toList =
      escapeChars content.asText.toList ++ '<' :: (("/" ++ name).toList ++ ([] ++ ['>'])) := by
    simp [toList_escape, hclosing]
  have hslash : IsName ("/" ++ name) := by
    intro c hc
    rw [String.toList_append] at hc
    rcases List.mem_append.mp hc with hslash | hrest
    · rw [List.mem_singleton.mp hslash]
      decide
    · exact hname c hrest
  have h := outlined_of_toList hmarkup (bare_escapeChars _) hslash (.inl rfl) quoted_nil
  rwa [unescape_escapeChars, String.ofList_toList] at h

/-- **An element is a tag, its text and the closing tag.** -/
theorem outlined_element (name : String) (hname : IsName name) (attrs : Dict)
    (content : Value) :
    Outlined (element name attrs content) [⟨"", name⟩, ⟨content.asText, "/" ++ name⟩] := by
  have hclosing : ("</" ++ name ++ ">").toList = '<' :: '/' :: (name.toList ++ ['>']) := by
    simp
  have h := (outlined_tag name hname attrs).append (outlined_closing hclosing hname content)
  rwa [← String.append_assoc, ← String.append_assoc, ← String.append_assoc] at h

end FieldRules.Markup
