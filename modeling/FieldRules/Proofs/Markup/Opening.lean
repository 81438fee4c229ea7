import FieldRules.Proofs.Markup.Constraints

/-!
# Proofs — Opening

The tag that opens a markup, and the id in it. A reader goes through the attributes of the tag and
stops at the first that has the name it looks for (`findFrom`), so what comes later does not matter
to it, readable or not. Forms open with the id of their options; only in the full markup attributes
of the form's own may put another one in its place.
-/

namespace FieldRules.Markup

/-! ## Looking for an attribute -/

/-- The first attribute with a name, from a place on: with its value, or without one. -/
def findFrom (key : String) : ReadingPlace → List Char → Option (Option String)
  | .between, [] => none
  | .name seen, [] => if String.ofList seen = key then some none else none
  | .equals _, [] => none
  | .value _ _, [] => none
  | .between, c :: rest =>
    if Text.isBlank c then findFrom key .between rest
    else if isNameChar c then findFrom key (.name [c]) rest
    else none
  | .name seen, c :: rest =>
    if Text.isBlank c then
      if String.ofList seen = key then some none else findFrom key .between rest
    else if c = '=' then findFrom key (.equals seen) rest
    else if isNameChar c then findFrom key (.name (seen ++ [c])) rest
    else none
  | .equals name, c :: rest =>
    if c = '"' then findFrom key (.value name []) rest else none
  | .value name seen, c :: rest =>
    if c = '"' then
      if String.ofList name = key then some (some (String.ofList (unescape seen)))
      else findFrom key .between rest
    else findFrom key (.value name (seen ++ [c])) rest

/-- The id of a tag by its inside, if it has one. -/
def Segment.id? (seg : Segment) : Option String :=
  (findFrom "id" .between (seg.inside.dropWhile (· ≠ ' '))).join

/-- The tag with which a markup opens. -/
def opening? (markup : String) : Option Segment :=
  match markup.toList with
  | '<' :: rest => some ⟨[], rest.takeWhile (· ≠ '>')⟩
  | _ => none

/-- The id of the form tag with which a markup opens. -/
def formId? (markup : String) : Option String :=
  ((opening? markup).filter fun seg => seg.item.tag = "form").bind Segment.id?

variable {key : String} {cs rest : List Char} {place : ReadingPlace}
  {reads : Named (Option String)}

theorem findFrom_space (key : String) (rest : List Char) :
    findFrom key .between (' ' :: rest) = findFrom key .between rest := by
  have hblank : Text.isBlank ' ' = true := by decide
  rw [findFrom, if_pos hblank]

/-- **What can be read from the front is found there**, and what is not there is looked for in what
follows. -/
theorem findFrom_append (hread : readFrom place cs = some reads) (hrest : Separated rest) :
    findFrom key place (cs ++ rest) = (reads.lookup key).or (findFrom key .between rest) := by
  induction cs generalizing place reads with
  | nil =>
      cases place with
      | between =>
          obtain rfl := Option.some.inj hread
          rfl
      | name seen =>
          obtain rfl := Option.some.inj hread
          rw [List.nil_append, Named.lookup_cons, List.lookup_nil]
          rcases hrest with rfl | ⟨next, rfl⟩
          · by_cases hkey : key = String.ofList seen <;> simp [findFrom, hkey, eq_comm]
          · have hblank : Text.isBlank ' ' = true := by decide
            rw [findFrom_space, findFrom, if_pos hblank]
            by_cases hkey : key = String.ofList seen <;> simp [hkey, eq_comm]
      | equals name => cases hread
      | value name seen => cases hread
  | cons c cs ih =>
      rw [List.cons_append]
      cases place with
      | between =>
          rw [readFrom] at hread
          rw [findFrom]
          split at hread
          · next hblank => rw [if_pos hblank, ih hread]
          · next hblank =>
              rw [if_neg hblank]
              split at hread
              · next hname => rw [if_pos hname, ih hread]
              · cases hread
      | name seen =>
          rw [readFrom] at hread
          rw [findFrom]
          split at hread
          · next hblank =>
              obtain ⟨others, hothers, rfl⟩ := Option.map_eq_some_iff.mp hread
              rw [if_pos hblank, ih hothers, Named.lookup_cons]
              by_cases hkey : key = String.ofList seen <;> simp [hkey, eq_comm]
          · next hblank =>
              rw [if_neg hblank]
              split at hread
              · next hequals => rw [if_pos hequals, ih hread]
              · next hequals =>
                  rw [if_neg hequals]
                  split at hread
                  · next hname => rw [if_pos hname, ih hread]
                  · cases hread
      | equals name =>
          rw [readFrom] at hread
          rw [findFrom]
          split at hread
          · next hquote => rw [if_pos hquote, ih hread]
          · cases hread
      | value name seen =>
          rw [readFrom] at hread
          rw [findFrom]
          split at hread
          · next hquote =>
              obtain ⟨others, hothers, rfl⟩ := Option.map_eq_some_iff.mp hread
              rw [if_pos hquote, ih hothers, Named.lookup_cons]
              by_cases hkey : key = String.ofList name <;> simp [hkey, eq_comm]
          · next hquote => rw [if_neg hquote, ih hread]

/-! ## Opening tags -/

/-- A form tag that can be read up to its id. -/
theorem formId?_of_front {attrs id : String} {front back : List Char}
    (hattrs : attrs.toList = front ++ back) (hbare : Bare attrs.toList) (hback : Separated back)
    (hread : readFrom .between front = some reads) (hid : reads.lookup "id" = some (some id))
    (more : String) : formId? ("<form " ++ attrs ++ ">" ++ more) = some id := by
  rw [hattrs] at hbare
  have hmarkup : ("<form " ++ attrs ++ ">" ++ more).toList =
      '<' :: ("form".toList ++ ' ' :: (front ++ back) ++ '>' :: more.toList) := by
    simp [hattrs]
  have hinside : Bare ("form".toList ++ ' ' :: (front ++ back)) :=
    bare_append.mpr ⟨by decide, List.forall_mem_cons.mpr ⟨by decide, hbare⟩⟩
  have htake : ("form".toList ++ ' ' :: (front ++ back) ++ '>' :: more.toList).takeWhile (· ≠ '>') =
      "form".toList ++ ' ' :: (front ++ back) := by
    rw [List.takeWhile_append_of_pos fun c hc => by simpa using (hinside c hc).2]
    simp
  have hopening : opening? ("<form " ++ attrs ++ ">" ++ more) =
      some ⟨[], "form".toList ++ ' ' :: (front ++ back)⟩ := by
    rw [opening?, hmarkup]
    exact congrArg (fun inside => some (Segment.mk [] inside)) htake
  have htag : (Segment.mk [] ("form".toList ++ ' ' :: (front ++ back))).item.tag = "form" := by
    rw [(read_segment (by decide) (.inr rfl) []).1]
  have hdrop : ("form".toList ++ ' ' :: (front ++ back)).dropWhile (· ≠ ' ') =
      ' ' :: (front ++ back) := rfl
  rw [formId?, hopening, Option.filter_some, if_pos (by simpa using htag), Option.bind_some,
    Segment.id?, hdrop, findFrom_space, findFrom_append hread hback, hid]
  rfl

/-! ## Forms -/

/-- A key that the second of two mappings does not have stays in front. -/
theorem union_of_head {key value : Value} {a b : Dict} (h : ∀ e ∈ b, key.same e.1 = false) :
    Dict.union ((key, value) :: a) b = (key, value) :: Dict.union a b := by
  induction b generalizing a with
  | nil => rfl
  | cons e rest ih =>
      obtain ⟨he, hrest⟩ := List.forall_mem_cons.mp h
      rw [Dict.union_cons, Dict.union_cons, Dict.insert, he]
      exact ih hrest

/-- Attributes that are written stand in front, and the others after a space. -/
theorem exists_attributes_append {front : Dict}
    (h : (front.filterMap fun e => attribute? e.1 e.2) ≠ []) (rest : Dict) :
    ∃ back, (attributes (front ++ rest)).toList = (attributes front).toList ++ back ∧
      Separated back := by
  unfold attributes
  rw [List.filterMap_append]
  by_cases hrest : rest.filterMap (fun e => attribute? e.1 e.2) = []
  · rw [hrest]
    exact ⟨[], by simp, .inl rfl⟩
  · refine ⟨' ' :: (Text.joinWith " " (rest.filterMap fun e => attribute? e.1 e.2)).toList, ?_,
      .inr ⟨_, rfl⟩⟩
    rw [Text.joinWith_append " " h hrest, String.toList_append, String.toList_append,
      List.append_assoc]
    rfl

/-- The attributes of a form begin with its id, unless it is replaced. -/
theorem formAttributes_of_get?_eq_none {o : FormOptions} (h : Dict.get? o.attrs "id" = none) :
    ∃ rest, formAttributes o = (.text "id", .text o.id) :: rest := by
  have hkeys := Dict.hasKey_eq_false.mp (Dict.get?_eq_none.mp h)
  refine ⟨_, union_of_head fun e he => ?_⟩
  rw [Dict.text_same, ← Dict.same_text]
  exact hkeys e.1 (List.mem_map_of_mem he)

/-- The full markup opens with the id that its attributes begin with. -/
theorem formId?_of_formAttributes {kit : Toolkit} {fields : Named Value} {o : RenderOptions}
    {markup id : String} {rest : Dict} (h : (renderForm kit fields o).outcome = .ok markup)
    (hattrs : formAttributes o.form = (.text "id", .text id) :: rest) :
    formId? markup = some id := by
  obtain ⟨groups, -, -, rfl⟩ := renderForm_eq_ok.mp h
  have hwritten : List.filterMap (fun e => attribute? e.1 e.2)
      [(Value.text "id", Value.text id)] ≠ [] := by simp [attribute?]
  obtain ⟨back, hback, hseparated⟩ := exists_attributes_append hwritten rest
  rw [List.singleton_append, ← hattrs] at hback
  have hread : readFrom .between (attributes [(.text "id", .text id)]).toList =
      some [("id", some id)] := by
    have hplain : HasPlainNames [(.text "id", .text id)] :=
      List.forall_mem_singleton.mpr ⟨"id", rfl, by decide⟩
    have hcarried : List.filterMap carried? [(.text "id", .text id)] = [("id", some id)] := by
      simp [carried?]
    rw [← hcarried, ← readAttributes_attributes hplain, readAttributes]
  have hne : (attributes (formAttributes o.form)).isEmpty = false := by
    rw [Bool.eq_false_iff]
    intro hempty
    rw [String.isEmpty_iff.mp hempty, String.toList_empty, eq_comm, List.append_eq_nil_iff] at hback
    rw [hback.1] at hread
    cases hread
  have htag : tag "form" (formAttributes o.form) =
      "<form " ++ attributes (formAttributes o.form) ++ ">" := by
    rw [tag, hne]
    rfl
  rw [formMarkup, List.append_assoc, Text.joinWith_append "\n" (by simp) (by simp),
    Text.joinWith_singleton, htag, String.append_assoc]
  exact formId?_of_front hback (quoted_attributes _).bare hseparated hread rfl _

/-- **The full markup opens with the id of its options**, unless attributes of the form replace
it. -/
theorem formId?_renderForm {kit : Toolkit} {fields : Named Value} {o : RenderOptions}
    {markup : String} (h : (renderForm kit fields o).outcome = .ok markup)
    (hid : Dict.get? o.form.attrs "id" = none) : formId? markup = some o.form.id := by
  obtain ⟨rest, hattrs⟩ := formAttributes_of_get?_eq_none hid
  exact formId?_of_formAttributes h hattrs

namespace Plain

/-- The plain markup always opens with the id of its options. -/
theorem formId?_renderForm {fields : Named Value} {o : RenderOptions} {markup : String}
    (h : (renderForm fields o).outcome = .ok markup) : formId? markup = some o.form.id := by
  obtain ⟨groups, -, rfl⟩ := renderForm_eq_ok.mp h
  let attrs : Dict := [(.text "action", .text o.form.action), (.text "method", .text o.form.method),
    (.text "class", textOrNull o.form.className), (.text "id", .text o.form.id)]
  have hkeys : attrs.map (·.1) = ["action", "method", "class", "id"].map .text := rfl
  have hkeyed : KeyedBy attrs ["action", "method", "class", "id"] := List.Sublist.refl _
  have hread := readAttributes_attributes (hasPlainNames_of_keyedBy hkeyed (by decide))
  have hid := lookup_carried hkeys (by decide) "id"
  rw [formMarkup, List.append_assoc, Text.joinWith_append "\n" (by simp) (by simp),
    Text.joinWith_singleton, String.append_assoc]
  exact formId?_of_front (List.append_nil _).symm (quoted_attributes attrs).bare (.inl rfl) hread
    hid _

end Plain

end FieldRules.Markup
