import FieldRules.Markup.Tag
import FieldRules.Proofs.Markup.Scan
import Mathlib.Data.List.Forall2

/-!
# Proofs — Attributes

Reading attributes back. The reader knows nothing of the writer: it takes apart names between white
space, with or without a value between double quotes, and reads the five entities in a value.
Where all names are plain it gives back what the attributes carry (`attributes_read_back`),
whatever the values are: no value closes its own quotes, since escaping leaves no quote in it.
-/

namespace FieldRules.Markup

/-! ## The reader -/

/-- Characters of a name that has to be read without quotes. -/
def isNameChar (c : Char) : Bool :=
  !(Text.isBlank c || ['=', '/', '<', '>', '&', '"', '\''].contains c)

/-- Where the reader stands: between attributes, in a name, after the sign that follows a name, or
in a value. -/
inductive ReadingPlace where
  | between
  | name (seen : List Char)
  | equals (name : List Char)
  | value (name seen : List Char)

/-- The attributes from a place on, in order; an attribute without a value is a bare name. -/
def readFrom : ReadingPlace → List Char → Option (Named (Option String))
  | .between, [] => some []
  | .name seen, [] => some [(String.ofList seen, none)]
  | .equals _, [] => none
  | .value _ _, [] => none
  | .between, c :: rest =>
    if Text.isBlank c then readFrom .between rest
    else if isNameChar c then readFrom (.name [c]) rest
    else none
  | .name seen, c :: rest =>
    if Text.isBlank c then (readFrom .between rest).map ((String.ofList seen, none) :: ·)
    else if c = '=' then readFrom (.equals seen) rest
    else if isNameChar c then readFrom (.name (seen ++ [c])) rest
    else none
  | .equals name, c :: rest =>
    if c = '"' then readFrom (.value name []) rest else none
  | .value name seen, c :: rest =>
    if c = '"' then
      (readFrom .between rest).map
        ((String.ofList name, some (String.ofList (unescape seen))) :: ·)
    else readFrom (.value name (seen ++ [c])) rest

/-- The attributes that a text lists. -/
def readAttributes (s : String) : Option (Named (Option String)) :=
  readFrom .between s.toList

/-- What an entry carries when it is written: its name, alone for `true`, with the text of any other
value; `null` and `false` are not written. -/
def carried? (e : Value × Value) : Option (String × Option String) :=
  match e.2 with
  | .null => none
  | .bool false => none
  | .bool true => some (e.1.asText, none)
  | v => some (e.1.asText, some v.asText)

/-! ## Names -/

/-- A name that can be read without quotes. -/
def IsPlainName (s : String) : Prop :=
  s ≠ "" ∧ ∀ c ∈ s.toList, isNameChar c = true

instance (s : String) : Decidable (IsPlainName s) :=
  letI : Decidable (∀ c ∈ s.toList, isNameChar c = true) := List.decidableBAll _ _
  inferInstanceAs (Decidable (_ ∧ _))

/-- All keys are plain names. -/
def HasPlainNames (attrs : Dict) : Prop :=
  ∀ e ∈ attrs, ∃ name, e.1 = .text name ∧ IsPlainName name

theorem isBlank_of_isNameChar {c : Char} (h : isNameChar c = true) : Text.isBlank c = false := by
  simp only [isNameChar, Bool.not_eq_true', Bool.or_eq_false_iff] at h
  exact h.1

theorem ne_of_isNameChar {c d : Char} (h : isNameChar c = true) (hd : isNameChar d = false) :
    c ≠ d := by
  rintro rfl
  rw [h] at hd
  cases hd

/-- A name needs no escaping. -/
theorem escapeChars_of_isNameChar {cs : List Char} (h : ∀ c ∈ cs, isNameChar c = true) :
    escapeChars cs = cs := by
  induction cs with
  | nil => rfl
  | cons c cs ih =>
      obtain ⟨hc, hcs⟩ := List.forall_mem_cons.mp h
      have hamp : c ≠ '&' := ne_of_isNameChar hc (by decide)
      have hlt : c ≠ '<' := ne_of_isNameChar hc (by decide)
      have hgt : c ≠ '>' := ne_of_isNameChar hc (by decide)
      have hquot : c ≠ '"' := ne_of_isNameChar hc (by decide)
      have hapos : c ≠ '\'' := ne_of_isNameChar hc (by decide)
      rw [escapeChars_cons, ih hcs]
      simp [escapeChar, hamp, hlt, hgt, hquot, hapos]

/-! ## Reading one attribute -/

variable {cs rest : List Char}

theorem readFrom_name (h : ∀ c ∈ cs, isNameChar c = true) (seen rest : List Char) :
    readFrom (.name seen) (cs ++ rest) = readFrom (.name (seen ++ cs)) rest := by
  induction cs generalizing seen with
  | nil => simp
  | cons c cs ih =>
      obtain ⟨hc, hcs⟩ := List.forall_mem_cons.mp h
      have hblank := isBlank_of_isNameChar hc
      have hequals : c ≠ '=' := ne_of_isNameChar hc (by decide)
      rw [List.cons_append, readFrom, if_neg (by simp [hblank]), if_neg hequals, if_pos hc, ih hcs]
      simp

theorem readFrom_between (hne : cs ≠ []) (h : ∀ c ∈ cs, isNameChar c = true) (rest : List Char) :
    readFrom .between (cs ++ rest) = readFrom (.name cs) rest := by
  obtain ⟨c, cs, rfl⟩ := List.exists_cons_of_ne_nil hne
  obtain ⟨hc, hcs⟩ := List.forall_mem_cons.mp h
  have hblank := isBlank_of_isNameChar hc
  rw [List.cons_append, readFrom, if_neg (by simp [hblank]), if_pos hc, readFrom_name hcs]
  rfl

theorem readFrom_value (h : '"' ∉ cs) (name seen rest : List Char) :
    readFrom (.value name seen) (cs ++ rest) = readFrom (.value name (seen ++ cs)) rest := by
  induction cs generalizing seen with
  | nil => simp
  | cons c cs ih =>
      rw [List.mem_cons, not_or] at h
      rw [List.cons_append, readFrom, if_neg (Ne.symm h.1), ih h.2]
      simp

/-- Nothing follows, or a space does. -/
def Separated (rest : List Char) : Prop :=
  rest = [] ∨ ∃ next, rest = ' ' :: next

/-- The text is read as one attribute, wherever it ends or a space follows it. -/
def ReadsAs (s : String) (read : String × Option String) : Prop :=
  ∀ rest, Separated rest →
    readFrom .between (s.toList ++ rest) = (readFrom .between rest).map (read :: ·)

theorem readFrom_space (rest : List Char) :
    readFrom .between (' ' :: rest) = readFrom .between rest := by
  have hblank : Text.isBlank ' ' = true := by decide
  rw [readFrom, if_pos hblank]

/-- A bare name. -/
theorem readsAs_bare {name : String} (h : IsPlainName name) : ReadsAs name (name, none) := by
  obtain ⟨hne, hchars⟩ := h
  have hne' : name.toList ≠ [] := by simpa using hne
  rintro rest (rfl | ⟨next, rfl⟩)
  · rw [readFrom_between hne' hchars, readFrom, readFrom]
    simp
  · have hblank : Text.isBlank ' ' = true := by decide
    rw [readFrom_between hne' hchars, readFrom_space, readFrom, if_pos hblank]
    simp

/-- A name with an escaped text between quotes. -/
theorem readsAs_quoted {name : String} (h : IsPlainName name) (text : String) :
    ReadsAs (name ++ "=\"" ++ escapeString text ++ "\"") (name, some text) := by
  obtain ⟨hne, hchars⟩ := h
  have hne' : name.toList ≠ [] := by simpa using hne
  have hquote : '"' ∉ escapeChars text.toList := fun hmem => (quiet_escapeChars _ _ hmem).2.2 rfl
  have hblank : Text.isBlank '=' = false := by decide
  intro rest _
  have hchars' : (name ++ "=\"" ++ escapeString text ++ "\"").toList ++ rest =
      name.toList ++ '=' :: '"' :: (escapeChars text.toList ++ '"' :: rest) := by
    simp [escapeString]
  rw [hchars', readFrom_between hne' hchars, readFrom, if_neg (by simp [hblank]), if_pos rfl,
    readFrom, if_pos rfl, readFrom_value hquote, List.nil_append, readFrom, if_pos rfl,
    unescape_escapeChars]
  simp

/-- **An attribute that is written is read back**, and no other one is carried. -/
theorem readsAs_attribute {e : Value × Value} {name : String} (hkey : e.1 = .text name)
    (hname : IsPlainName name) :
    Option.Rel ReadsAs (attribute? e.1 e.2) (carried? e) := by
  obtain ⟨key, value⟩ := e
  obtain rfl : key = .text name := hkey
  have hescape : escape (.text name) = name := by
    rw [escape, Value.asText_text, escapeString, escapeChars_of_isNameChar hname.2]
    exact String.ofList_toList
  have hquoted := readsAs_quoted hname value.asText
  have hbare := readsAs_bare hname
  cases value with
  | null => exact .none
  | bool b =>
      cases b with
      | false => exact .none
      | true =>
          rw [attribute?, carried?, hescape]
          exact .some hbare
  | _ =>
      simp only [attribute?, carried?, hescape]
      exact .some hquoted

/-! ## Reading a list -/

/-- Texts that are read as attributes are read so when spaces separate them. -/
theorem readAttributes_joinWith {parts : List String} {reads : Named (Option String)}
    (h : List.Forall₂ ReadsAs parts reads) :
    readAttributes (Text.joinWith " " parts) = some reads := by
  unfold readAttributes
  induction h with
  | nil => rfl
  | @cons part read parts reads hpart hparts ih =>
      cases hparts with
      | nil =>
          have hread := hpart [] (.inl rfl)
          rw [List.append_nil] at hread
          rw [Text.joinWith_singleton, hread]
          rfl
      | @cons next read' parts reads hnext hparts =>
          have hspace : " ".toList = [' '] := rfl
          rw [Text.joinWith_cons_cons, String.toList_append, String.toList_append,
            List.append_assoc, hspace, List.singleton_append, hpart _ (.inr ⟨_, rfl⟩),
            readFrom_space, ih]
          rfl

theorem forall₂_attributes {attrs : Dict} (h : HasPlainNames attrs) :
    List.Forall₂ ReadsAs (attrs.filterMap fun e => attribute? e.1 e.2)
      (attrs.filterMap carried?) := by
  induction attrs with
  | nil => exact .nil
  | cons e rest ih =>
      obtain ⟨⟨name, hkey, hname⟩, hrest⟩ := List.forall_mem_cons.mp h
      have he := readsAs_attribute hkey hname
      rw [List.filterMap_cons, List.filterMap_cons]
      generalize attribute? e.1 e.2 = part at he
      generalize carried? e = read at he
      cases he with
      | none => exact ih hrest
      | some hpart => exact .cons hpart (ih hrest)

/-- **The attributes of a tag are read back as they were given.** -/
theorem readAttributes_attributes {attrs : Dict} (h : HasPlainNames attrs) :
    readAttributes (attributes attrs) = some (attrs.filterMap carried?) :=
  readAttributes_joinWith (forall₂_attributes h)

/-- **Written attributes are read back**: all that carry something, in order, with their texts. So
attributes with the same written form carry the same. -/
theorem attributes_read_back {attrs others : Dict} (h : HasPlainNames attrs)
    (h' : HasPlainNames others) :
    readAttributes (attributes attrs) = some (attrs.filterMap carried?) ∧
    (attributes attrs = attributes others →
      attrs.filterMap carried? = others.filterMap carried?) := by
  have hread := readAttributes_attributes h
  refine ⟨hread, fun hsame => Option.some.inj ?_⟩
  rw [← hread, hsame, readAttributes_attributes h']

/-- Values with quotes, tags and what looks like an entity. -/
def thornyAttributes : Dict :=
  [(.text "title", .text "\"a\" = 'b' &amp; <c>"), (.text "hidden", .bool false),
    (.text "required", .bool true), (.text "data-n", .list [.text "x y", .null]),
    (.text "class", .null)]

theorem attributes_read_back_thorny :
    readAttributes (attributes thornyAttributes) =
      some [("title", some "\"a\" = 'b' &amp; <c>"), ("required", none),
        ("data-n", some "['x y', None]")] := by
  have hnames : HasPlainNames thornyAttributes := by
    simp only [HasPlainNames, thornyAttributes, List.forall_mem_cons]
    refine ⟨⟨_, rfl, ?_⟩, ⟨_, rfl, ?_⟩, ⟨_, rfl, ?_⟩, ⟨_, rfl, ?_⟩, ⟨_, rfl, ?_⟩, by simp⟩ <;>
      decide
  rw [(attributes_read_back hnames hnames).1]
  decide

end FieldRules.Markup
