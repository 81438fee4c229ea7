import FieldRules.Markup.Escape

/-!
# Proofs — Scan

Reading markup back. The scanner knows nothing of the renderer: a raw `<` opens a tag, the next
raw `>` closes it, and each of the two anywhere else is a flaw. Escaped text holds neither of
them nor a double quote (`quiet_escapeChars`), and reads back as what was escaped
(`unescape_escapeChars`).
-/

namespace FieldRules.Markup

/-! ## Scanning -/

/-- A tag, and the text that leads up to it. -/
structure Segment where
  text : List Char
  inside : List Char
deriving DecidableEq

/-- Where the scanner stands: in a text, or in a tag after its text. -/
inductive Place where
  | text (seen : List Char)
  | tag (text seen : List Char)

/-- The tags of a markup that ends with one. -/
def scanFrom : Place → List Char → Option (List Segment)
  | .text seen, [] => if seen.isEmpty then some [] else none
  | .tag _ _, [] => none
  | .text seen, c :: rest =>
    if c = '<' then scanFrom (.tag seen []) rest
    else if c = '>' then none
    else scanFrom (.text (seen ++ [c])) rest
  | .tag text seen, c :: rest =>
    if c = '>' then (scanFrom (.text []) rest).map (⟨text, seen⟩ :: ·)
    else if c = '<' then none
    else scanFrom (.tag text (seen ++ [c])) rest

def scan (markup : String) : Option (List Segment) :=
  scanFrom (.text []) markup.toList

/-- No character opens or closes a tag. -/
def Bare (cs : List Char) : Prop :=
  ∀ c ∈ cs, c ≠ '<' ∧ c ≠ '>'

instance (cs : List Char) : Decidable (Bare cs) :=
  List.decidableBAll _ cs

/-- The markup of a sequence of tags. -/
def written : List Segment → List Char
  | [] => []
  | seg :: rest => seg.text ++ '<' :: (seg.inside ++ '>' :: written rest)

@[simp] theorem bare_nil : Bare [] := by
  simp [Bare]

theorem bare_append {a b : List Char} : Bare (a ++ b) ↔ Bare a ∧ Bare b := by
  simp only [Bare, List.mem_append]
  constructor
  · intro h
    exact ⟨fun c hc => h c (.inl hc), fun c hc => h c (.inr hc)⟩
  · rintro ⟨ha, hb⟩ c (hc | hc)
    · exact ha c hc
    · exact hb c hc

theorem written_append (a b : List Segment) : written (a ++ b) = written a ++ written b := by
  induction a with
  | nil => rfl
  | cons seg rest ih => simp [written, ih]

theorem scanFrom_text {cs : List Char} (h : Bare cs) (seen rest : List Char) :
    scanFrom (.text seen) (cs ++ rest) = scanFrom (.text (seen ++ cs)) rest := by
  induction cs generalizing seen with
  | nil => simp
  | cons c cs ih =>
      obtain ⟨hc, hcs⟩ := List.forall_mem_cons.mp h
      rw [List.cons_append, scanFrom, if_neg hc.1, if_neg hc.2, ih hcs]
      simp

theorem scanFrom_tag {cs : List Char} (h : Bare cs) (text seen rest : List Char) :
    scanFrom (.tag text seen) (cs ++ rest) = scanFrom (.tag text (seen ++ cs)) rest := by
  induction cs generalizing seen with
  | nil => simp
  | cons c cs ih =>
      obtain ⟨hc, hcs⟩ := List.forall_mem_cons.mp h
      rw [List.cons_append, scanFrom, if_neg hc.2, if_neg hc.1, ih hcs]
      simp

/-- **What is written is scanned back**, if no text and no tag has a bracket of its own. -/
theorem scan_written {markup : String} {segs : List Segment}
    (hmarkup : markup.toList = written segs)
    (h : ∀ seg ∈ segs, Bare seg.text ∧ Bare seg.inside) : scan markup = some segs := by
  rw [scan, hmarkup]
  clear hmarkup
  induction segs with
  | nil => rfl
  | cons seg rest ih =>
      obtain ⟨⟨htext, hinside⟩, hrest⟩ := List.forall_mem_cons.mp h
      rw [written, scanFrom_text htext, List.nil_append, scanFrom, if_pos rfl,
        scanFrom_tag hinside, List.nil_append, scanFrom, if_pos rfl, ih hrest]
      rfl

/-! ## Escaped text -/

/-- The text in which the five entities are read as the characters they stand for. -/
def unescape : List Char → List Char
  | '&' :: 'a' :: 'm' :: 'p' :: ';' :: rest => '&' :: unescape rest
  | '&' :: 'l' :: 't' :: ';' :: rest => '<' :: unescape rest
  | '&' :: 'g' :: 't' :: ';' :: rest => '>' :: unescape rest
  | '&' :: 'q' :: 'u' :: 'o' :: 't' :: ';' :: rest => '"' :: unescape rest
  | '&' :: '#' :: 'x' :: '2' :: '7' :: ';' :: rest => '\'' :: unescape rest
  | c :: rest => c :: unescape rest
  | [] => []

theorem unescape_cons {c : Char} (h : c ≠ '&') (rest : List Char) :
    unescape (c :: rest) = c :: unescape rest := by
  rw [unescape] <;> simp_all

/-- A text without entities stays as it is. -/
theorem unescape_append {cs : List Char} (h : '&' ∉ cs) (rest : List Char) :
    unescape (cs ++ rest) = cs ++ unescape rest := by
  induction cs with
  | nil => rfl
  | cons c cs ih =>
      rw [List.mem_cons, not_or] at h
      rw [List.cons_append, unescape_cons (Ne.symm h.1), ih h.2, List.cons_append]

/-- What is written for a character. -/
inductive Escaped : Char → List Char → Prop
  | amp : Escaped '&' ['&', 'a', 'm', 'p', ';']
  | lt : Escaped '<' ['&', 'l', 't', ';']
  | gt : Escaped '>' ['&', 'g', 't', ';']
  | quot : Escaped '"' ['&', 'q', 'u', 'o', 't', ';']
  | apos : Escaped '\'' ['&', '#', 'x', '2', '7', ';']
  | plain {c} (hamp : c ≠ '&') (hlt : c ≠ '<') (hgt : c ≠ '>') (hquot : c ≠ '"') : Escaped c [c]

theorem escaped_escapeChar (c : Char) : Escaped c (escapeChar c) := by
  unfold escapeChar
  by_cases hamp : c = '&'
  · subst hamp
    exact .amp
  by_cases hlt : c = '<'
  · subst hlt
    exact .lt
  by_cases hgt : c = '>'
  · subst hgt
    exact .gt
  by_cases hquot : c = '"'
  · subst hquot
    exact .quot
  by_cases hapos : c = '\''
  · subst hapos
    exact .apos
  simpa [hamp, hlt, hgt, hquot, hapos] using Escaped.plain hamp hlt hgt hquot

/-- **Escaped text reads back as what was escaped.** -/
theorem unescape_escapeChars (cs : List Char) : unescape (escapeChars cs) = cs := by
  induction cs with
  | nil => rfl
  | cons c cs ih =>
      rw [escapeChars_cons]
      have hc := escaped_escapeChar c
      generalize escapeChar c = es at hc
      cases hc with
      | plain hamp _ _ _ =>
          rw [List.singleton_append, unescape_cons hamp, ih]
      | _ => exact congrArg (List.cons _) ih

/-- No character has a meaning in markup. -/
def Quiet (cs : List Char) : Prop :=
  ∀ c ∈ cs, c ≠ '<' ∧ c ≠ '>' ∧ c ≠ '"'

instance (cs : List Char) : Decidable (Quiet cs) :=
  List.decidableBAll _ cs

theorem Escaped.quiet {c : Char} {es : List Char} (h : Escaped c es) : Quiet es := by
  cases h with
  | plain _ hlt hgt hquot =>
      intro d hd
      rw [List.mem_singleton.mp hd]
      exact ⟨hlt, hgt, hquot⟩
  | _ => decide

/-- **Nothing in an escaped text has a meaning in markup.** -/
theorem quiet_escapeChars (cs : List Char) : Quiet (escapeChars cs) := by
  intro c hc
  obtain ⟨d, -, hd⟩ := List.mem_flatMap.mp hc
  exact (escaped_escapeChar d).quiet c hd

end FieldRules.Markup
