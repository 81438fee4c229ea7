import FieldRules.Text.Blank
import Mathlib.Data.List.DropRight
import Mathlib.Data.List.TakeDrop

/-!
# Proofs — Trimming

Trimming and splitting. White space around a text is all that trimming takes away
(`trim_padded`), it takes nothing away twice (`trim_trim`), and it stops at the first character
that is not white space (`trim_append_cons`). A span up to a character
ends before the first one (`span_append_cons`). Splitting gives back the
pieces that separators were put between (`splitOn_joined`).
-/

namespace FieldRules.Text

variable {before after cs xs ys : List Char} {c : Char}

/-! ## Trimming -/

/-- Nothing but white space. -/
def IsBlank (cs : List Char) : Prop :=
  ∀ c ∈ cs, isBlank c = true

instance (cs : List Char) : Decidable (IsBlank cs) :=
  List.decidableBAll _ cs

theorem isBlank_takeWhile (cs : List Char) : IsBlank (cs.takeWhile isBlank) :=
  fun _ hc => List.mem_takeWhile_imp hc

theorem IsBlank.dropWhile_append (h : IsBlank before) (cs : List Char) :
    (before ++ cs).dropWhile isBlank = cs.dropWhile isBlank :=
  List.dropWhile_append_of_pos h

theorem IsBlank.trimEnd_append (h : IsBlank after) (cs : List Char) :
    trimEnd (cs ++ after) = trimEnd cs := by
  have hreverse : IsBlank after.reverse := fun c hc => h c (List.mem_reverse.mp hc)
  rw [trimEnd, trimEnd, List.reverse_append, hreverse.dropWhile_append]

theorem IsBlank.dropWhile (h : IsBlank cs) : cs.dropWhile isBlank = [] :=
  List.dropWhile_eq_nil_iff.mpr h

theorem IsBlank.trim (h : IsBlank cs) : Text.trim cs = [] := by
  rw [Text.trim, h.dropWhile]
  rfl

theorem dropWhile_append_cons (hc : isBlank c = false) (xs ys : List Char) :
    (xs ++ c :: ys).dropWhile isBlank = xs.dropWhile isBlank ++ c :: ys := by
  rw [List.dropWhile_append]
  split
  · next hblank =>
      rw [List.isEmpty_iff.mp hblank, List.dropWhile_cons_of_neg (by simp [hc]), List.nil_append]
  · rfl

/-- A text without white space has none to lose. -/
theorem trim_of_not_blank (h : ∀ c ∈ cs, isBlank c = false) : trim cs = cs := by
  have hdrop {ds : List Char} (hds : ∀ c ∈ ds, isBlank c = false) :
      ds.dropWhile isBlank = ds := by
    cases ds with
    | nil => rfl
    | cons c ds => rw [List.dropWhile_cons_of_neg (by simp [hds c List.mem_cons_self])]
  rw [trim, trimEnd, hdrop h, hdrop (by simpa using h), List.reverse_reverse]

/-- **White space around a text does not count.** -/
theorem trim_padded (hbefore : IsBlank before) (hafter : IsBlank after) (cs : List Char) :
    trim (before ++ cs ++ after) = trim cs := by
  rw [trim, trim, List.append_assoc, hbefore.dropWhile_append, List.dropWhile_append]
  split
  · next hblank =>
      rw [List.isEmpty_iff.mp hblank, hafter.dropWhile]
  · exact hafter.trimEnd_append _

/-- Only white space is taken away from the end. -/
theorem exists_trimEnd_append (cs : List Char) :
    ∃ after, IsBlank after ∧ trimEnd cs ++ after = cs := by
  refine ⟨(cs.reverse.takeWhile isBlank).reverse, fun c hc => ?_, ?_⟩
  · exact isBlank_takeWhile _ c (List.mem_reverse.mp hc)
  · rw [trimEnd, ← List.reverse_append, List.takeWhile_append_dropWhile, List.reverse_reverse]

/-- A text is white space around what trimming leaves of it. -/
theorem exists_padded (cs : List Char) :
    ∃ before after, IsBlank before ∧ IsBlank after ∧ before ++ trim cs ++ after = cs := by
  obtain ⟨after, hafter, hend⟩ := exists_trimEnd_append (cs.dropWhile isBlank)
  refine ⟨cs.takeWhile isBlank, after, isBlank_takeWhile cs, hafter, ?_⟩
  rw [trim, List.append_assoc, hend, List.takeWhile_append_dropWhile]

theorem trim_trimEnd (cs : List Char) : trim (trimEnd cs) = trim cs := by
  obtain ⟨after, hafter, hcs⟩ := exists_trimEnd_append cs
  have hnone : IsBlank [] := by simp [IsBlank]
  calc trim (trimEnd cs) = trim ([] ++ trimEnd cs ++ after) := (trim_padded hnone hafter _).symm
    _ = trim cs := by rw [List.nil_append, hcs]

theorem trim_dropWhile (cs : List Char) : trim (cs.dropWhile isBlank) = trim cs := by
  rw [trim, trim, List.dropWhile_idempotent]

theorem trim_trim (cs : List Char) : trim (trim cs) = trim cs := by
  calc trim (trim cs) = trim (cs.dropWhile isBlank) := trim_trimEnd _
    _ = trim cs := trim_dropWhile cs

/-- Nothing is taken away from the inside of a text. -/
theorem trim_append_cons (hc : isBlank c = false) (xs ys : List Char) :
    trim (xs ++ c :: ys) = xs.dropWhile isBlank ++ c :: trimEnd ys := by
  rw [trim, dropWhile_append_cons hc, trimEnd, trimEnd, List.reverse_append, List.reverse_cons,
    List.append_assoc, List.singleton_append, dropWhile_append_cons hc]
  simp

theorem mem_of_mem_trim (h : c ∈ trim cs) : c ∈ cs := by
  have hdrop := (List.dropWhile_sublist _).mem (List.mem_reverse.mp h)
  exact (List.dropWhile_sublist _).mem (List.mem_reverse.mp hdrop)

/-! ## Spans -/

theorem ne_of_not_mem (h : c ∉ xs) : ∀ x ∈ xs, (x != c) = true := fun x hx => by
  rw [bne_iff_ne]
  exact ne_of_mem_of_not_mem hx h

/-- A span up to a character ends before the first one. -/
theorem span_append_cons (h : c ∉ xs) (ys : List Char) :
    (xs ++ c :: ys).span (· != c) = (xs, c :: ys) := by
  rw [List.span_eq_takeWhile_dropWhile, List.takeWhile_append_of_pos (ne_of_not_mem h),
    List.dropWhile_append_of_pos (ne_of_not_mem h)]
  simp

theorem span_of_not_mem (h : c ∉ xs) : xs.span (· != c) = (xs, []) := by
  rw [List.span_eq_takeWhile_dropWhile, List.takeWhile_eq_self_iff.mpr (ne_of_not_mem h),
    List.dropWhile_eq_nil_iff.mpr (ne_of_not_mem h)]

/-! ## Splitting -/

/-- The text is made of the pieces, with one separator between neighbours. -/
inductive Joined (isSeparator : Char → Bool) : List (List Char) → List Char → Prop
  | last (piece : List Char) : Joined isSeparator [piece] piece
  | cons (piece : List Char) {separator : Char} {rest : List (List Char)} {text : List Char}
      (hseparator : isSeparator separator = true) (hrest : Joined isSeparator rest text) :
      Joined isSeparator (piece :: rest) (piece ++ separator :: text)

variable {isSeparator : Char → Bool}

theorem splitOn_of_not_separator (h : ∀ c ∈ cs, isSeparator c = false) :
    splitOn isSeparator cs = [cs] := by
  induction cs with
  | nil => rfl
  | cons c cs ih =>
      obtain ⟨hc, hcs⟩ := List.forall_mem_cons.mp h
      rw [splitOn, ih hcs, if_neg (by simp [hc])]

theorem splitOn_append_cons (h : ∀ c ∈ xs, isSeparator c = false) (hc : isSeparator c = true)
    (ys : List Char) : splitOn isSeparator (xs ++ c :: ys) = xs :: splitOn isSeparator ys := by
  induction xs with
  | nil => rw [List.nil_append, splitOn, if_pos hc]
  | cons x xs ih =>
      obtain ⟨hx, hxs⟩ := List.forall_mem_cons.mp h
      rw [List.cons_append, splitOn, ih hxs, if_neg (by simp [hx])]

/-- **Splitting gives back the pieces of a joined text.** -/
theorem splitOn_joined {pieces : List (List Char)} {text : List Char}
    (h : Joined isSeparator pieces text)
    (hpieces : ∀ piece ∈ pieces, ∀ c ∈ piece, isSeparator c = false) :
    splitOn isSeparator text = pieces := by
  induction h with
  | last piece => exact splitOn_of_not_separator (hpieces piece (by simp))
  | cons piece hseparator _ ih =>
      obtain ⟨hpiece, hrest⟩ := List.forall_mem_cons.mp hpieces
      rw [splitOn_append_cons hpiece hseparator, ih hrest]

end FieldRules.Text
