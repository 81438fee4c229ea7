import FieldRules.Command.Run
import FieldRules.Proofs.Number.Numeral

/-!
# Proofs — Lines

What is printed on one line. A quoted text and a number have no line break, and neither has a
document of JSON that is written in the style for lines, whatever its value is
(`Json.isLine_document`). So the reasons that this library gives when a document cannot be read fit
on a line (`Json.isLine_of_parse`).
-/

namespace FieldRules

/-- There is no line break in the text. -/
def IsLine (s : String) : Prop := '\n' ∉ s.toList

instance (s : String) : Decidable (IsLine s) := inferInstanceAs (Decidable (¬ _))

theorem IsLine.append {s t : String} (hs : IsLine s) (ht : IsLine t) : IsLine (s ++ t) := by
  rw [IsLine, String.toList_append, List.mem_append, not_or]
  exact ⟨hs, ht⟩

theorem isLine_joinWith {separator : String} (hseparator : IsLine separator) {parts : List String}
    (h : ∀ part ∈ parts, IsLine part) : IsLine (Text.joinWith separator parts) := by
  induction parts with
  | nil => exact List.not_mem_nil
  | cons part rest ih =>
      obtain ⟨hpart, hrest⟩ := List.forall_mem_cons.mp h
      cases rest with
      | nil => exact hpart
      | cons next more => exact (hpart.append hseparator).append (ih hrest)

/-! ## Numbers and quoted texts -/

theorem isLine_ofList {cs : List Char} (h : '\n' ∉ cs) : IsLine (String.ofList cs) := by
  rwa [IsLine, String.toList_ofList]

theorem Number.IsNumeral.newline_not_mem {cs : List Char} (h : IsNumeral cs) : '\n' ∉ cs :=
  fun hmem => absurd (h _ hmem) (by decide)

theorem isLine_integerText (n : Int) : IsLine (Number.integerText n) :=
  isLine_ofList (Number.isNumeral_integerChars n).newline_not_mem

theorem isLine_toString (n : Nat) : IsLine (toString n) := by
  have hdigits : (toString n).toList = Number.decimalDigits n := by
    simp [Number.decimalDigits]
  intro hmem
  rw [hdigits] at hmem
  exact absurd (Number.isDigit_of_mem_decimalDigits hmem) (by decide)

theorem newline_not_mem_hexDigits (width n : Nat) : '\n' ∉ Text.hexDigits width n := by
  have hdigit (n : Nat) : '\n' ≠ Text.hexDigit n := by
    have hsmall : ∀ d < 16, '\n' ≠ Text.hexDigit d := by decide
    have hmod : Text.hexDigit n = Text.hexDigit (n % 16) := by
      simp [Text.hexDigit]
    rw [hmod]
    exact hsmall _ (Nat.mod_lt _ (by decide))
  induction width generalizing n with
  | zero => exact List.not_mem_nil
  | succ width ih =>
      rw [Text.hexDigits, List.mem_append, not_or]
      exact ⟨ih _, fun hmem => hdigit n (List.mem_singleton.mp hmem)⟩

theorem newline_not_mem_escapeCode (n : Nat) : '\n' ∉ Text.escapeCode n := by
  unfold Text.escapeCode
  split
  · simp [newline_not_mem_hexDigits]
  · split <;> simp [newline_not_mem_hexDigits]

theorem newline_not_mem_quotedChar {quote : Char} (hquote : quote ≠ '\n') (c : Char) :
    '\n' ∉ Text.quotedChar quote c := by
  by_cases hc : c = '\n'
  · subst hc
    simp [Text.quotedChar, hquote.symm]
  · have hne : '\n' ≠ c := fun h => hc h.symm
    simp only [Text.quotedChar]
    repeat' split
    all_goals simp [hne, newline_not_mem_escapeCode]

theorem isLine_excess (e : Number.Excess) : IsLine e.message := by
  cases e with
  | digits count =>
      exact ((IsLine.append (by decide) (isLine_toString _)).append (by decide)).append
        (isLine_toString count) |>.append (by decide)
  | _ => decide +kernel

/-- A quoted text fits on a line. -/
theorem isLine_quotedString (s : String) : IsLine (Text.quotedString s) := by
  have hquote : Text.quoteFor s.toList ≠ '\n' := by
    unfold Text.quoteFor
    split <;> decide
  refine isLine_ofList ?_
  simp only [Text.quoted, List.mem_cons, List.mem_append, List.mem_flatMap, List.not_mem_nil,
    or_false, not_or, not_exists, not_and]
  exact ⟨hquote.symm, fun c _ => newline_not_mem_quotedChar hquote c, hquote.symm⟩

/-! ## Documents of JSON -/

namespace Json

theorem newline_not_mem_writeChar (ascii : Bool) (c : Char) : '\n' ∉ writeChar ascii c := by
  have hunit (n : Nat) : '\n' ∉ unitEscape n := by
    simp [unitEscape, newline_not_mem_hexDigits]
  by_cases hc : c = '\n'
  · subst hc
    simp [writeChar]
  · have hne : '\n' ≠ c := fun h => hc h.symm
    simp only [writeChar, codeEscape]
    repeat' split
    all_goals simp [hne, hunit]

theorem isLine_writeString (ascii : Bool) (s : String) : IsLine (writeString ascii s) := by
  refine isLine_ofList ?_
  simp only [List.mem_cons, List.mem_append, List.mem_flatMap, List.not_mem_nil, or_false, not_or,
    not_exists, not_and]
  exact ⟨by decide, fun c _ => newline_not_mem_writeChar ascii c, by decide⟩

theorem isLine_writeDouble (x : Number.Double) : IsLine (writeDouble x) := by
  cases x with
  | nan => decide
  | infinite negative => cases negative <;> decide
  | finite negative units fits =>
      exact isLine_ofList
        (Number.isNumeral_chars (x := .finite negative units fits) rfl).newline_not_mem

theorem isLine_enclose {level : Nat} {opening closing : String} (hopening : IsLine opening)
    (hclosing : IsLine closing) {parts : List String} (h : ∀ part ∈ parts, IsLine part) :
    IsLine (enclose .line level opening closing parts) := by
  have hbreak (level : Nat) : IsLine (breakAt .line level) := by
    simp [breakAt, Style.line, IsLine]
  have hseparator (level : Nat) : IsLine (separator .line level) := by
    simp [separator, Style.line, IsLine]
  unfold enclose
  split
  · exact hopening.append hclosing
  · exact (((hopening.append (hbreak _)).append (isLine_joinWith (hseparator _) h)).append
      (hbreak _)).append hclosing

mutual

theorem isLine_write (level : Nat) : (v : Value) → IsLine (write .line level v)
  | .null => show IsLine "null" by decide
  | .bool b => show IsLine (if b then "true" else "false") by cases b <;> decide
  | .int n => isLine_integerText n
  | .float x => isLine_writeDouble x
  | .text s => isLine_writeString _ s
  | .list items => isLine_enclose (by decide) (by decide) (isLine_writeItems (level + 1) items)
  | .tuple items => isLine_enclose (by decide) (by decide) (isLine_writeItems (level + 1) items)
  | .dict entries =>
      isLine_enclose (by decide) (by decide) (isLine_writeMembers (level + 1) entries)
  | .pattern _ => isLine_writeString _ _
  | .function _ => isLine_writeString _ _
  | .rule _ => isLine_writeString _ _
  | .presentation _ => isLine_writeString _ _

theorem isLine_writeItems (level : Nat) :
    (items : List Value) → ∀ part ∈ writeItems .line level items, IsLine part
  | [] => nofun
  | v :: rest => List.forall_mem_cons.mpr ⟨isLine_write level v, isLine_writeItems level rest⟩

theorem isLine_writeMembers (level : Nat) :
    (entries : List (Value × Value)) → ∀ part ∈ writeMembers .line level entries, IsLine part
  | [] => nofun
  | (k, v) :: rest =>
      List.forall_mem_cons.mpr
        ⟨((isLine_writeString _ _).append (by decide)).append (isLine_write level v),
          isLine_writeMembers level rest⟩

end

/-- **A document in the style for lines fits on one**, whatever its value is. -/
theorem isLine_document (v : Value) : IsLine (document .line v) :=
  isLine_write 0 v

/-! ## Reasons -/

theorem isLine_message (flaw : Flaw) : IsLine flaw.message := by
  cases flaw with
  | longInteger digits => exact isLine_excess (.digits digits)
  | _ => decide

theorem isLine_describe (s : Stop) (source : List Char) : IsLine (s.describe source) := by
  have hplace (message : String) (hmessage : IsLine message) (line column place : Nat) :
      IsLine (message ++ ": line " ++ toString line ++ " column " ++ toString column ++ " (char " ++
        toString place ++ ")") :=
    ((((((hmessage.append (by decide)).append (isLine_toString _)).append (by decide)).append
      (isLine_toString _)).append (by decide)).append (isLine_toString _)).append (by decide)
  unfold Stop.describe
  split
  · exact isLine_message _
  · exact hplace _ (isLine_message _) _ _ _

/-- Why a document cannot be read is said on one line. -/
theorem isLine_of_parse {half : Nat → Char} {source message : String}
    (h : parse half source = .error message) : IsLine message := by
  unfold parse at h
  split at h
  · cases h
  · exact Except.error.inj h ▸ isLine_describe _ _

end Json
end FieldRules
