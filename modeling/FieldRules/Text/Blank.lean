/-!
# Text — Blank

White space as the Unicode property lists it, and the two operations that
every reader of submitted text starts from: trimming and splitting into words.
-/

namespace FieldRules.Text

/-- Code points of white space, as closed ranges. -/
def blankRanges : List (Nat × Nat) :=
  [(0x09, 0x0D), (0x1C, 0x20), (0x85, 0x85), (0xA0, 0xA0), (0x1680, 0x1680),
   (0x2000, 0x200A), (0x2028, 0x2029), (0x202F, 0x202F), (0x205F, 0x205F),
   (0x3000, 0x3000)]

/-- White space, the four information separators included. -/
def isBlank (c : Char) : Bool :=
  blankRanges.any fun r => r.1 ≤ c.toNat && c.toNat ≤ r.2

/-- The text without the white space at its end. -/
def trimEnd (cs : List Char) : List Char :=
  (cs.reverse.dropWhile isBlank).reverse

/-- The text without the white space at either end. -/
def trim (cs : List Char) : List Char :=
  trimEnd (cs.dropWhile isBlank)

/-- The text without the white space at either end. -/
def trimString (s : String) : String :=
  String.ofList (trim s.toList)

/-- Nothing but white space. -/
def isBlankString (s : String) : Bool :=
  s.toList.all isBlank

/-- One step of `words`: a blank closes the word under way, anything else extends it. -/
def addToWords (c : Char) (found : List Char × List (List Char)) :
    List Char × List (List Char) :=
  if isBlank c then ([], if found.1.isEmpty then found.2 else found.1 :: found.2)
  else (c :: found.1, found.2)

/-- The maximal runs of characters that are not white space, in order. -/
def words (cs : List Char) : List (List Char) :=
  let found := cs.foldr addToWords ([], [])
  if found.1.isEmpty then found.2 else found.1 :: found.2

/-- The pieces between the characters that satisfy `p`; there is always at least one. -/
def splitOn (p : Char → Bool) : List Char → List (List Char)
  | [] => [[]]
  | c :: cs =>
    if p c then [] :: splitOn p cs
    else match splitOn p cs with
      | [] => [[c]]
      | first :: rest => (c :: first) :: rest

/-- The texts with `separator` between neighbours. -/
def joinWith (separator : String) : List String → String
  | [] => ""
  | [s] => s
  | s :: rest => s ++ separator ++ joinWith separator rest

/-! ## Small facts -/

@[simp] theorem joinWith_nil (separator : String) : joinWith separator [] = "" := rfl

@[simp] theorem joinWith_singleton (separator s : String) : joinWith separator [s] = s := rfl

theorem joinWith_cons_cons (separator s t : String) (rest : List String) :
    joinWith separator (s :: t :: rest) = s ++ separator ++ joinWith separator (t :: rest) := rfl

theorem joinWith_append (separator : String) {a b : List String} (ha : a ≠ []) (hb : b ≠ []) :
    joinWith separator (a ++ b) =
      joinWith separator a ++ separator ++ joinWith separator b := by
  induction a with
  | nil => exact absurd rfl ha
  | cons s rest ih =>
    cases rest with
    | nil =>
      obtain ⟨t, b, rfl⟩ := List.exists_cons_of_ne_nil hb
      rfl
    | cons t rest =>
      rw [List.cons_append, List.cons_append, joinWith_cons_cons, ← List.cons_append,
        ih (by simp), joinWith_cons_cons]
      simp only [String.append_assoc]

@[simp] theorem trim_nil : trim [] = [] := rfl

end FieldRules.Text
