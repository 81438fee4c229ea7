import FieldRules.Fault

/-!
# Markup — Escape

Text inside markup. The five characters that markup or its quotes could take
for their own are written as entities. `escape` is the text of any value;
`escape?` refuses a value with an integer too long to be written.
-/

namespace FieldRules.Markup

/-- The entity for a character that needs one, the character itself otherwise. -/
def escapeChar (c : Char) : List Char :=
  if c == '&' then ['&', 'a', 'm', 'p', ';']
  else if c == '<' then ['&', 'l', 't', ';']
  else if c == '>' then ['&', 'g', 't', ';']
  else if c == '"' then ['&', 'q', 'u', 'o', 't', ';']
  else if c == '\'' then ['&', '#', 'x', '2', '7', ';']
  else [c]

def escapeChars (cs : List Char) : List Char :=
  cs.flatMap escapeChar

def escapeString (s : String) : String :=
  String.ofList (escapeChars s.toList)

/-- The text of a value, escaped. -/
def escape (v : Value) : String :=
  escapeString v.asText

/-- `escape` of a value that can be written. -/
def escape? (v : Value) : Except Fault String := do
  requireWritable v.isWritable
  return escape v

/-! ## Small facts -/

@[simp] theorem escapeChars_nil : escapeChars [] = [] := rfl

theorem escapeChars_cons (c : Char) (cs : List Char) :
    escapeChars (c :: cs) = escapeChar c ++ escapeChars cs := by
  simp [escapeChars]

end FieldRules.Markup
