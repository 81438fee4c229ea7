import FieldRules.Proofs.Rule.Demands

/-!
# Proofs — Wording

Demands as text. `Says` is how one demand may be written: white space around its name and its
argument does not count, and some names have two spellings. `Tells` is how a list of demands may be
written, with pieces between them that no token's name begins. A text that tells demands about
different subjects is the rule that asks for them (`Tells.states`).
-/

namespace FieldRules.Rule

open Number (IsNumeral)
open Text (IsBlank trim Joined)

/-! ## Ways to write -/

/-- The names that begin a token. -/
def Token.names : List String :=
  ["required", "string", "email", "password", "number", "numeric", "url", "min", "max",
    "minValue", "min_value", "maxValue", "max_value", "pattern"]

namespace Demand

/-- The names that begin the token of a demand. -/
def names : Demand → List String
  | .required => ["required"]
  | .type .text => ["string"]
  | .type .email => ["email"]
  | .type .password => ["password"]
  | .type .number => ["number", "numeric"]
  | .type .url => ["url"]
  | .min _ => ["min"]
  | .max _ => ["max"]
  | .minValue _ _ => ["minValue", "min_value"]
  | .maxValue _ _ => ["maxValue", "max_value"]
  | .pattern _ _ => ["pattern"]

/-- What the token of a demand carries after its name. -/
def argument? : Demand → Option Value
  | .required => none
  | .type _ => none
  | d => some d.value

/-- The text makes the demand: a name, or a name, a colon and the text of the argument. -/
inductive Says (d : Demand) : List Char → Prop
  | bare (before : List Char) (name : String) (after : List Char) (hname : name ∈ d.names)
      (hargument : d.argument? = none) (hbefore : IsBlank before) (hafter : IsBlank after) :
      Says d (before ++ name.toList ++ after)
  | carrying (before : List Char) (name : String) (after left : List Char) (argument : String)
      (right : List Char) {v : Value} (hname : name ∈ d.names) (hargument : d.argument? = some v)
      (htext : v.asText? = .ok argument) (hbefore : IsBlank before) (hafter : IsBlank after)
      (hleft : IsBlank left) (hright : IsBlank right) :
      Says d (before ++ name.toList ++ after ++ ':' :: (left ++ argument.toList ++ right))

end Demand

/-- The text makes no demand: up to the first colon it is no token's name. -/
structure SaysNothing (piece : List Char) : Prop where
  unknown : String.ofList (trim (piece.takeWhile (· != ':'))) ∉ Token.names
  not_separator : ∀ c ∈ piece, isSeparator c = false

/-- The pieces make the demands, in their order; between them stand pieces that make none. -/
inductive Tells : List (List Char) → List Demand → Prop
  | nil : Tells [] []
  | nothing {piece : List Char} {pieces : List (List Char)} {asked : List Demand}
      (hpiece : SaysNothing piece) (hrest : Tells pieces asked) : Tells (piece :: pieces) asked
  | demand {piece : List Char} {pieces : List (List Char)} {d : Demand} {asked : List Demand}
      (hpiece : d.Says piece) (hrest : Tells pieces asked) : Tells (piece :: pieces) (d :: asked)

variable {piece cs xs ys : List Char} {pieces : List (List Char)} {r : Rule} {d : Demand}
  {asked done : List Demand} {name argument : String} {v : Value} {c : Char}

/-! ## Characters -/

/-- White space is neither a separator nor a colon. -/
theorem plain_of_isBlank (h : Text.isBlank c = true) : isSeparator c = false ∧ c ≠ ':' := by
  have hne (d : Char) (hd : Text.isBlank d = false) : c ≠ d := by
    rintro rfl
    rw [h] at hd
    cases hd
  simp [isSeparator, hne '|' (by decide), hne ',' (by decide), hne ':' (by decide)]

theorem names_subset (d : Demand) : ∀ name ∈ d.names, name ∈ Token.names := by
  cases d with
  | type kind => cases kind <;> simp [Demand.names, Token.names]
  | _ => simp [Demand.names, Token.names]

/-- Names are written without separators, colons and white space. -/
theorem plain_of_mem_names (h : name ∈ Token.names) : ∀ c ∈ name.toList,
    isSeparator c = false ∧ c ≠ ':' ∧ Text.isBlank c = false := by
  -- as a check of the lists: a quantifier over characters would be decided over all of them
  have hall : Token.names.all (fun name => name.toList.all fun c =>
      isSeparator c = false ∧ c ≠ ':' ∧ Text.isBlank c = false) = true := by decide
  simp only [List.all_eq_true, decide_eq_true_eq] at hall
  exact hall name h

theorem trim_of_mem_names (h : name ∈ Token.names) : trim name.toList = name.toList :=
  Text.trim_of_not_blank fun c hc => (plain_of_mem_names h c hc).2.2

theorem not_separator_of_isNumeral (h : IsNumeral cs) : ∀ c ∈ cs, isSeparator c = false := by
  refine h.forall_mem (fun c hc => ?_) rfl rfl rfl rfl
  have hne (d : Char) (hd : d.isDigit = false) : c ≠ d := Number.ne_of_isDigit hc hd
  simp [isSeparator, hne '|' rfl, hne ',' rfl]

theorem asText?_eq_ok : v.asText? = .ok argument ↔ v.isWritable = true ∧ v.asText = argument := by
  unfold Value.asText? Value.ifWritable
  split <;> simp_all

theorem isNumeral_asText_int (n : Int) : IsNumeral (Value.asText (.int n)).toList := by
  rw [Number.toList_asText_int]
  exact Number.isNumeral_integerChars n

/-- Arguments are written without separators and without white space around them. -/
theorem plain_argument (hargument : d.argument? = some v) (htext : v.asText? = .ok argument) :
    trim argument.toList = argument.toList ∧ ∀ c ∈ argument.toList, isSeparator c = false := by
  have hnumeral (h : IsNumeral argument.toList) :
      trim argument.toList = argument.toList ∧ ∀ c ∈ argument.toList, isSeparator c = false :=
    ⟨h.trim, not_separator_of_isNumeral h⟩
  obtain ⟨-, rfl⟩ := asText?_eq_ok.mp htext
  cases d with
  | required => cases hargument
  | type kind => cases hargument
  | min bound =>
      cases hargument
      exact hnumeral (isNumeral_asText_int bound)
  | max bound =>
      cases hargument
      exact hnumeral (isNumeral_asText_int bound)
  | minValue bound finite =>
      cases hargument
      exact hnumeral (Number.isNumeral_asText finite)
  | maxValue bound finite =>
      cases hargument
      exact hnumeral (Number.isNumeral_asText finite)
  | pattern source whole =>
      cases hargument
      exact ⟨whole.trimmed, whole.not_separator⟩

theorem Demand.Says.not_separator (h : d.Says piece) : ∀ c ∈ piece, isSeparator c = false := by
  have hblank {cs : List Char} (hcs : IsBlank cs) : ∀ c ∈ cs, isSeparator c = false :=
    fun c hc => (plain_of_isBlank (hcs c hc)).1
  have hname {name : String} (hmem : name ∈ d.names) : ∀ c ∈ name.toList, isSeparator c = false :=
    fun c hc => (plain_of_mem_names (names_subset d name hmem) c hc).1
  cases h with
  | bare _ _ _ hmem _ hbefore hafter =>
      simp only [List.forall_mem_append]
      exact ⟨⟨hblank hbefore, hname hmem⟩, hblank hafter⟩
  | carrying _ _ _ _ _ _ hmem hargument htext hbefore hafter hleft hright =>
      simp only [List.forall_mem_append, List.forall_mem_cons]
      exact ⟨⟨⟨hblank hbefore, hname hmem⟩, hblank hafter⟩, rfl,
        ⟨hblank hleft, (plain_argument hargument htext).2⟩, hblank hright⟩

theorem Tells.not_separator (h : Tells pieces asked) :
    ∀ piece ∈ pieces, ∀ c ∈ piece, isSeparator c = false := by
  induction h with
  | nil => simp
  | nothing hpiece _ ih => exact List.forall_mem_cons.mpr ⟨hpiece.not_separator, ih⟩
  | demand hpiece _ ih => exact List.forall_mem_cons.mpr ⟨hpiece.not_separator, ih⟩

/-! ## Splitting a token -/

theorem splitToken_append_cons (hxs : ∀ c ∈ xs, c ≠ ':') (ys : List Char) :
    splitToken (xs ++ ':' :: ys) = (trim xs, trim ys) := by
  have hspan : (xs ++ ':' :: ys).span (· != ':') = (xs, ':' :: ys) :=
    Text.span_append_cons (fun hmem => hxs _ hmem rfl) ys
  simp only [splitToken, hspan, List.drop_one, List.tail_cons]

theorem splitToken_of_not_mem (hcs : ∀ c ∈ cs, c ≠ ':') : splitToken cs = (trim cs, []) := by
  have hspan : cs.span (· != ':') = (cs, []) :=
    Text.span_of_not_mem fun hmem => hcs _ hmem rfl
  simp only [splitToken, hspan, List.drop_nil, Text.trim_nil]

/-- Trimming a token changes neither its name nor its argument. -/
theorem splitToken_trim (piece : List Char) : splitToken (trim piece) = splitToken piece := by
  by_cases hcolon : ':' ∈ piece
  · obtain ⟨xs, ys, rfl, hxs⟩ := List.eq_append_cons_of_mem hcolon
    have hxs' : ∀ c ∈ xs, c ≠ ':' := fun c hc heq => hxs (heq ▸ hc)
    have hdrop : ∀ c ∈ xs.dropWhile Text.isBlank, c ≠ ':' := fun c hc =>
      hxs' c ((List.dropWhile_sublist _).mem hc)
    rw [Text.trim_append_cons rfl, splitToken_append_cons hdrop, splitToken_append_cons hxs',
      Text.trim_dropWhile, Text.trim_trimEnd]
  · have hne : ∀ c ∈ piece, c ≠ ':' := fun c hc heq => hcolon (heq ▸ hc)
    have hne' : ∀ c ∈ trim piece, c ≠ ':' := fun c hc => hne c (Text.mem_of_mem_trim hc)
    rw [splitToken_of_not_mem hne, splitToken_of_not_mem hne', Text.trim_trim]

/-! ## Reading -/

theorem read_of_unknown (h : String.ofList (splitToken cs).1 ∉ Token.names) :
    Token.read cs = .ok (.ignored (String.ofList cs)) := by
  rcases hsplit : splitToken cs with ⟨name, argument⟩
  rw [hsplit] at h
  simp only [Token.names, List.mem_cons, List.not_mem_nil, not_or, or_false] at h
  simp only [Token.read, hsplit]
  split
  case h_15 => rfl
  all_goals simp_all

theorem SaysNothing.read (h : SaysNothing piece) :
    Token.read (trim piece) = .ok (.ignored (String.ofList (trim piece))) := by
  refine read_of_unknown ?_
  rw [splitToken_trim]
  have hname : (splitToken piece).1 = trim (piece.takeWhile (· != ':')) := by
    simp only [splitToken, List.span_eq_takeWhile_dropWhile]
  rw [hname]
  exact h.unknown

/-- A bound on the length is read off its text. -/
theorem leadingInteger?_asText {n : Int} (h : Value.asText? (.int n) = .ok argument) :
    Number.leadingInteger? argument.toList = .ok (some n) := by
  obtain ⟨hwritable, rfl⟩ := asText?_eq_ok.mp h
  rw [Number.toList_asText_int]
  exact Number.leadingInteger?_integerChars hwritable

/-- A limit is read off its text. -/
theorem parseNumeric?_of_asText? {x : Number.Double} (hfinite : x.isFinite = true)
    (h : Value.asText? (.float x) = .ok argument) :
    Number.parseNumeric? argument.toList = .ok x.toNumeric? := by
  obtain ⟨-, rfl⟩ := asText?_eq_ok.mp h
  exact Number.parseNumeric?_asText hfinite

theorem trim_padded_name (hname : name ∈ Token.names) {before after : List Char}
    (hbefore : IsBlank before) (hafter : IsBlank after) :
    trim (before ++ name.toList ++ after) = name.toList ∧
      ∀ c ∈ before ++ name.toList ++ after, c ≠ ':' := by
  refine ⟨(Text.trim_padded hbefore hafter _).trans (trim_of_mem_names hname), ?_⟩
  simp only [List.forall_mem_append]
  exact ⟨⟨fun c hc => (plain_of_isBlank (hbefore c hc)).2,
    fun c hc => (plain_of_mem_names hname c hc).2.1⟩,
    fun c hc => (plain_of_isBlank (hafter c hc)).2⟩

/-- **A demand is read back from any way to write it.** -/
theorem Demand.Says.read (h : d.Says piece) : Token.read (trim piece) = .ok d.token := by
  cases h with
  | bare before name after hname hargument hbefore hafter =>
      obtain ⟨htrim, hcolon⟩ := trim_padded_name (names_subset d name hname) hbefore hafter
      have hsplit : splitToken (before ++ name.toList ++ after) = (name.toList, []) := by
        rw [splitToken_of_not_mem hcolon, htrim]
      simp only [Token.read, splitToken_trim, hsplit, String.ofList_toList]
      cases d with
      | required =>
          obtain rfl := List.mem_singleton.mp hname
          rfl
      | type kind =>
          cases kind <;>
            simp only [Demand.names, List.mem_cons, List.not_mem_nil, or_false] at hname
          case number => rcases hname with rfl | rfl <;> rfl
          all_goals
            subst hname
            rfl
      | _ => cases hargument
  | carrying before name after left argument right hname hargument htext hbefore hafter hleft
      hright =>
      obtain ⟨htrim, hcolon⟩ := trim_padded_name (names_subset d name hname) hbefore hafter
      have hsplit : splitToken (before ++ name.toList ++ after ++
          ':' :: (left ++ argument.toList ++ right)) = (name.toList, argument.toList) := by
        rw [splitToken_append_cons hcolon, htrim, Text.trim_padded hleft hright,
          (plain_argument hargument htext).1]
      simp only [Token.read, splitToken_trim, hsplit, String.ofList_toList]
      cases d with
      | required => cases hargument
      | type kind => cases hargument
      | min bound =>
          obtain rfl := List.mem_singleton.mp hname
          cases hargument
          simp only [leadingInteger?_asText htext]
          rfl
      | max bound =>
          obtain rfl := List.mem_singleton.mp hname
          cases hargument
          simp only [leadingInteger?_asText htext]
          rfl
      | minValue bound finite =>
          cases hargument
          simp only [Demand.names, List.mem_cons, List.not_mem_nil, or_false] at hname
          rcases hname with rfl | rfl <;> simp only [parseNumeric?_of_asText? finite htext] <;> rfl
      | maxValue bound finite =>
          cases hargument
          simp only [Demand.names, List.mem_cons, List.not_mem_nil, or_false] at hname
          rcases hname with rfl | rfl <;> simp only [parseNumeric?_of_asText? finite htext] <;> rfl
      | pattern source whole =>
          obtain rfl := List.mem_singleton.mp hname
          cases hargument
          obtain ⟨-, rfl⟩ := asText?_eq_ok.mp htext
          rfl

/-! ## Whole texts -/

/-- What makes no demand asks for nothing. -/
theorem outcome_applyTokens_nothing (hpiece : SaysNothing piece) (rest : List (List Char)) :
    (applyTokens ((trim piece :: rest).filter (!·.isEmpty)) r).outcome =
      (applyTokens (rest.filter (!·.isEmpty)) r).outcome := by
  rw [List.filter_cons]
  split
  · rw [outcome_applyTokens_cons, hpiece.read]
    rfl
  · rfl

theorem outcome_applyTokens_demand (hpiece : d.Says piece) (rest : List (List Char)) :
    (applyTokens ((trim piece :: rest).filter (!·.isEmpty)) r).outcome =
      (applyTokens (rest.filter (!·.isEmpty)) (r.apply d.token)).outcome := by
  have hne : trim piece ≠ [] := by
    intro hnil
    have hread := hpiece.read
    rw [hnil] at hread
    cases d with
    | type kind => cases kind <;> cases hread
    | _ => cases hread
  rw [List.filter_cons_of_pos (by simpa using hne), outcome_applyTokens_cons, hpiece.read]
  rfl

/-- **Pieces that tell demands add them all**, if they are about different subjects. -/
theorem Tells.states (h : Tells pieces asked) (hr : States r done)
    (hdistinct : ((done ++ asked).map Demand.subject).Nodup) :
    ∃ q, (applyTokens ((pieces.map trim).filter (!·.isEmpty)) r).outcome = .ok q ∧
      States q (done ++ asked) := by
  induction h generalizing r done with
  | nil => exact ⟨r, rfl, by rwa [List.append_nil]⟩
  | nothing hpiece _ ih =>
      rw [List.map_cons, outcome_applyTokens_nothing hpiece]
      exact ih hr hdistinct
  | @demand piece pieces d asked hpiece _ ih =>
      have hnew : d.subject ∉ done.map Demand.subject := by
        rw [List.map_append, List.map_cons] at hdistinct
        exact fun hmem => (List.nodup_append.mp hdistinct).2.2 _ hmem _ List.mem_cons_self rfl
      rw [List.map_cons, outcome_applyTokens_demand hpiece, List.append_cons]
      exact ih (hr.apply hnew) (List.append_cons done d asked ▸ hdistinct)

end FieldRules.Rule
