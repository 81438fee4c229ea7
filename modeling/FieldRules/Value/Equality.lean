import FieldRules.Value.Basic

/-!
# Value — Equality

When two values are equal. Numbers are compared as numbers, whatever their
type, and truth values are numbers; sequences of different types differ;
mappings are equal when they have the same entries in any order. The
attributes that a rule was given explicitly do not enter its comparison.
-/

namespace FieldRules

namespace PatternSpec

/-- Equal patterns have equal sources and options; a source still to be compiled equals no
compiled pattern. -/
def same : PatternSpec → PatternSpec → Bool
  | .source s, .source t => s == t
  | .compiled p, .compiled q => p.source == q.source && p.flags == q.flags
  | _, _ => false

end PatternSpec

/-- Both absent, or both present and related. -/
def sameOption {α : Type} (p : α → α → Bool) : Option α → Option α → Bool
  | none, none => true
  | some a, some b => p a b
  | _, _ => false

mutual

/-- Equality of values. -/
def Value.same : Value → Value → Bool
  | .null, v => v.isNull
  | .bool b, v => (v.numeric?.map (Number.Numeric.equal (.int (if b then 1 else 0)))).getD false
  | .int n, v => (v.numeric?.map (Number.Numeric.equal (.int n))).getD false
  | .float x, v => (v.numeric?.map (Number.Numeric.equal (.double x))).getD false
  | .text s, v =>
    match v with
    | .text t => s == t
    | _ => false
  | .list xs, v =>
    match v with
    | .list ys => Value.sameItems xs ys
    | _ => false
  | .tuple xs, v =>
    match v with
    | .tuple ys => Value.sameItems xs ys
    | _ => false
  | .dict es, v =>
    match v with
    | .dict fs => es.length == fs.length && Value.sameEntries es fs
    | _ => false
  | .pattern p, v =>
    match v with
    | .pattern q => p.source == q.source && p.flags == q.flags
    | _ => false
  | .function f, v =>
    match v with
    | .function g => f == g
    | _ => false
  | .rule r, v =>
    match v with
    | .rule q => r.same q
    | _ => false
  | .presentation p, v =>
    match v with
    | .presentation q => p.same q
    | _ => false
termination_by structural v => v

/-- Equality of sequences, item by item. -/
def Value.sameItems : List Value → List Value → Bool
  | [], ys => ys.isEmpty
  | x :: xs, ys =>
    match ys with
    | [] => false
    | y :: ys => x.same y && Value.sameItems xs ys
termination_by structural v => v

/-- Each entry of the first mapping is one of the second. -/
def Value.sameEntries : List (Value × Value) → List (Value × Value) → Bool
  | [], _ => true
  | (k, v) :: es, fs => (fs.any fun f => k.same f.1 && v.same f.2) && Value.sameEntries es fs
termination_by structural v => v

/-- Equality of optional values. -/
def Value.sameOptional : Option Value → Option Value → Bool
  | none, b => b.isNone
  | some x, b =>
    match b with
    | some y => x.same y
    | none => false
termination_by structural v => v

/-- Equality of rules, the explicit attributes left aside. -/
def Rule.same : Rule → Rule → Bool
  | ⟨required, type, email, url, number, min, max, minValue, maxValue, pattern, validate, label,
      hint, placeholder, id, className, attrs, ui, extras, _⟩, q =>
    required == q.required && type == q.type && email == q.email && url == q.url &&
    number == q.number && min == q.min && max == q.max &&
    sameOption Number.Numeric.equal minValue q.minValue &&
    sameOption Number.Numeric.equal maxValue q.maxValue &&
    sameOption PatternSpec.same pattern q.pattern && validate == q.validate &&
    Value.sameOptional label q.label && Value.sameOptional hint q.hint &&
    Value.sameOptional placeholder q.placeholder && Value.sameOptional id q.id &&
    Value.sameOptional className q.className &&
    attrs.length == q.attrs.length && Value.sameEntries attrs q.attrs &&
    Presentation.sameOptional ui q.ui &&
    extras.length == q.extras.length && Value.sameEntries extras q.extras
termination_by structural v => v

/-- Equality of presentations. -/
def Presentation.same : Presentation → Presentation → Bool
  | ⟨variant, control, label, hint, wrapperClass, labelClass, inputClass, errorClass, render,
      attrs, extras⟩, q =>
    Value.sameOptional variant q.variant && Value.sameOptional control q.control &&
    Value.sameOptional label q.label && Value.sameOptional hint q.hint &&
    Value.sameOptional wrapperClass q.wrapperClass &&
    Value.sameOptional labelClass q.labelClass && Value.sameOptional inputClass q.inputClass &&
    Value.sameOptional errorClass q.errorClass && render == q.render &&
    attrs.length == q.attrs.length && Value.sameEntries attrs q.attrs &&
    extras.length == q.extras.length && Value.sameEntries extras q.extras
termination_by structural v => v

/-- Equality of optional presentations. -/
def Presentation.sameOptional : Option Presentation → Option Presentation → Bool
  | none, b => b.isNone
  | some p, b =>
    match b with
    | some q => p.same q
    | none => false
termination_by structural v => v

end

end FieldRules
