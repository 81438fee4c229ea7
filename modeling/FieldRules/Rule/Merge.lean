import FieldRules.Value.Dict

/-!
# Rule — Merge

Laying one rule over another. Every attribute that the upper rule gives
explicitly replaces that of the lower one, an explicit refusal included;
attributes of markup and extras are joined key by key.
-/

namespace FieldRules.Rule

/-- An optional value that is there and is not `false`. -/
def holdsValue : Option Value → Bool
  | none => false
  | some (.bool false) => false
  | some _ => true

/-- The attribute holds something other than nothing and `false`. Attributes of markup are never
counted. -/
def holds (r : Rule) : Attribute → Bool
  | .required => r.required
  | .type => r.type.isSome
  | .email => r.email
  | .url => r.url
  | .number => r.number
  | .min => r.min.isSome
  | .max => r.max.isSome
  | .minValue => r.minValue.isSome
  | .maxValue => r.maxValue.isSome
  | .pattern => r.pattern.isSome
  | .validate => r.validate.isSome
  | .label => holdsValue r.label
  | .hint => holdsValue r.hint
  | .placeholder => holdsValue r.placeholder
  | .id => holdsValue r.id
  | .className => holdsValue r.className
  | .attrs => false
  | .ui => r.ui.isSome

/-- The attributes that the rule gives: those its source provided, or for a rule whose source is
unknown those that hold something. -/
def explicit (r : Rule) : List Attribute :=
  if r.provided.isEmpty then Attribute.those r.holds else r.provided

/-- The rule `upper` laid over `lower`. -/
def mergedWith (lower upper : Rule) : Rule :=
  let given := upper.explicit
  let pick {α : Type} (a : Attribute) (part : Rule → α) : α :=
    if given.contains a then part upper else part lower
  { required := pick .required required
    type := pick .type type
    email := pick .email email
    url := pick .url url
    number := pick .number number
    min := pick .min min
    max := pick .max max
    minValue := pick .minValue minValue
    maxValue := pick .maxValue maxValue
    pattern := pick .pattern pattern
    validate := pick .validate validate
    label := pick .label label
    hint := pick .hint hint
    placeholder := pick .placeholder placeholder
    id := pick .id id
    className := pick .className className
    attrs := Dict.union lower.attrs upper.attrs
    ui := pick .ui ui
    extras := Dict.union lower.extras upper.extras
    provided := Attribute.union lower.explicit given }

end FieldRules.Rule
