import FieldRules.Rule.Spelling
import FieldRules.Rule.Bound

/-!
# Rule — OfDict

Rules and presentations from mappings. Every attribute is looked up under its
spellings; keys that no attribute uses become extras. Nothing is refused:
what does not fit an attribute is dropped, a number too large or too long to
be read or written apart.
-/

namespace FieldRules

/-- The presentation that a mapping describes. -/
def Presentation.ofDict (d : Dict) : Presentation where
  variant := d.given? "variant"
  control := d.given? "control"
  label := d.given? "label"
  hint := d.given? "hint"
  wrapperClass := d.firstGiven? wrapperClassSpellings
  labelClass := d.firstGiven? labelClassSpellings
  inputClass := d.firstGiven? inputClassSpellings
  errorClass := d.firstGiven? errorClassSpellings
  render := (d.getD "render").function?
  attrs := (d.getD "attrs").dict?.getD []
  extras := d.without knownKeys

/-- The presentation that a value is or describes. -/
def Value.presentation? : Value → Option Presentation
  | .presentation p => some p
  | .dict d => some (Presentation.ofDict d)
  | _ => none

namespace Rule

/-- An attribute is given under one of its spellings. -/
def isGiven (d : Dict) (a : Attribute) : Bool :=
  a.spellings.any fun name => (d.given? name).isSome

/-- The attributes that a mapping provides. A type provides the formats too, because it decides
them. -/
def providedBy (d : Dict) : List Attribute :=
  Attribute.those fun a =>
    isGiven d a || (Attribute.formats.contains a && isGiven d .type)

/-- A format is on when it is asked for, or declared as the type. -/
def formatOf (d : Dict) (name : String) (type : Option String) : Bool :=
  (d.getD name).truthy || type == some name

/-- The type that a mapping declares. -/
def declaredType (d : Dict) : Except Fault (Option String) :=
  match d.given? "type" with
  | none => .ok none
  | some v => liftExcess (v.display?.map some)

/-- The rule that a mapping describes. -/
def ofDict (d : Dict) : Except Fault Rule := do
  let type ← declaredType d
  let min ← Value.optionalBound Value.length? (d.firstGiven? Attribute.min.spellings)
  let max ← Value.optionalBound Value.length? (d.firstGiven? Attribute.max.spellings)
  let minValue ← Value.optionalBound Value.limit? (d.firstGiven? Attribute.minValue.spellings)
  let maxValue ← Value.optionalBound Value.limit? (d.firstGiven? Attribute.maxValue.spellings)
  return {
    required := (d.getD "required").truthy
    type
    email := formatOf d "email" type
    url := formatOf d "url" type
    number := formatOf d "number" type
    min, max, minValue, maxValue
    pattern := (d.getD "pattern").patternSpec?
    validate := (d.getD "validate").function?
    label := d.given? "label"
    hint := d.given? "hint"
    placeholder := d.given? "placeholder"
    id := d.given? "id"
    className := d.firstGiven? Attribute.className.spellings
    attrs := (d.getD "attrs").dict?.getD []
    ui := (d.getD "ui").presentation?
    extras := d.without knownKeys
    provided := providedBy d }

end Rule
end FieldRules
