import FieldRules.Named
import FieldRules.Value.Equality

/-!
# Value — Dict

Mappings in insertion order. Writing under a key that is there already keeps
the key's place and its first form and replaces the value.
-/

namespace FieldRules

/-! ## Keys and items -/

mutual

/-- Values that may be keys: those that hold nothing that could change. -/
def Value.isKey : Value → Bool
  | .list _ => false
  | .dict _ => false
  | .rule _ => false
  | .presentation _ => false
  | .tuple items => Value.areKeys items
  | _ => true

def Value.areKeys : List Value → Bool
  | [] => true
  | v :: rest => v.isKey && Value.areKeys rest

end

/-- The items of a value that can be gone through one by one: those of a sequence, the characters
of a text, the keys of a mapping. -/
def Value.items? : Value → Option (List Value)
  | .list items => some items
  | .tuple items => some items
  | .text s => some (s.toList.map fun c => .text (String.singleton c))
  | .dict entries => some (entries.map (·.1))
  | _ => none

namespace Dict

/-! ## Operations -/

/-- The value under a key. -/
def find? : Dict → Value → Option Value
  | [], _ => none
  | (k, v) :: rest, key => if k.same key then some v else find? rest key

/-- The value under a key, `null` where there is none. -/
def find (d : Dict) (key : Value) : Value :=
  (d.find? key).getD .null

/-- The key is the text `name`. -/
def keyIs (name : String) : Value → Bool
  | .text s => s == name
  | _ => false

/-- The value under a name. -/
def get? : Dict → String → Option Value
  | [], _ => none
  | (k, v) :: rest, name => if keyIs name k then some v else get? rest name

/-- The value under a name, `null` where there is none. -/
def getD (d : Dict) (name : String) : Value :=
  (d.get? name).getD .null

/-- The value under a name unless it is missing or `null`. -/
def given? (d : Dict) (name : String) : Option Value :=
  (d.get? name).bind Value.present?

/-- There is a value under the name. -/
def has (d : Dict) (name : String) : Bool :=
  (d.get? name).isSome

/-- The first value that is given under one of the names, in the order of the names. -/
def firstGiven? (d : Dict) (names : List String) : Option Value :=
  names.findSome? d.given?

/-- The mapping with `v` under `k`. -/
def insert : Dict → Value → Value → Dict
  | [], k, v => [(k, v)]
  | (k', v') :: rest, k, v =>
    if k'.same k then (k', v) :: rest else (k', v') :: insert rest k v

/-- The mapping with `v` under a name. -/
def set (d : Dict) (name : String) (v : Value) : Dict :=
  insert d (.text name) v

/-- Both mappings together; the entries of the second win. -/
def union (a b : Dict) : Dict :=
  b.foldl (fun d e => insert d e.1 e.2) a

/-- The mapping without the value under a name. -/
def erase (d : Dict) (name : String) : Dict :=
  d.filter fun e => !keyIs name e.1

/-- The mapping without the names of a list. -/
def without (d : Dict) (names : List String) : Dict :=
  d.filter fun e => !names.any fun name => keyIs name e.1

/-- The mapping that holds the entries in order, later ones winning. -/
def ofEntries (entries : List (Value × Value)) : Dict :=
  union [] entries

/-- The mapping with the given names as keys. -/
def ofNames (entries : Named Value) : Dict :=
  entries.map fun e => (.text e.1, e.2)

/-! ## Small facts -/

@[simp] theorem get?_nil (name : String) : get? [] name = none := rfl

theorem get?_cons (k v : Value) (rest : Dict) (name : String) :
    get? ((k, v) :: rest) name = if keyIs name k then some v else get? rest name := rfl

/-- A name is looked up as a key that is a text. -/
@[simp] theorem find_text (d : Dict) (name : String) : d.find (.text name) = d.getD name := by
  have hkey (k : Value) : k.same (.text name) = keyIs name k := by
    cases k <;> simp [Value.same, Value.isNull, Value.numeric?, keyIs]
  unfold find getD
  congr 1
  induction d with
  | nil => rfl
  | cons e rest ih => rw [find?, get?_cons, hkey, ih]

theorem firstGiven?_nil (names : List String) : firstGiven? [] names = none :=
  List.findSome?_eq_none_iff.mpr fun _ _ => rfl

@[simp] theorem keyIs_text (name s : String) : keyIs name (.text s) = (s == name) := rfl

@[simp] theorem union_nil (a : Dict) : union a [] = a := rfl

theorem union_cons (a : Dict) (e : Value × Value) (b : Dict) :
    union a (e :: b) = union (insert a e.1 e.2) b := rfl

end Dict
end FieldRules
