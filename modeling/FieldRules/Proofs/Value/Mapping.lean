import FieldRules.Value.Dict
import Mathlib.Data.Option.NAry

/-!
# Proofs — Mapping

Joining mappings. A key stands for a class of keys that count as equal (`same_iff_keyClass?`), so
equality of keys is symmetric and transitive; it is not reflexive, because not-a-number is equal
to nothing. Each entry of a mapping is written by itself, and writing into the second of two
mappings and then joining them is joining them and then writing (`union_insert`): from that,
joining is associative, the order of keys included.
-/

namespace FieldRules

open Number (Place Numeric)

/-- What a key counts as among the keys of a mapping: a number as its place on the number line. -/
inductive KeyClass where
  | null
  | number (place : Place)
  | text (s : String)
  | pattern (source : String) (flags : Pattern.Flags)
  | function (f : Handle)
  | tuple (items : List KeyClass)

theorem Number.Numeric.equal_iff {x y : Numeric} :
    x.equal y = true ↔ ∃ p, x.place? = some p ∧ y.place? = some p := by
  unfold equal
  cases x.place? <;> cases y.place? <;> simp
  exact eq_comm

theorem exists_map_eq_some {α β : Type} {f : α → β} (hf : Function.Injective f)
    {x y : Option α} :
    (∃ b, x.map f = some b ∧ y.map f = some b) ↔ ∃ a, x = some a ∧ y = some a := by
  cases x <;> cases y <;> simp [hf.eq_iff]

namespace Value

mutual

/-- The class of a key. Not-a-number has none: it equals nothing, itself included. -/
def keyClass? : Value → Option KeyClass
  | .null => some .null
  | .bool b => (Numeric.int (if b then 1 else 0)).place?.map .number
  | .int n => (Numeric.int n).place?.map .number
  | .float x => (Numeric.double x).place?.map .number
  | .text s => some (.text s)
  | .pattern p => some (.pattern p.source p.flags)
  | .function f => some (.function f)
  | .tuple items => (keyClasses? items).map .tuple
  | _ => none

def keyClasses? : List Value → Option (List KeyClass)
  | [] => some []
  | v :: rest => Option.map₂ List.cons v.keyClass? (keyClasses? rest)

end

/-- Values of numeric types count as numbers, and no others do. -/
theorem same_number {x : Numeric} {v : Value} :
    (v.numeric?.map x.equal).getD false = true ↔
      ∃ k, x.place?.map KeyClass.number = some k ∧ v.keyClass? = some k := by
  have hequal (y : Numeric) : x.equal y = true ↔
      ∃ k, x.place?.map KeyClass.number = some k ∧ y.place?.map KeyClass.number = some k := by
    rw [Number.Numeric.equal_iff, exists_map_eq_some fun p q h => KeyClass.number.inj h]
  cases v with
  | bool b => exact hequal _
  | int n => exact hequal _
  | float y => exact hequal _
  | _ => simp [numeric?, keyClass?]

mutual

/-- **Keys are equal when they count as the same.** -/
theorem same_iff_keyClass? {a b : Value} (ha : a.isKey = true) (hb : b.isKey = true) :
    a.same b = true ↔ ∃ k, a.keyClass? = some k ∧ b.keyClass? = some k := by
  match a with
  | .null => cases b <;> simp [same, isNull, keyClass?]
  | .bool c =>
      rw [same]
      exact same_number
  | .int n =>
      rw [same]
      exact same_number
  | .float x =>
      rw [same]
      exact same_number
  | .text s =>
      cases b with
      | text t => simp [same, keyClass?, @eq_comm _ s]
      | _ => simp [same, keyClass?]
  | .pattern p =>
      cases b with
      | pattern q => simp [same, keyClass?, @eq_comm _ p.source, @eq_comm _ p.flags]
      | _ => simp [same, keyClass?]
  | .function f =>
      cases b with
      | function g => simp [same, keyClass?, @eq_comm _ f]
      | _ => simp [same, keyClass?]
  | .tuple xs =>
      cases b with
      | tuple ys =>
        rw [same, sameItems_iff_keyClasses? ha hb, keyClass?, keyClass?,
          exists_map_eq_some fun p q h => KeyClass.tuple.inj h]
      | _ => simp [same, keyClass?]

theorem sameItems_iff_keyClasses? {xs ys : List Value} (hxs : areKeys xs = true)
    (hys : areKeys ys = true) :
    sameItems xs ys = true ↔ ∃ ks, keyClasses? xs = some ks ∧ keyClasses? ys = some ks := by
  match xs, ys with
  | [], [] => simp [sameItems, keyClasses?]
  | [], y :: ys => simp [sameItems, keyClasses?]
  | x :: xs, [] => simp [sameItems, keyClasses?]
  | x :: xs, y :: ys =>
      rw [areKeys, Bool.and_eq_true] at hxs hys
      rw [sameItems, Bool.and_eq_true, same_iff_keyClass? hxs.1 hys.1,
        sameItems_iff_keyClasses? hxs.2 hys.2, keyClasses?, keyClasses?]
      cases x.keyClass? <;> cases keyClasses? xs <;> cases y.keyClass? <;>
        cases keyClasses? ys <;> simp

end

variable {a b c : Value}

theorem same_comm (ha : a.isKey = true) (hb : b.isKey = true) : a.same b = b.same a := by
  rw [Bool.eq_iff_iff, same_iff_keyClass? ha hb, same_iff_keyClass? hb ha]
  simp only [and_comm]

theorem same_trans (ha : a.isKey = true) (hb : b.isKey = true) (hc : c.isKey = true)
    (hab : a.same b = true) (hbc : b.same c = true) : a.same c = true := by
  obtain ⟨k, hak, hbk⟩ := (same_iff_keyClass? ha hb).mp hab
  obtain ⟨l, hbl, hcl⟩ := (same_iff_keyClass? hb hc).mp hbc
  obtain rfl : k = l := Option.some.inj (hbk.symm.trans hbl)
  exact (same_iff_keyClass? ha hc).mpr ⟨k, hak, hcl⟩

/-- Equal keys are equal to the same keys. -/
theorem same_congr (ha : a.isKey = true) (hb : b.isKey = true) (hc : c.isKey = true)
    (h : b.same c = true) : a.same b = a.same c := by
  rw [Bool.eq_iff_iff]
  exact ⟨fun hab => same_trans ha hb hc hab h,
    fun hac => same_trans ha hc hb hac (by rwa [same_comm hc hb])⟩

end Value

namespace Dict

variable {a b c d : Dict} {j k : Value} {v w : Value}

/-! ## Keys -/

/-- The keys in order. -/
def keys (d : Dict) : List Value :=
  d.map (·.1)

/-- One of the keys equals `k`. -/
def hasKey (d : Dict) (k : Value) : Bool :=
  d.keys.any (·.same k)

@[simp] theorem keys_nil : keys [] = [] := rfl

@[simp] theorem keys_cons (e : Value × Value) (rest : Dict) :
    keys (e :: rest) = e.1 :: keys rest := rfl

@[simp] theorem hasKey_nil (k : Value) : hasKey [] k = false := rfl

@[simp] theorem hasKey_cons (e : Value × Value) (rest : Dict) (k : Value) :
    hasKey (e :: rest) k = (e.1.same k || hasKey rest k) := rfl

theorem hasKey_eq_false : d.hasKey k = false ↔ ∀ j ∈ d.keys, j.same k = false := by
  simp [hasKey]

/-- The keys are values that can be keys. -/
def IsKeyed (d : Dict) : Prop :=
  ∀ k ∈ d.keys, k.isKey = true

theorem isKeyed_cons {e : Value × Value} {rest : Dict} :
    IsKeyed (e :: rest) ↔ e.1.isKey = true ∧ IsKeyed rest :=
  List.forall_mem_cons

theorem hasKey_congr (hd : d.IsKeyed) (hj : j.isKey = true) (hk : k.isKey = true)
    (h : j.same k = true) : d.hasKey j = d.hasKey k := by
  induction d with
  | nil => rfl
  | cons e rest ih =>
      rw [isKeyed_cons] at hd
      rw [hasKey_cons, hasKey_cons, Value.same_congr hd.1 hj hk h, ih hd.2]

/-- A key that is there keeps its place and its form, a new one comes last. -/
theorem keys_insert (d : Dict) (k v : Value) :
    (d.insert k v).keys = if d.hasKey k then d.keys else d.keys ++ [k] := by
  induction d with
  | nil => rfl
  | cons e rest ih =>
      obtain ⟨j, w⟩ := e
      by_cases hj : j.same k = true
      · simp [insert, hj]
      · by_cases hrest : hasKey rest k = true <;> simp [insert, hj, hrest, ih]

theorem IsKeyed.insert (hd : d.IsKeyed) (hk : k.isKey = true) (v : Value) :
    (d.insert k v).IsKeyed := by
  intro j hj
  rw [keys_insert] at hj
  split at hj
  · exact hd j hj
  · rcases List.mem_append.mp hj with hj | hj
    · exact hd j hj
    · rwa [List.mem_singleton.mp hj]

theorem hasKey_insert (hd : d.IsKeyed) (hj : j.isKey = true) (hk : k.isKey = true) (w : Value) :
    (d.insert j w).hasKey k = (d.hasKey k || j.same k) := by
  rw [hasKey, keys_insert]
  by_cases hthere : d.hasKey j = true
  · rw [if_pos hthere, ← hasKey]
    by_cases hjk : j.same k = true
    · rw [← hasKey_congr hd hj hk hjk, hthere, Bool.true_or]
    · simp [hjk]
  · rw [if_neg hthere, List.any_append, ← hasKey]
    simp

/-- A new key comes last. -/
theorem insert_of_not_hasKey (h : d.hasKey k = false) : d.insert k v = d ++ [(k, v)] := by
  induction d with
  | nil => rfl
  | cons e rest ih =>
      obtain ⟨j, w⟩ := e
      rw [hasKey_cons, Bool.or_eq_false_iff] at h
      simp [insert, h.1, ih h.2]

/-- The keys of the first mapping stay in front. -/
theorem keys_prefix_union (a b : Dict) : a.keys <+: (a.union b).keys := by
  induction b generalizing a with
  | nil => exact List.prefix_rfl
  | cons e rest ih =>
      rw [Dict.union_cons]
      refine List.IsPrefix.trans ?_ (ih _)
      rw [Dict.keys_insert]
      split
      · exact List.prefix_rfl
      · exact List.prefix_append _ _

theorem mem_keys_union {a b : Dict} {k : Value} (h : k ∈ (a.union b).keys) :
    k ∈ a.keys ∨ k ∈ b.keys := by
  induction b generalizing a with
  | nil => exact .inl h
  | cons e rest ih =>
      rw [Dict.union_cons] at h
      rcases ih h with hfirst | hrest
      · rw [Dict.keys_insert] at hfirst
        split at hfirst
        · exact .inl hfirst
        · rcases List.mem_append.mp hfirst with hfirst | hnew
          · exact .inl hfirst
          · exact .inr (List.mem_singleton.mp hnew ▸ List.mem_cons_self)
      · exact .inr (List.mem_cons_of_mem _ hrest)

/-! ## Mappings -/

/-- What a mapping is: pairwise different keys, of values that can be keys. -/
structure IsMapping (d : Dict) : Prop where
  isKeyed : d.IsKeyed
  different : d.keys.Pairwise fun j k => j.same k = false

namespace IsMapping

theorem nil : IsMapping [] := ⟨by simp [IsKeyed], by simp⟩

theorem head_isKey {e : Value × Value} (h : IsMapping (e :: d)) : e.1.isKey = true :=
  (isKeyed_cons.mp h.isKeyed).1

theorem tail {e : Value × Value} (h : IsMapping (e :: d)) : d.IsMapping :=
  ⟨(isKeyed_cons.mp h.isKeyed).2, (List.pairwise_cons.mp h.different).2⟩

theorem not_hasKey_head {e : Value × Value} (h : IsMapping (e :: d)) : d.hasKey e.1 = false := by
  rw [hasKey_eq_false]
  intro j hj
  rw [Value.same_comm (h.tail.isKeyed j hj) h.head_isKey]
  exact (List.pairwise_cons.mp h.different).1 j hj

theorem filter (h : d.IsMapping) (p : Value × Value → Bool) : IsMapping (d.filter p) where
  isKeyed k hk := h.isKeyed k ((List.filter_sublist.map _).subset hk)
  different := h.different.sublist (List.filter_sublist.map _)

theorem insert (h : d.IsMapping) (hk : k.isKey = true) (v : Value) : (d.insert k v).IsMapping where
  isKeyed := h.isKeyed.insert hk v
  different := by
    rw [keys_insert]
    split
    · exact h.different
    · next hnew =>
        rw [Bool.not_eq_true, hasKey_eq_false] at hnew
        rw [List.pairwise_append]
        refine ⟨h.different, by simp, fun j hj i hi => ?_⟩
        rw [List.mem_singleton.mp hi]
        exact hnew j hj

theorem union (ha : a.IsMapping) (hb : b.IsMapping) : (a.union b).IsMapping := by
  induction b generalizing a with
  | nil => exact ha
  | cons e rest ih => exact ih (ha.insert hb.head_isKey e.2) hb.tail

end IsMapping

/-! ## Writing twice -/

/-- Under equal keys the later value stays. -/
theorem insert_insert_of_same (hd : d.IsKeyed) (hj : j.isKey = true) (hk : k.isKey = true)
    (h : j.same k = true) : (d.insert j w).insert k v = d.insert j v := by
  induction d with
  | nil => simp [insert, h]
  | cons e rest ih =>
      obtain ⟨i, u⟩ := e
      rw [isKeyed_cons] at hd
      have hi : i.same j = i.same k := Value.same_congr hd.1 hj hk h
      by_cases hij : i.same j = true
      · simp [insert, hij, ← hi]
      · simp [insert, hij, ← hi, ih hd.2]

/-- Under different keys the order of writing does not matter when one of them is there; of two new
keys the order of writing is the order they stand in. -/
theorem insert_insert_comm (hd : d.IsKeyed) (hj : j.isKey = true) (hk : k.isKey = true)
    (h : j.same k = false) (hthere : d.hasKey k = true) :
    (d.insert j w).insert k v = (d.insert k v).insert j w := by
  induction d with
  | nil => cases hthere
  | cons e rest ih =>
      obtain ⟨i, u⟩ := e
      rw [isKeyed_cons] at hd
      by_cases hik : i.same k = true
      · have hij : i.same j = false := by
          rw [Value.same_comm hd.1 hj, Value.same_congr hj hd.1 hk hik, h]
        simp [insert, hij, hik]
      · have hrest : hasKey rest k = true := by simpa [hik] using hthere
        by_cases hij : i.same j = true
        · simp [insert, hij, hik]
        · simp [insert, hij, hik, ih hd.2 hrest]

/-! ## Joining -/

/-- A value under a key of the first mapping alone may be written before joining. -/
theorem insert_union (hd : d.IsKeyed) (hb : b.IsKeyed) (hk : k.isKey = true)
    (hthere : d.hasKey k = true) (hnew : b.hasKey k = false) :
    (d.union b).insert k v = (d.insert k v).union b := by
  induction b generalizing d with
  | nil => rfl
  | cons e rest ih =>
      rw [isKeyed_cons] at hb
      rw [hasKey_cons, Bool.or_eq_false_iff] at hnew
      have hthere' : (d.insert e.1 e.2).hasKey k = true := by
        rw [hasKey_insert hd hb.1 hk, hthere, Bool.true_or]
      rw [union_cons, union_cons, ih (hd.insert hb.1 e.2) hb.2 hthere' hnew.2,
        insert_insert_comm hd hb.1 hk hnew.1 hthere]

/-- **Writing into the second mapping** is writing into both together. -/
theorem union_insert (ha : a.IsKeyed) (hb : b.IsMapping) (hk : k.isKey = true) :
    a.union (b.insert k v) = (a.union b).insert k v := by
  induction b generalizing a with
  | nil => rfl
  | cons e rest ih =>
      obtain ⟨j, w⟩ := e
      have hj : j.isKey = true := hb.head_isKey
      by_cases hjk : j.same k = true
      -- the key is that of the first entry, and of no later one: its value is written early
      · have hnew : hasKey rest k = false := by
          rw [← hasKey_congr hb.tail.isKeyed hj hk hjk]
          exact hb.not_hasKey_head
        have hthere : (a.insert j w).hasKey k = true := by
          rw [hasKey_insert ha hj hk, hjk, Bool.or_true]
        rw [insert, if_pos hjk, union_cons, union_cons,
          insert_union (ha.insert hj w) hb.tail.isKeyed hk hthere hnew,
          insert_insert_of_same ha hj hk hjk]
      · rw [insert, if_neg hjk, union_cons, union_cons, ih (ha.insert hj w) hb.tail]

/-- **Joining is associative.** -/
theorem union_assoc (ha : a.IsMapping) (hb : b.IsMapping) (hc : c.IsMapping) :
    (a.union b).union c = a.union (b.union c) := by
  induction c generalizing b with
  | nil => rfl
  | cons e rest ih =>
      rw [union_cons, union_cons, ← union_insert ha.isKeyed hb hc.head_isKey,
        ih (hb.insert hc.head_isKey e.2) hc.tail]

/-- Mappings without a common key are put one after the other. -/
theorem union_eq_append (h : (a ++ b).IsMapping) : a.union b = a ++ b := by
  induction b generalizing a with
  | nil => simp
  | cons e rest ih =>
      have hnew : a.hasKey e.1 = false := by
        have hdifferent := h.different
        rw [keys, List.map_append, List.pairwise_append] at hdifferent
        exact hasKey_eq_false.mpr fun j hj => hdifferent.2.2 j hj e.1 (by simp)
      have happend : a ++ e :: rest = (a ++ [e]) ++ rest := by simp
      rw [union_cons, insert_of_not_hasKey hnew, happend]
      exact ih (happend ▸ h)

theorem nil_union (ha : a.IsMapping) : union [] a = a :=
  union_eq_append ha

/-- Writing what is there changes nothing, under a key that equals itself. -/
theorem insert_of_mem (hd : d.IsMapping) {e : Value × Value} (he : e ∈ d)
    (hself : e.1.same e.1 = true) : d.insert e.1 e.2 = d := by
  induction d with
  | nil => cases he
  | cons f rest ih =>
      rcases List.mem_cons.mp he with rfl | he
      · simp [insert, hself]
      · have hf : f.1.same e.1 = false :=
          (List.pairwise_cons.mp hd.different).1 e.1 (List.mem_map_of_mem he)
        simp [insert, hf, ih hd.tail he]

theorem union_of_subset (hd : d.IsMapping) (hb : ∀ e ∈ b, e ∈ d ∧ e.1.same e.1 = true) :
    d.union b = d := by
  induction b with
  | nil => rfl
  | cons e rest ih =>
      obtain ⟨he, hrest⟩ := List.forall_mem_cons.mp hb
      rw [union_cons, insert_of_mem hd he.1 he.2, ih hrest]

/-- The keys equal themselves, as all keys do but not-a-number and tuples that hold it. -/
def IsReflexive (d : Dict) : Prop :=
  ∀ e ∈ d, e.1.same e.1 = true

theorem union_self (hd : d.IsMapping) (hself : d.IsReflexive) : d.union d = d :=
  union_of_subset hd fun e he => ⟨he, hself e he⟩

/-! ## Looking up a name -/

variable {name : String}

theorem same_text (j : Value) (name : String) : j.same (.text name) = keyIs name j := by
  cases j <;> rfl

theorem text_same (k : Value) (name : String) : (Value.text name).same k = keyIs name k := by
  cases k with
  | text s => exact BEq.comm
  | _ => rfl

theorem keyIs_eq_true : keyIs name k = true ↔ k = .text name := by
  cases k <;> simp [keyIs]

/-- Of equal keys both are the name, or neither is. -/
theorem keyIs_congr (h : j.same k = true) : keyIs name j = keyIs name k := by
  by_cases hk : keyIs name k = true
  · rw [← same_text, ← keyIs_eq_true.mp hk, h, hk]
  · by_cases hj : keyIs name j = true
    · rw [keyIs_eq_true.mp hj, text_same] at h
      exact absurd h hk
    · rw [Bool.eq_false_iff.mpr hj, Bool.eq_false_iff.mpr hk]

/-- What was written last under a name is found there, and all else as before. -/
theorem get?_insert (d : Dict) (k v : Value) (name : String) :
    (d.insert k v).get? name = if keyIs name k then some v else d.get? name := by
  induction d with
  | nil => rfl
  | cons e rest ih =>
      obtain ⟨j, w⟩ := e
      by_cases hjk : j.same k = true
      · rw [insert, if_pos hjk, get?_cons, get?_cons, keyIs_congr hjk]
        split <;> rfl
      · rw [insert, if_neg hjk, get?_cons, get?_cons, ih]
        by_cases hk : keyIs name k = true
        · have hj : keyIs name j = false := by
            rw [← same_text, ← keyIs_eq_true.mp hk]
            exact Bool.eq_false_iff.mpr hjk
          simp [hj]
        · simp [hk]

theorem get?_set (d : Dict) (key : String) (v : Value) (name : String) :
    (d.set key v).get? name = if key = name then some v else d.get? name := by
  rw [set, get?_insert, keyIs_text]
  simp only [beq_iff_eq]

theorem getD_set (d : Dict) (key : String) (v : Value) (name : String) :
    (d.set key v).getD name = if key = name then v else d.getD name := by
  rw [getD, get?_set, getD]
  split <;> rfl

theorem get?_eq_none : d.get? name = none ↔ d.hasKey (.text name) = false := by
  induction d with
  | nil => simp
  | cons e rest ih =>
      rw [get?_cons, hasKey_cons, same_text, Bool.or_eq_false_iff, ← ih]
      by_cases hkey : keyIs name e.1 = true <;> simp [hkey]

theorem has_eq_true : d.has name = true ↔ .text name ∈ d.keys := by
  rw [has, Option.isSome_iff_ne_none, Ne, get?_eq_none, hasKey_eq_false]
  simp only [same_text, Bool.eq_false_iff, Ne, keyIs_eq_true]
  simp

/-- Of entries in a row the first ones are looked up first. -/
theorem get?_append (a b : Dict) (name : String) :
    get? (a ++ b) name = (a.get? name).or (b.get? name) := by
  induction a with
  | nil => simp
  | cons e rest ih =>
      rw [List.cons_append, get?_cons, get?_cons, ih]
      split <;> rfl

theorem without_nil (d : Dict) : d.without [] = d := by
  simp [without]

/-- Names that are left out are not found, and all else as before. -/
theorem get?_without (d : Dict) (names : List String) (name : String) :
    (d.without names).get? name = if name ∈ names then none else d.get? name := by
  induction d with
  | nil => simp [without]
  | cons e rest ih =>
      obtain ⟨k, v⟩ := e
      rw [get?_cons]
      by_cases hkey : keyIs name k = true
      · have hdropped : (names.any fun n => keyIs n k) = decide (name ∈ names) := by
          rw [keyIs_eq_true.mp hkey, Bool.eq_iff_iff]
          simp [keyIs_text]
        by_cases hmem : name ∈ names
        · rw [without, List.filter_cons_of_neg (by simp [hdropped, hmem])]
          rw [if_pos hmem] at ih ⊢
          exact ih
        · rw [without, List.filter_cons_of_pos (by simp [hdropped, hmem]), get?_cons, if_pos hkey,
            if_neg hmem, if_pos hkey]
      · rw [if_neg hkey, ← ih, without, List.filter_cons]
        split
        · rw [get?_cons, if_neg hkey]
          rfl
        · rfl

theorem get?_erase (d : Dict) (name key : String) :
    (d.erase name).get? key = if key = name then none else d.get? key := by
  have hwithout : d.erase name = d.without [name] := by
    simp [erase, without]
  rw [hwithout, get?_without]
  simp

/-- What is written under a name is left out with the name. -/
theorem without_insert {names : List String} (hname : name ∈ names) (d : Dict) (v : Value) :
    (d.insert (.text name) v).without names = d.without names := by
  induction d with
  | nil => simp [insert, without, hname]
  | cons e rest ih =>
      obtain ⟨k, w⟩ := e
      rw [insert]
      split
      · next hsame =>
          rw [same_text, keyIs_eq_true] at hsame
          subst hsame
          simp [without, hname]
      · simp only [without, List.filter_cons] at ih ⊢
        rw [ih]

/-- Names can be left out before others that they are among. -/
theorem without_without {names names' : List String} (hsubset : names' ⊆ names) (d : Dict) :
    (d.without names').without names = d.without names := by
  rw [without, without, without, List.filter_filter]
  refine List.filter_congr fun e _ => ?_
  by_cases hkey : (names'.any fun n => keyIs n e.1) = true
  · obtain ⟨n, hn, hkeyIs⟩ := List.any_eq_true.mp hkey
    have hdropped : (names.any fun n => keyIs n e.1) = true :=
      List.any_eq_true.mpr ⟨n, hsubset hn, hkeyIs⟩
    simp [hdropped]
  · simp [hkey]

theorem without_comm (d : Dict) (names names' : List String) :
    (d.without names).without names' = (d.without names').without names := by
  simp only [without, List.filter_filter, Bool.and_comm]

/-- Under a name stands what the mapping has an entry for. -/
theorem get?_eq_some (hd : d.IsMapping) : d.get? name = some v ↔ (.text name, v) ∈ d := by
  induction d with
  | nil => simp
  | cons e rest ih =>
      obtain ⟨k, w⟩ := e
      rw [get?_cons, List.mem_cons, Prod.mk.injEq]
      by_cases hk : keyIs name k = true
      · have hnew : get? rest name = none :=
          get?_eq_none.mpr (keyIs_eq_true.mp hk ▸ hd.not_hasKey_head)
        have hrest : (.text name, v) ∉ rest := by
          rw [← ih hd.tail, hnew]
          nofun
        simp [keyIs_eq_true.mp hk, hrest, eq_comm]
      · have hne : Value.text name ≠ k := fun h => hk (keyIs_eq_true.mpr h.symm)
        rw [if_neg hk, ih hd.tail]
        simp [hne]

/-- Of two mappings that are joined the second is looked up first. -/
theorem get?_union (a : Dict) (hb : b.IsMapping) (name : String) :
    (a.union b).get? name = (b.get? name).or (a.get? name) := by
  induction b generalizing a with
  | nil => rfl
  | cons e rest ih =>
      obtain ⟨k, v⟩ := e
      rw [union_cons, ih _ hb.tail, get?_insert, get?_cons]
      by_cases hk : keyIs name k = true
      · have hnew : get? rest name = none :=
          get?_eq_none.mpr (keyIs_eq_true.mp hk ▸ hb.not_hasKey_head)
        simp [hk, hnew]
      · simp [hk]

end Dict
end FieldRules
