import FieldRules.Journal.Redaction
import Mathlib.Data.List.Forall2

/-!
# Proofs — Secrecy

What a redacted event still tells. `Alike` relates two values that differ in nothing but secrets,
and `Censored` says that no secret is left; both look at a number of outer levels, a level being a
mapping or a list. A redacted event tells everything about the event but the secrets of its six
outer levels (`redactEvent_hides`). Secrets further inside are passed on
(`redactEvent_passes_buried`).
-/

namespace FieldRules.Redaction

/-! ## Two events and their secrets -/

/-- The values differ in nothing but what stands under sensitive keys on the outer `levels`
levels. -/
def Alike : Nat → Value → Value → Prop
  | 0, v, w => v = w
  | levels + 1, v, w =>
    v = w ∨
    (∃ es fs, v = .dict es ∧ w = .dict fs ∧
      List.Forall₂
        (fun e f => e.1 = f.1 ∧ (isSensitive e.1 = true ∨ Alike levels e.2 f.2)) es fs) ∨
    ∃ xs ys, v = .list xs ∧ w = .list ys ∧ List.Forall₂ (Alike levels) xs ys

/-- On the outer `levels` levels nothing but the mark stands under a sensitive key. -/
def Censored : Nat → Value → Prop
  | 0, _ => True
  | levels + 1, .dict es =>
    ∀ e ∈ es, if isSensitive e.1 then e.2 = redacted else Censored levels e.2
  | levels + 1, .list xs => ∀ x ∈ xs, Censored levels x
  | _ + 1, _ => True

/-! ## One level -/

variable {levels : Nat} {v w : Value}

/-- What becomes of an entry of a mapping. -/
def redactEntry (levels : Nat) (e : Value × Value) : Value × Value :=
  (e.1, if isSensitive e.1 then redacted else redact levels e.2)

theorem redactEntries_eq_map (levels : Nat) (es : List (Value × Value)) :
    redactEntries levels es = es.map (redactEntry levels) := by
  induction es with
  | nil => simp [redactEntries]
  | cons e rest ih => simp [redactEntries, redactEntry, ih]

theorem redactItems_eq_map (levels : Nat) (xs : List Value) :
    redactItems levels xs = xs.map (redact levels) := by
  induction xs with
  | nil => simp [redactItems]
  | cons x rest ih => simp [redactItems, ih]

@[simp] theorem redact_zero (v : Value) : redact 0 v = v := by
  simp [redact]

theorem redact_dict (levels : Nat) (es : List (Value × Value)) :
    redact (levels + 1) (.dict es) = .dict (es.map (redactEntry levels)) := by
  rw [redact, redactEntries_eq_map]

theorem redact_list (levels : Nat) (xs : List Value) :
    redact (levels + 1) (.list xs) = .list (xs.map (redact levels)) := by
  rw [redact, redactItems_eq_map]

/-- A mapping comes from a mapping. -/
theorem of_redact_eq_dict {es : List (Value × Value)} (h : redact (levels + 1) v = .dict es) :
    ∃ fs, v = .dict fs ∧ fs.map (redactEntry levels) = es := by
  cases v with
  | dict fs =>
      rw [redact_dict] at h
      exact ⟨fs, rfl, Value.dict.inj h⟩
  | _ => simp [redact] at h

/-- A list comes from a list. -/
theorem of_redact_eq_list {xs : List Value} (h : redact (levels + 1) v = .list xs) :
    ∃ ys, v = .list ys ∧ ys.map (redact levels) = xs := by
  cases v with
  | list ys =>
      rw [redact_list] at h
      exact ⟨ys, rfl, Value.list.inj h⟩
  | _ => simp [redact] at h

/-- What is neither a mapping nor a list stays as it is, and nothing else becomes it. -/
theorem eq_of_redact_leaf (hdict : ∀ es, v ≠ .dict es) (hlist : ∀ xs, v ≠ .list xs)
    (h : redact (levels + 1) v = redact (levels + 1) w) : v = w := by
  have hv : redact (levels + 1) v = v := by
    cases v with
    | dict es => exact absurd rfl (hdict es)
    | list xs => exact absurd rfl (hlist xs)
    | _ => simp [redact]
  rw [hv] at h
  cases w with
  | dict es => exact absurd (h.trans (redact_dict levels es)) (hdict _)
  | list xs => exact absurd (h.trans (redact_list levels xs)) (hlist _)
  | _ => simpa [redact] using h

theorem redactEntry_eq_iff {e f : Value × Value}
    (ih : redact levels e.2 = redact levels f.2 ↔ Alike levels e.2 f.2) :
    redactEntry levels e = redactEntry levels f ↔
      e.1 = f.1 ∧ (isSensitive e.1 = true ∨ Alike levels e.2 f.2) := by
  rw [redactEntry, redactEntry, Prod.mk.injEq, ← ih]
  refine and_congr_right fun hkey => ?_
  rw [← hkey]
  by_cases hs : isSensitive e.1 = true <;> simp [hs]

/-! ## All levels -/

theorem map_eq_map_iff {α β : Type} {f : α → β} {xs ys : List α} :
    xs.map f = ys.map f ↔ List.Forall₂ (fun x y => f x = f y) xs ys := by
  rw [← List.forall₂_eq_eq_eq, List.forall₂_map_left_iff, List.forall₂_map_right_iff]

/-- **The redacted value tells all but the secrets.** -/
theorem redact_eq_iff : redact levels v = redact levels w ↔ Alike levels v w := by
  induction levels generalizing v w with
  | zero => rw [redact_zero, redact_zero, Alike]
  | succ levels ih =>
      constructor
      · intro h
        cases v with
        | dict es =>
            rw [redact_dict] at h
            obtain ⟨fs, rfl, hfs⟩ := of_redact_eq_dict h.symm
            have hes := map_eq_map_iff.mp hfs.symm
            exact .inr (.inl ⟨es, fs, rfl, rfl, hes.imp fun e f => (redactEntry_eq_iff ih).mp⟩)
        | list xs =>
            rw [redact_list] at h
            obtain ⟨ys, rfl, hys⟩ := of_redact_eq_list h.symm
            have hxs := map_eq_map_iff.mp hys.symm
            exact .inr (.inr ⟨xs, ys, rfl, rfl, hxs.imp fun x y => ih.mp⟩)
        | _ => exact .inl (eq_of_redact_leaf (by simp) (by simp) h)
      · rintro (rfl | ⟨es, fs, rfl, rfl, hes⟩ | ⟨xs, ys, rfl, rfl, hxs⟩)
        · rfl
        · rw [redact_dict, redact_dict, map_eq_map_iff.mpr]
          exact hes.imp fun e f => (redactEntry_eq_iff ih).mpr
        · rw [redact_list, redact_list, map_eq_map_iff.mpr]
          exact hxs.imp fun x y => ih.mpr

/-- **No secret is left** on the levels that are looked at. -/
theorem censored_redact (levels : Nat) (v : Value) : Censored levels (redact levels v) := by
  induction levels generalizing v with
  | zero => trivial
  | succ levels ih =>
      cases v with
      | dict es =>
          rw [redact_dict]
          intro e he
          obtain ⟨f, -, rfl⟩ := List.mem_map.mp he
          by_cases hs : isSensitive f.1 = true
          · simp [redactEntry, hs]
          · simpa [redactEntry, hs] using ih f.2
      | list xs =>
          rw [redact_list]
          intro x hx
          obtain ⟨y, -, rfl⟩ := List.mem_map.mp hx
          exact ih y
      | _ => simp [redact, Censored]

/-! ## Events -/

/-- **A redacted event hides the secrets of the outer levels and nothing else**: two events are
redacted to the same exactly when they differ in nothing but these secrets, and none of these
secrets is left. -/
theorem redactEvent_hides :
    (∀ v w, redactEvent v = redactEvent w ↔ Alike depth v w) ∧
    ∀ v, Censored depth (redactEvent v) :=
  ⟨fun _ _ => redact_eq_iff, fun v => censored_redact depth v⟩

/-- A value inside mappings with one key each. -/
def nested : List String → Value → Value
  | [], v => v
  | key :: keys, v => .dict [(.text key, nested keys v)]

/-- An event with a password on its seventh level. -/
def buried (secret : String) : Value :=
  nested ["form", "record", "account", "login", "current", "fields", "password"] (.text secret)

theorem alike_nested (keys : List String) {v w : Value} (h : Alike levels v w) :
    Alike (keys.length + levels) (nested keys v) (nested keys w) := by
  induction keys with
  | nil => simpa [nested] using h
  | cons key keys ih =>
      rw [List.length_cons, Nat.add_right_comm]
      exact .inr (.inl ⟨_, _, rfl, rfl, .cons ⟨rfl, .inr ih⟩ .nil⟩)

/-- **A secret on the seventh level is passed on**, so that events that differ in nothing else are
told apart. -/
theorem redactEvent_passes_buried :
    (∃ levels, Alike levels (buried "hunter2") (buried "swordfish")) ∧
    redactEvent (buried "hunter2") = buried "hunter2" ∧
    redactEvent (buried "hunter2") ≠ redactEvent (buried "swordfish") := by
  have hsensitive : isSensitive (.text "password") = true := by decide +kernel
  have hkept (secret : String) : redactEvent (buried secret) = buried secret := by
    have hkeys : ∀ key ∈ ["form", "record", "account", "login", "current", "fields"],
        isSensitive (.text key) = false := by
      decide +kernel
    simp only [List.forall_mem_cons] at hkeys
    simp [redactEvent, depth, buried, nested, redact_dict, redactEntry, hkeys]
  refine ⟨⟨7, ?_⟩, hkept _, ?_⟩
  · have hpassword : Alike 1 (nested ["password"] (.text "hunter2"))
        (nested ["password"] (.text "swordfish")) :=
      .inr (.inl ⟨_, _, rfl, rfl, .cons ⟨rfl, .inl hsensitive⟩ .nil⟩)
    exact alike_nested ["form", "record", "account", "login", "current", "fields"] hpassword
  · rw [hkept, hkept]
    simp [buried, nested]

end FieldRules.Redaction
