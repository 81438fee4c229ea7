/-!
# Named

Entries by name, in the order in which the names first came. Writing under a
name that is there already replaces the entry and keeps its place.
-/

namespace FieldRules

/-- Entries by name, in the order in which the names first came. -/
abbrev Named (α : Type) := List (String × α)

namespace Named

variable {α : Type}

/-! ## Operations -/

/-- The entries with `a` under `name`. -/
def put (name : String) (a : α) : Named α → Named α
  | [] => [(name, a)]
  | (n, b) :: rest => if n == name then (n, a) :: rest else (n, b) :: put name a rest

/-- The entries without the one under `name`. -/
def erase (name : String) (entries : Named α) : Named α :=
  entries.filter fun e => e.1 != name

/-- The names in order. -/
def names (entries : Named α) : List String :=
  entries.map (·.1)

/-! ## Small facts -/

@[simp] theorem names_nil : names ([] : Named α) = [] := rfl

@[simp] theorem names_cons (e : String × α) (rest : Named α) :
    names (e :: rest) = e.1 :: names rest := rfl

theorem lookup_cons (n : String) (b : α) (rest : Named α) (m : String) :
    List.lookup m ((n, b) :: rest) = if m = n then some b else rest.lookup m := by
  by_cases h : m = n
  · simp [h]
  · have hb : (m == n) = false := beq_false_of_ne h
    simp only [List.lookup_cons, hb, h, if_false]

/-- The entry just written is found under its name, every other one as before. -/
theorem lookup_put (entries : Named α) (name : String) (a : α) (m : String) :
    (put name a entries).lookup m = if m = name then some a else entries.lookup m := by
  induction entries with
  | nil => simp only [put, lookup_cons]
  | cons e rest ih =>
    obtain ⟨n, b⟩ := e
    by_cases hn : n = name
    · subst hn
      simp only [put, beq_self_eq_true, if_true, lookup_cons]
      split <;> rfl
    · simp only [put, beq_iff_eq, hn, if_false, lookup_cons, ih]
      by_cases hm : m = n
      · subst hm
        simp [hn]
      · simp [hm]

/-- A name that is there keeps its place, a new one comes last. -/
theorem names_put (entries : Named α) (name : String) (a : α) :
    names (put name a entries) =
      if name ∈ names entries then names entries else names entries ++ [name] := by
  induction entries with
  | nil => simp [put]
  | cons e rest ih =>
    obtain ⟨n, b⟩ := e
    by_cases hn : n = name
    · simp [put, hn]
    · have hne : name ≠ n := fun h => hn h.symm
      by_cases hmem : name ∈ names rest <;> simp [put, hn, hne, ih, hmem]

/-- Writing brings in nothing but the entry written. -/
theorem mem_put {entries : Named α} {name : String} {a : α} {e : String × α}
    (h : e ∈ put name a entries) : e = (name, a) ∨ e ∈ entries := by
  induction entries with
  | nil => exact .inl (List.mem_singleton.mp h)
  | cons f rest ih =>
    obtain ⟨n, b⟩ := f
    by_cases hn : n = name
    · subst hn
      simp only [put, beq_self_eq_true, if_true, List.mem_cons] at h
      rcases h with rfl | h
      · exact .inl rfl
      · exact .inr (List.mem_cons_of_mem _ h)
    · simp only [put, beq_iff_eq, hn, if_false, List.mem_cons] at h
      rcases h with rfl | h
      · exact .inr (List.mem_cons_self ..)
      · exact (ih h).imp_right (List.mem_cons_of_mem _)

/-- Writing does not make a name come twice. -/
theorem nodup_put {entries : Named α} (name : String) (a : α) (h : (names entries).Nodup) :
    (names (put name a entries)).Nodup := by
  rw [names_put]
  split
  · exact h
  · next hnew =>
      rw [List.nodup_append]
      refine ⟨h, by simp, fun m hm n hn heq => hnew ?_⟩
      rwa [← List.mem_singleton.mp hn, ← heq]

theorem nodup_erase {entries : Named α} (name : String) (h : (names entries).Nodup) :
    (names (erase name entries)).Nodup :=
  h.sublist (List.filter_sublist.map _)

/-- A new name comes last. -/
theorem put_of_not_mem {entries : Named α} {name : String} (a : α) (h : name ∉ names entries) :
    put name a entries = entries ++ [(name, a)] := by
  induction entries with
  | nil => rfl
  | cons e rest ih =>
    obtain ⟨n, b⟩ := e
    rw [names_cons, List.mem_cons, not_or] at h
    simp only [put, beq_iff_eq, Ne.symm h.1, if_false, ih h.2, List.cons_append]

/-- Look-up finds nothing under the names that are not there. -/
theorem lookup_eq_none {entries : Named α} {name : String} :
    entries.lookup name = none ↔ name ∉ names entries := by
  induction entries with
  | nil => simp
  | cons e rest ih =>
    obtain ⟨n, b⟩ := e
    rw [lookup_cons, names_cons, List.mem_cons, not_or, ← ih]
    by_cases hn : name = n <;> simp [hn]

theorem isSome_lookup {entries : Named α} {name : String} :
    (entries.lookup name).isSome ↔ name ∈ names entries := by
  rw [Option.isSome_iff_ne_none, Ne, lookup_eq_none, Decidable.not_not]

/-- What stands last under a name. -/
theorem lookup_reverse {before after : Named α} {name : String} {a : α}
    (h : name ∉ names after) :
    (before ++ (name, a) :: after).reverse.lookup name = some a := by
  have hafter : after.reverse.lookup name = none := by
    rw [lookup_eq_none, names, List.map_reverse, List.mem_reverse]
    exact h
  rw [List.reverse_append, List.reverse_cons, List.append_assoc, List.lookup_append, hafter,
    List.singleton_append, lookup_cons, if_pos rfl, Option.none_or]

/-- Where no name comes twice, look-up finds exactly the entries. -/
theorem lookup_eq_some {entries : Named α} (h : (names entries).Nodup) {name : String} {a : α} :
    entries.lookup name = some a ↔ (name, a) ∈ entries := by
  induction entries with
  | nil => simp
  | cons e rest ih =>
    obtain ⟨n, b⟩ := e
    rw [names_cons, List.nodup_cons] at h
    rw [lookup_cons, List.mem_cons, Prod.mk.injEq]
    by_cases hn : name = n
    · subst hn
      have hrest : (name, a) ∉ rest := fun hmem => h.1 (List.mem_map.mpr ⟨_, hmem, rfl⟩)
      simp [hrest, eq_comm]
    · simp [hn, ih h.2]

end Named
end FieldRules
