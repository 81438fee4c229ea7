import Mathlib.Data.List.Forall2

/-!
# Proofs — Matching

Lists that go together member by member: rules and what is prepared of them, entries and the rules
that they define, fields and the groups that they are rendered to. What is said here does not depend
on the way in which two members go together.
-/

namespace FieldRules

variable {α β γ : Type} {R : α → β → Prop} {as : List α} {bs : List β}

/-- Each member of the second list goes with one of the first. -/
theorem exists_of_mem_right (h : List.Forall₂ R as bs) {b : β} (hb : b ∈ bs) :
    ∃ a ∈ as, R a b := by
  induction h with
  | nil => cases hb
  | @cons a b as bs hab _ ih =>
      rcases List.mem_cons.mp hb with rfl | hb
      · exact ⟨a, by simp, hab⟩
      · obtain ⟨a', ha', hab'⟩ := ih hb
        exact ⟨a', List.mem_cons_of_mem _ ha', hab'⟩

/-- Each member of the first list goes with one of the second. -/
theorem exists_of_mem_left (h : List.Forall₂ R as bs) {a : α} (ha : a ∈ as) :
    ∃ b ∈ bs, R a b :=
  exists_of_mem_right h.flip ha

/-- A list goes with another if each of its members goes with something. -/
theorem exists_forall₂_of_forall_mem {P : β → Prop} (h : ∀ a ∈ as, ∃ b, R a b ∧ P b) :
    ∃ bs, List.Forall₂ R as bs ∧ ∀ b ∈ bs, P b := by
  induction as with
  | nil => exact ⟨[], .nil, by simp⟩
  | cons a as ih =>
      obtain ⟨⟨b, hab, hb⟩, hrest⟩ := List.forall_mem_cons.mp h
      obtain ⟨bs, hbs, hall⟩ := ih hrest
      exact ⟨b :: bs, .cons hab hbs, List.forall_mem_cons.mpr ⟨hb, hall⟩⟩

/-- What two members that go together have in common, the lists have in common. -/
theorem map_eq_of_forall₂ {f : α → γ} {g : β → γ} (hcommon : ∀ a b, R a b → g b = f a)
    (h : List.Forall₂ R as bs) : bs.map g = as.map f := by
  induction h with
  | nil => rfl
  | cons hab _ ih => rw [List.map_cons, List.map_cons, ih, hcommon _ _ hab]

/-- What is made of the members of one list in two ways goes together. -/
theorem forall₂_map_map {S : β → γ → Prop} {f : α → β} {g : α → γ} (h : ∀ a ∈ as, S (f a) (g a)) :
    List.Forall₂ S (as.map f) (as.map g) := by
  rw [List.forall₂_map_left_iff, List.forall₂_map_right_iff, List.forall₂_same]
  exact h

/-- Two lists that go with a third one go together. -/
theorem forall₂_comp {S : β → γ → Prop} {T : α → γ → Prop} {cs : List γ}
    (hcomp : ∀ a b c, R a b → S b c → T a c) (hR : List.Forall₂ R as bs)
    (hS : List.Forall₂ S bs cs) : List.Forall₂ T as cs := by
  induction hR generalizing cs with
  | nil =>
      cases hS
      exact .nil
  | cons hab _ ih =>
      cases hS with
      | cons hbc hrest => exact .cons (hcomp _ _ _ hab hbc) (ih hrest)

end FieldRules
