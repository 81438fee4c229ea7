import FieldRules.Proofs.Address.Places
import Mathlib.Data.Bool.AllAny

/-!
# Proofs — Absolute

Absolute URLs, told without their splitting. `IsAbsolute` asks for a scheme, a colon and a rest: a
rest that is not empty or, with the schemes of the web, one that has something other than slashes
before its query and its fragment. On texts of plain characters, where nothing is dropped and no
authority is refused, these are the texts that pass for a URL (`run_url_plain`).
-/

namespace FieldRules.Address.Url

variable {cs scheme rest : List Char} {c : Char}

/-! ## Plain characters -/

/-- A printable character or white space of ASCII, brackets apart. -/
def IsPlain (c : Char) : Prop :=
  c.toNat < 127 ∧ (32 < c.toNat ∨ Text.isBlank c = true) ∧ c ≠ '[' ∧ c ≠ ']'

instance (c : Char) : Decidable (IsPlain c) :=
  inferInstanceAs (Decidable (_ ∧ _ ∧ _ ∧ _))

/-- Nothing is dropped in front of plain characters that are no white space. -/
theorem Reads.of_plain (h : Reads scheme rest cs) (hplain : ∀ c ∈ cs, IsPlain c)
    (hblank : ∀ c ∈ cs, Text.isBlank c = false) : cs = scheme ++ ':' :: rest := by
  cases h with
  | @intro lead hlead hscheme =>
      cases lead with
      | nil => rfl
      | cons c lead =>
          obtain ⟨-, hprinted | hspace, -, -⟩ := hplain c List.mem_cons_self
          · have hlow := hlead c List.mem_cons_self
            exact absurd (of_decide_eq_true hlow) (Nat.not_le_of_lt hprinted)
          · rw [hblank c List.mem_cons_self] at hspace
            cases hspace

theorem mem_of_mem_authority (h : c ∈ (splitAuthority rest).1) : c ∈ rest := by
  unfold splitAuthority at h
  split at h
  · next cs =>
      rw [List.span_eq_takeWhile_dropWhile] at h
      exact List.mem_cons_of_mem _ (List.mem_cons_of_mem _ ((List.takeWhile_sublist _).mem h))
  · cases h

/-- No authority of plain characters is refused. -/
theorem isFit_of_plain (h : ∀ c ∈ rest, IsPlain c) : isFit rest = true := by
  have hauthority : ∀ c ∈ (splitAuthority rest).1, IsPlain c := fun c hc =>
    h c (mem_of_mem_authority hc)
  have hopening : (splitAuthority rest).1.contains '[' = false := by
    rw [Bool.eq_false_iff, ne_eq, List.contains_iff_mem]
    exact fun hmem => (hauthority _ hmem).2.2.1 rfl
  have hclosing : (splitAuthority rest).1.contains ']' = false := by
    rw [Bool.eq_false_iff, ne_eq, List.contains_iff_mem]
    exact fun hmem => (hauthority _ hmem).2.2.2 rfl
  have hseparators : separatorsPlain (splitAuthority rest).1 = true := by
    rw [separatorsPlain, Bool.not_eq_true', List.any_eq_false]
    intro c hc hhidden
    have hhigh : ∀ n ∈ hiddenSeparators, 127 ≤ n := by decide
    exact absurd (hauthority c hc).1
      (Nat.not_lt_of_le (hhigh _ (List.contains_iff_mem.mp hhidden)))
  rw [isFit, bracketsFit, hopening, hclosing, hseparators]
  rfl

/-! ## Absolute URLs -/

/-- The part before the query and the fragment has something other than slashes. -/
def HasHost (rest : List Char) : Prop :=
  ∃ c ∈ rest.takeWhile (fun c => c != '?' && c != '#'), c ≠ '/'

theorem placeIn_ne_nil : placeIn rest ≠ [] ↔ HasHost rest := by
  induction rest with
  | nil => simp [placeIn, HasHost]
  | cons c rest ih =>
      by_cases hslash : c = '/'
      · subst hslash
        rw [placeIn_slash, ih]
        simp [HasHost]
      · rw [placeIn_cons hslash]
        by_cases hend : c = '?' ∨ c = '#'
        · -- nothing stands before the query or the fragment
          rcases hend with rfl | rfl <;> simp [HasHost, isEnd]
        · obtain ⟨hquery, hfragment⟩ := not_or.mp hend
          have hhost : HasHost (c :: rest) := by
            refine ⟨c, ?_, hslash⟩
            rw [List.takeWhile_cons_of_pos (by simp [hquery, hfragment])]
            exact List.mem_cons_self
          rw [List.takeWhile_cons_of_pos (by simp [isEnd, hslash, hquery, hfragment])]
          exact iff_of_true (List.cons_ne_nil _ _) hhost

/-- A scheme, a colon and a rest, without white space. The schemes of the web need a host, any
other scheme needs something after the colon. -/
structure IsAbsolute (cs : List Char) : Prop where
  not_blank : ∀ c ∈ cs, Text.isBlank c = false
  parts : ∃ scheme rest, cs = scheme ++ ':' :: rest ∧ IsScheme scheme ∧
    if scheme.map Char.toLower ∈ hostSchemes then HasHost rest else rest ≠ []

/-- **On plain texts the absolute URLs are accepted**, white space around them apart. -/
theorem accepts_plain (h : ∀ c ∈ cs, IsPlain c) :
    accepts cs = true ↔ IsAbsolute (Text.trim cs) := by
  have hplain : ∀ c ∈ Text.trim cs, IsPlain c := fun c hc => h c (Text.mem_of_mem_trim hc)
  rw [accepts_iff]
  simp only [placeIn_ne_nil]
  constructor
  · rintro ⟨hblank, scheme, rest, hreads, -, hhost⟩
    exact ⟨hblank, scheme, rest, hreads.of_plain hplain hblank, hreads.isScheme, hhost⟩
  · rintro ⟨hblank, scheme, rest, hcs, hscheme, hhost⟩
    have hreads : Reads scheme rest (Text.trim cs) :=
      hcs ▸ @Reads.intro scheme rest [] nofun hscheme
    refine ⟨hblank, scheme, rest, hreads, isFit_of_plain fun c hc => hplain c ?_, hhost⟩
    rw [hcs]
    exact List.mem_append_right _ (List.mem_cons_of_mem _ hc)

/-- **On plain texts the absolute URLs pass for a URL**, white space around them apart. The check
always comes to a verdict. -/
theorem run_url_plain {s : String} (h : ∀ c ∈ s.toList, IsPlain c) :
    ∃ failure?, Check.url.run (.text s) = .ok failure? ∧
      (failure? = none ↔ IsAbsolute (Text.trim s.toList)) := by
  refine ⟨Check.urlFailure s, rfl, ?_⟩
  rw [urlFailure_eq_none, accepts_plain h]

/-- One slash, capitals and a query behind the host; a query without a host before it. -/
theorem run_url_plain_slashes :
    (∀ c ∈ " WS:/host?/q#\n".toList, IsPlain c) ∧
      Check.url.run (.text " WS:/host?/q#\n") = .ok none ∧
      IsAbsolute (Text.trim " WS:/host?/q#\n".toList) ∧
      (∀ c ∈ "http:///?host".toList, IsPlain c) ∧
      ¬ IsAbsolute (Text.trim "http:///?host".toList) := by
  have hplain : ∀ c ∈ " WS:/host?/q#\n".toList, IsPlain c := List.all_iff_forall_prop.mp rfl
  have hplain' : ∀ c ∈ "http:///?host".toList, IsPlain c := List.all_iff_forall_prop.mp rfl
  obtain ⟨failure?, hrun, haccepted⟩ := run_url_plain hplain
  obtain ⟨failure?', hrun', hrefused⟩ := run_url_plain hplain'
  have hnone : failure? = none := (Except.ok.inj hrun).symm
  refine ⟨hplain, rfl, haccepted.mp hnone, hplain', fun habsolute => ?_⟩
  rw [hrefused.mpr habsolute] at hrun'
  cases hrun'

end FieldRules.Address.Url
