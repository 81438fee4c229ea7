import FieldRules.Check.Basic
import FieldRules.Proofs.Text.Trimming
import Mathlib.Tactic.Tauto

/-!
# Proofs — Places

Where the parts of a URL stand in its text. Characters that are dropped come first, then the scheme,
a colon and the rest (`Reads.split?`). The host of a rest is what follows its slashes, up to the
next slash, question mark or number sign, whether or not the slashes open an authority
(`host_ofRest`). `accepts_iff` says in these terms which texts are accepted.
-/

namespace FieldRules.Address.Url

variable {cs lead scheme rest before after : List Char} {c : Char} {u : Url}

/-! ## Schemes -/

/-- A letter, then letters, digits, plus and minus signs and points. -/
def IsScheme (cs : List Char) : Prop :=
  ∃ c rest, cs = c :: rest ∧ Text.isAsciiLetter c = true ∧
    ∀ d ∈ rest, Text.isAsciiLetter d = true ∨ Text.isAsciiDigit d = true ∨ d ∈ ['+', '-', '.']

theorem isScheme_iff : isScheme cs = true ↔ IsScheme cs := by
  cases cs with
  | nil => exact iff_of_false Bool.false_ne_true fun ⟨_, _, h, _⟩ => nomatch h
  | cons c rest =>
      simp [isScheme, IsScheme, isSchemeChar, or_assoc]

theorem IsScheme.not_mem (h : IsScheme scheme) : ':' ∉ scheme := by
  obtain ⟨c, rest, rfl, hc, hrest⟩ := h
  rw [List.mem_cons, not_or]
  refine ⟨?_, fun hmem => absurd (hrest _ hmem) (by decide)⟩
  rintro rfl
  exact absurd hc (by decide)

theorem splitColon_append (h : ':' ∉ before) (after : List Char) :
    splitColon (before ++ ':' :: after) = (before, some after) := by
  rw [splitColon, Text.span_append_cons h]

theorem splitColon_of_not_mem (h : ':' ∉ cs) : splitColon cs = (cs, none) := by
  rw [splitColon, Text.span_of_not_mem h]

theorem splitScheme_append (h : IsScheme scheme) (rest : List Char) :
    splitScheme (scheme ++ ':' :: rest) = (scheme.map Char.toLower, rest) := by
  rw [splitScheme, splitColon_append h.not_mem]
  exact if_pos (isScheme_iff.mpr h)

/-- A scheme is read off a text, or there is none. -/
theorem splitScheme_cases (cs : List Char) :
    (∃ scheme rest, cs = scheme ++ ':' :: rest ∧ IsScheme scheme) ∨ splitScheme cs = ([], cs) := by
  by_cases hcolon : ':' ∈ cs
  · obtain ⟨before, after, rfl, hbefore⟩ := List.eq_append_cons_of_mem hcolon
    by_cases hscheme : isScheme before = true
    · exact .inl ⟨before, after, rfl, isScheme_iff.mp hscheme⟩
    · rw [splitScheme, splitColon_append hbefore]
      exact .inr (if_neg hscheme)
  · rw [splitScheme, splitColon_of_not_mem hcolon]
    exact .inr rfl

/-! ## Hosts -/

/-- Where the place of a host ends. -/
def isEnd (c : Char) : Bool := c == '/' || c == '?' || c == '#'

/-- What follows the slashes, up to the next end. -/
def placeIn (rest : List Char) : List Char :=
  (rest.dropWhile (· == '/')).takeWhile (!isEnd ·)

theorem placeIn_slash (rest : List Char) : placeIn ('/' :: rest) = placeIn rest := rfl

theorem placeIn_cons (h : c ≠ '/') (rest : List Char) :
    placeIn (c :: rest) = (c :: rest).takeWhile (!isEnd ·) := by
  rw [placeIn, List.dropWhile_cons_of_neg (by simpa using h)]

/-- The place of the host in the rest, with the slashes before it. -/
theorem exists_around (rest : List Char) :
    ∃ slashes tail, rest = slashes ++ (placeIn rest ++ tail) ∧ (∀ c ∈ slashes, c = '/') ∧
      (∀ c ∈ placeIn rest, isEnd c = false) ∧ ∀ c ∈ tail.head?, isEnd c = true := by
  refine ⟨rest.takeWhile (· == '/'), (rest.dropWhile (· == '/')).dropWhile (!isEnd ·),
    ?_, ?_, ?_, ?_⟩
  · rw [placeIn, List.takeWhile_append_dropWhile, List.takeWhile_append_dropWhile]
  · exact fun c hc => by simpa using List.mem_takeWhile_imp hc
  · exact fun c hc => by simpa using List.mem_takeWhile_imp hc
  · intro c hc
    have hstops := List.head?_dropWhile_not (!isEnd ·) (rest.dropWhile (· == '/'))
    rw [Option.mem_def.mp hc] at hstops
    simpa using hstops

theorem takeWhile_pathOf (cs : List Char) :
    (pathOf cs).takeWhile (· != '/') = cs.takeWhile (!isEnd ·) := by
  rw [pathOf, List.takeWhile_takeWhile]
  refine congrArg (List.takeWhile · cs) (funext fun c => ?_)
  rw [Bool.eq_iff_iff]
  simp [isEnd]
  tauto

/-- The first segment of the path, where nothing stands for an authority. -/
theorem segment_eq_placeIn (cs : List Char) :
    ((pathOf cs).dropWhile (· == '/')).takeWhile (· != '/') = placeIn cs := by
  induction cs with
  | nil => rfl
  | cons c cs ih =>
      by_cases hslash : c = '/'
      · subst hslash
        exact ih
      · have hdrop : (pathOf (c :: cs)).dropWhile (· == '/') = pathOf (c :: cs) := by
          rw [pathOf, List.takeWhile_cons]
          split
          · exact List.dropWhile_cons_of_neg (by simpa using hslash)
          · rfl
        rw [hdrop, takeWhile_pathOf, placeIn_cons hslash]

/-- The parts of a URL of this scheme with this rest. -/
def ofRest (scheme rest : List Char) : Url :=
  ⟨scheme.map Char.toLower, (splitAuthority rest).1, pathOf (splitAuthority rest).2⟩

theorem scheme_ofRest (scheme rest : List Char) :
    (ofRest scheme rest).scheme = scheme.map Char.toLower := rfl

/-- **The host stands after the slashes**, be it an authority or the first segment of a path. -/
theorem host_ofRest (scheme rest : List Char) : (ofRest scheme rest).host = placeIn rest := by
  have hnone (tail : List Char) : host ⟨scheme.map Char.toLower, [], pathOf tail⟩ = placeIn tail :=
    segment_eq_placeIn tail
  unfold ofRest splitAuthority
  split
  · next cs =>
      have hends : (fun c => c != '/' && c != '?' && c != '#') = (!isEnd ·) := by
        funext c
        simp [isEnd, bne, Bool.not_or]
      rw [List.span_eq_takeWhile_dropWhile, hends]
      cases cs with
      | nil => rfl
      | cons c cs =>
          by_cases hend : isEnd c = true
          · rw [List.takeWhile_cons_of_neg (by simp [hend]),
              List.dropWhile_cons_of_neg (by simp [hend]), hnone]
            rfl
          · have hslash : c ≠ '/' := fun h => hend (by simp [isEnd, h])
            have hauthority : (c :: cs).takeWhile (!isEnd ·) = c :: cs.takeWhile (!isEnd ·) :=
              List.takeWhile_cons_of_pos (by simpa using hend)
            calc host ⟨_, (c :: cs).takeWhile (!isEnd ·), _⟩
                = (c :: cs).takeWhile (!isEnd ·) := by rw [hauthority]; rfl
              _ = placeIn (c :: cs) := by rw [placeIn_cons hslash]
  · exact hnone rest

/-! ## Reading -/

/-- The text reads as a URL of this scheme with this rest, once what leads it is dropped. -/
inductive Reads (scheme rest : List Char) : List Char → Prop
  | intro {lead : List Char} (hlead : ∀ c ∈ lead, isLeading c = true) (hscheme : IsScheme scheme) :
      Reads scheme rest (lead ++ (scheme ++ ':' :: rest))

/-- The authority with which the rest begins, if it does, is not refused. -/
def isFit (rest : List Char) : Bool :=
  bracketsFit (splitAuthority rest).1 && separatorsPlain (splitAuthority rest).1

theorem isLeading_of_isAsciiLetter (h : Text.isAsciiLetter c = true) : isLeading c = false := by
  have hletter : 'A'.toNat ≤ c.toNat := by
    simp only [Text.isAsciiLetter, Text.isAsciiLower, Text.isAsciiUpper, Bool.or_eq_true,
      Bool.and_eq_true, decide_eq_true_eq] at h
    rcases h with ⟨hlower, -⟩ | ⟨hupper, -⟩
    · exact Nat.le_trans (by decide) (show 'a'.toNat ≤ c.toNat from hlower)
    · exact hupper
  exact decide_eq_false (Nat.not_le_of_lt (Nat.lt_of_lt_of_le (by decide) hletter))

/-- A scheme is nothing that is dropped. -/
theorem IsScheme.dropWhile (h : IsScheme scheme) (hlead : ∀ c ∈ lead, isLeading c = true) :
    (lead ++ (scheme ++ ':' :: rest)).dropWhile isLeading = scheme ++ ':' :: rest := by
  obtain ⟨c, cs, rfl, hc, -⟩ := h
  rw [List.dropWhile_append_of_pos hlead, List.cons_append,
    List.dropWhile_cons_of_neg (by simp [isLeading_of_isAsciiLetter hc])]

theorem Reads.isScheme (h : Reads scheme rest cs) : IsScheme scheme := by
  cases h with
  | intro _ hscheme => exact hscheme

/-- The first colon of the text is that of the scheme. -/
theorem Reads.first_colon (h : Reads scheme rest cs) :
    ∃ before, cs = before ++ ':' :: rest ∧ ':' ∉ before := by
  cases h with
  | @intro lead hlead hscheme =>
      refine ⟨lead ++ scheme, by simp, ?_⟩
      rw [List.mem_append, not_or]
      exact ⟨fun hmem => absurd (hlead _ hmem) (by decide), hscheme.not_mem⟩

theorem Reads.split? (h : Reads scheme rest cs) :
    Url.split? cs = if isFit rest then some (ofRest scheme rest) else none := by
  cases h with
  | intro hlead hscheme =>
      rw [Url.split?, hscheme.dropWhile hlead, splitScheme_append hscheme]
      rfl

/-- A text that does not read as a URL has no scheme. -/
theorem scheme_of_not_reads (h : ¬ ∃ scheme rest, Reads scheme rest cs)
    (hu : split? cs = some u) : u.scheme = [] := by
  obtain ⟨scheme, rest, hcs, hscheme⟩ | hnone := splitScheme_cases (cs.dropWhile isLeading)
  · have hreads : Reads scheme rest (cs.takeWhile isLeading ++ (scheme ++ ':' :: rest)) :=
      .intro (fun c hc => List.mem_takeWhile_imp hc) hscheme
    rw [← hcs, List.takeWhile_append_dropWhile] at hreads
    exact absurd ⟨scheme, rest, hreads⟩ h
  · simp only [split?, hnone] at hu
    split at hu
    · rw [← Option.some.inj hu]
    · cases hu

/-! ## Acceptance -/

theorem accepts_of_reads (h : Reads scheme rest (Text.trim cs)) :
    accepts cs = true ↔ (∀ c ∈ Text.trim cs, Text.isBlank c = false) ∧ isFit rest = true ∧
      if scheme.map Char.toLower ∈ hostSchemes then placeIn rest ≠ [] else rest ≠ [] := by
  by_cases hblank : (Text.trim cs).any Text.isBlank = true
  · have hnot : ¬ ∀ c ∈ Text.trim cs, Text.isBlank c = false := by simpa using hblank
    simp [accepts, hblank, hnot]
  · have hall : ∀ c ∈ Text.trim cs, Text.isBlank c = false := by simpa using hblank
    have hscheme : (scheme.map Char.toLower).isEmpty = false := by
      obtain ⟨c, cs, rfl, -⟩ := h.isScheme
      rfl
    obtain ⟨before, hcs, hbefore⟩ := h.first_colon
    have hcolon : splitColon (Text.trim cs) = (before, some rest) := by
      rw [hcs, splitColon_append hbefore]
    rw [accepts, if_neg hblank, h.split?]
    by_cases hfit : isFit rest = true
    · simp only [hfit, if_true, hscheme, Bool.false_eq_true, if_false, hcolon,
        List.contains_iff_mem, scheme_ofRest, host_ofRest, true_and]
      rw [and_iff_right hall]
      by_cases hhost : scheme.map Char.toLower ∈ hostSchemes
      · rw [if_pos hhost, if_pos hhost]
        simp
      · rw [if_neg hhost, if_neg hhost]
        simp
    · simp [hfit]

/-- **Which texts are accepted**: without white space, surrounding one apart, they read as a URL
whose authority is not refused, and with the schemes of the web there is something in the place of
the host, with any other scheme something after the colon. -/
theorem accepts_iff : accepts cs = true ↔ (∀ c ∈ Text.trim cs, Text.isBlank c = false) ∧
    ∃ scheme rest, Reads scheme rest (Text.trim cs) ∧ isFit rest = true ∧
      if scheme.map Char.toLower ∈ hostSchemes then placeIn rest ≠ [] else rest ≠ [] := by
  constructor
  · intro h
    have hreads : ∃ scheme rest, Reads scheme rest (Text.trim cs) := by
      by_contra hnone
      simp only [accepts] at h
      split at h
      · cases h
      · split at h
        · cases h
        · next u hu =>
            rw [scheme_of_not_reads hnone hu] at h
            cases h
    obtain ⟨scheme, rest, hreads⟩ := hreads
    obtain ⟨hblank, hfit, hhost⟩ := (accepts_of_reads hreads).mp h
    exact ⟨hblank, scheme, rest, hreads, hfit, hhost⟩
  · rintro ⟨hblank, scheme, rest, hreads, hfit, hhost⟩
    exact (accepts_of_reads hreads).mpr ⟨hblank, hfit, hhost⟩

theorem urlFailure_eq_none {s : String} :
    Check.urlFailure s = none ↔ accepts s.toList = true := by
  by_cases haccepts : accepts s.toList = true
  · simp [Check.urlFailure, haccepts]
  · simp [Check.urlFailure, haccepts, Check.failed]

end FieldRules.Address.Url
