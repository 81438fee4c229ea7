import FieldRules.Check.Basic
import FieldRules.Proofs.Pattern.Ways
import FieldRules.Proofs.Text.Trimming

/-!
# Proofs — Mailbox

Which texts pass for an email address. `IsAddress` says what an address is: a local part, one at
sign, and a domain with a point inside, all without white space. The check accepts the addresses,
and besides them an address with one newline after it (`accepts_iff`), which is just what a search
for the pattern `^[^\s@]+@[^\s@]+\.[^\s@]+$` finds (`foundIn_tree`): its last anchor holds before
a newline that ends the text.
-/

namespace FieldRules.Address.Email

open Pattern (Cursor SetItem Tree)

variable {cs before domain name front back xs ys : List Char} {c : Char}

/-! ## Addresses -/

/-- A local part, one at sign and a domain with a point that is neither its first nor its last
character, with no white space anywhere. -/
structure IsAddress (cs : List Char) : Prop where
  parts : ∃ name domain, cs = name ++ '@' :: domain ∧ name ≠ [] ∧
    ∃ front back, domain = front ++ '.' :: back ∧ front ≠ [] ∧ back ≠ []
  one_at : cs.count '@' = 1
  not_blank : ∀ c ∈ cs, Text.isBlank c = false

/-- Something without white space and at signs. -/
def IsPart (cs : List Char) : Prop :=
  cs ≠ [] ∧ ∀ c ∈ cs, Text.isBlank c = false ∧ c ≠ '@'

/-- Three parts: with an at sign and a point between them there is no further at sign, and no white
space. -/
theorem areParts_iff : IsPart name ∧ IsPart front ∧ IsPart back ↔
    (name ≠ [] ∧ front ≠ [] ∧ back ≠ []) ∧ '@' ∉ name ∧ '@' ∉ front ++ '.' :: back ∧
      ∀ c ∈ name ++ '@' :: (front ++ '.' :: back), Text.isBlank c = false := by
  have hpart (cs : List Char) :
      IsPart cs ↔ cs ≠ [] ∧ '@' ∉ cs ∧ ∀ c ∈ cs, Text.isBlank c = false := by
    refine and_congr_right fun _ => ⟨fun h => ⟨fun hat => (h _ hat).2 rfl, fun c hc => (h c hc).1⟩,
      fun ⟨hat, hblank⟩ c hc => ⟨hblank c hc, ne_of_mem_of_not_mem hc hat⟩⟩
  have hat : Text.isBlank '@' = false := rfl
  have hpoint : Text.isBlank '.' = false := rfl
  simp only [hpart, List.forall_mem_append, List.forall_mem_cons, hat, hpoint, true_and]
  simp only [List.mem_append, List.mem_cons, Char.reduceEq, false_or, not_or]
  tauto

/-- An address is three parts with an at sign and a point between them. -/
theorem isAddress_iff : IsAddress cs ↔
    ∃ name front back, cs = name ++ '@' :: (front ++ '.' :: back) ∧
      IsPart name ∧ IsPart front ∧ IsPart back := by
  constructor
  · rintro ⟨⟨name, domain, rfl, hname, front, back, rfl, hfront, hback⟩, hat, hblank⟩
    rw [List.count_append, List.count_cons_self] at hat
    have hatName : '@' ∉ name := List.count_eq_zero.mp (by omega)
    have hatDomain : '@' ∉ front ++ '.' :: back := List.count_eq_zero.mp (by omega)
    exact ⟨name, front, back, rfl,
      areParts_iff.mpr ⟨⟨hname, hfront, hback⟩, hatName, hatDomain, hblank⟩⟩
  · rintro ⟨name, front, back, rfl, hparts⟩
    obtain ⟨⟨hname, hfront, hback⟩, hatName, hatDomain, hblank⟩ := areParts_iff.mp hparts
    refine ⟨⟨name, _, rfl, hname, front, back, rfl, hfront, hback⟩, ?_, hblank⟩
    rw [List.count_append, List.count_cons_self, List.count_eq_zero.mpr hatName,
      List.count_eq_zero.mpr hatDomain]

/-! ## Acceptance -/

theorem hasInnerPoint_iff : hasInnerPoint cs = true ↔
    ∃ front back, cs = front ++ '.' :: back ∧ front ≠ [] ∧ back ≠ [] := by
  rw [hasInnerPoint, List.contains_iff_mem]
  constructor
  · intro h
    cases cs with
    | nil => cases h
    | cons c tail =>
        have htail : tail ≠ [] := by
          rintro rfl
          cases h
        obtain ⟨front, back, hsplit⟩ := List.append_of_mem h
        refine ⟨c :: front, back ++ [tail.getLast htail], ?_, by simp, by simp⟩
        calc c :: tail = c :: (tail.dropLast ++ [tail.getLast htail]) := by
              rw [List.dropLast_append_getLast]
          _ = _ := by
              rw [show tail.dropLast = front ++ '.' :: back from hsplit]
              simp
  · rintro ⟨front, back, rfl, hfront, hback⟩
    obtain ⟨c, front, rfl⟩ := List.exists_cons_of_ne_nil hfront
    rw [List.cons_append, List.drop_succ_cons, List.drop_zero,
      List.dropLast_append_of_ne_nil (List.cons_ne_nil _ _), List.dropLast_cons_of_ne_nil hback]
    simp

/-- The parts are told apart at the first at sign. -/
theorem hasShape_append (h : '@' ∉ before) : hasShape (before ++ '@' :: domain) =
    (!before.isEmpty && !domain.contains '@' && hasInnerPoint domain &&
      !(before ++ '@' :: domain).any Text.isBlank) := by
  rw [hasShape, Text.span_append_cons h]

theorem hasShape_of_not_mem (h : '@' ∉ cs) : hasShape cs = false := by
  rw [hasShape, Text.span_of_not_mem h]

/-- **The shape that is looked for is that of an address.** -/
theorem hasShape_iff : hasShape cs = true ↔ IsAddress cs := by
  rw [isAddress_iff]
  constructor
  · intro h
    have hat : '@' ∈ cs := by
      by_contra hat
      rw [hasShape_of_not_mem hat] at h
      cases h
    obtain ⟨name, domain, rfl, hname⟩ := List.eq_append_cons_of_mem hat
    rw [hasShape_append hname] at h
    simp only [Bool.and_eq_true, Bool.not_eq_true', List.isEmpty_eq_false_iff,
      hasInnerPoint_iff, List.any_eq_false, Bool.not_eq_true] at h
    obtain ⟨⟨⟨hne, hdomain⟩, front, back, rfl, hfront, hback⟩, hblank⟩ := h
    exact ⟨name, front, back, rfl,
      areParts_iff.mpr ⟨⟨hne, hfront, hback⟩, hname, by simpa using hdomain, hblank⟩⟩
  · rintro ⟨name, front, back, rfl, hparts⟩
    obtain ⟨⟨hname, hfront, hback⟩, hatName, hatDomain, hblank⟩ := areParts_iff.mp hparts
    rw [hasShape_append hatName]
    simp only [Bool.and_eq_true, Bool.not_eq_true', List.isEmpty_eq_false_iff,
      hasInnerPoint_iff, List.any_eq_false, Bool.not_eq_true]
    exact ⟨⟨⟨hname, by simpa using hatDomain⟩, front, back, rfl, hfront, hback⟩, hblank⟩

theorem withoutLastNewline_append (cs : List Char) : withoutLastNewline (cs ++ ['\n']) = cs := by
  simp [withoutLastNewline]

theorem withoutLastNewline_of_not_mem (h : '\n' ∉ cs) : withoutLastNewline cs = cs := by
  unfold withoutLastNewline
  split
  · next hlast => exact absurd (List.mem_of_getLast? hlast) h
  · rfl

/-- The text is an address, or one with a newline after it. -/
def IsAddressLine (cs : List Char) : Prop :=
  ∃ address, IsAddress address ∧ (cs = address ∨ cs = address ++ ['\n'])

/-- **Addresses are accepted**, with or without a newline at their end, and nothing else. -/
theorem accepts_iff : accepts cs = true ↔ IsAddressLine cs := by
  rw [accepts, hasShape_iff]
  constructor
  · intro h
    refine ⟨_, h, ?_⟩
    unfold withoutLastNewline
    split
    · next hlast => exact .inr (List.dropLast_append_getLast? _ hlast).symm
    · exact .inl rfl
  · rintro ⟨address, h, rfl | rfl⟩
    · have hline : '\n' ∉ cs := fun hmem => absurd (h.not_blank _ hmem) (by decide)
      rwa [withoutLastNewline_of_not_mem hline]
    · rwa [withoutLastNewline_append]

/-! ## The pattern -/

/-- The source of a pattern that says the same. -/
def source : String := "^[^\\s@]+@[^\\s@]+\\.[^\\s@]+$"

/-- What the pattern has for a part. -/
def partTree : Tree :=
  .repeated 1 none .greedy (.set {} true [.category .blank false, .char '@'.toNat])

def tree : Tree :=
  .seq (.seq (.seq (.seq (.seq (.seq (.anchor .textStart) partTree)
    (.set {} false [.char '@'.toNat])) partTree) (.set {} false [.char '.'.toNat])) partTree)
    (.anchor .lastLineEnd)

theorem compile_source : Pattern.compile source = .ok ⟨source, tree, {}⟩ := by
  have h : (Pattern.compile source).toOption = some ⟨source, tree, {}⟩ := by decide +kernel
  cases hcompile : Pattern.compile source with
  | error e => rw [hcompile] at h; cases h
  | ok p => rw [hcompile] at h; exact congrArg Except.ok (Option.some.inj h)

/-- A set of one character takes this character. -/
theorem takes_char {d : Char} : Tree.Takes {} false [.char d.toNat] c ↔ c = d := by
  simp [Tree.Takes, Pattern.inSet, SetItem.holds, Pattern.Manner.codes, Char.toNat_inj,
    eq_comm (a := d)]

/-- The set of a part takes what is no white space and no at sign. -/
theorem takes_part :
    Tree.Takes {} true [.category .blank false, .char '@'.toNat] c ↔
      Text.isBlank c = false ∧ c ≠ '@' := by
  simp only [Tree.Takes, Pattern.inSet, SetItem.holds, Pattern.Category.holds,
    Pattern.Manner.codes]
  simp [-Char.reduceToNat, Char.toNat_inj, eq_comm (b := c)]

theorem leads_part {t : Cursor} : partTree.Leads (.between xs ys) t ↔
    ∃ part rest, ys = part ++ rest ∧ IsPart part ∧ t = .between (xs ++ part) rest := by
  simp only [partTree, Tree.leads_repeated_set, takes_part, IsPart, Nat.succ_le_iff,
    List.length_pos_iff, and_assoc]

theorem leads_char {d : Char} {t : Cursor} :
    (Tree.set {} false [.char d.toNat]).Leads (.between xs ys) t ↔
      ∃ rest, ys = d :: rest ∧ t = .between (xs ++ [d]) rest := by
  rw [Tree.leads_set]
  simp only [takes_char]
  constructor
  · rintro ⟨c, rest, rfl, rfl, rfl⟩
    exact ⟨rest, rfl, rfl⟩
  · rintro ⟨rest, rfl, rfl⟩
    exact ⟨d, rest, rfl, rfl, rfl⟩

/-- The pattern leads from the start of a text over an address to the end of the text, or to a
newline that ends it. -/
theorem leads_tree : (∃ t, tree.Leads (.between xs ys) t) ↔
    xs = [] ∧ ∃ address rest, ys = address ++ rest ∧ IsAddress address ∧
      (rest = [] ∨ rest = ['\n']) := by
  constructor
  · rintro ⟨t, _, ⟨_, ⟨_, ⟨_, ⟨_, ⟨_, ⟨hstart, rfl⟩, hleadsName⟩, hat⟩, hleadsFront⟩, hpoint⟩,
      hleadsBack⟩, hend, rfl⟩
    obtain ⟨name, _, rfl, hname, rfl⟩ := leads_part.mp hleadsName
    obtain ⟨_, rfl, rfl⟩ := leads_char.mp hat
    obtain ⟨front, _, rfl, hfront, rfl⟩ := leads_part.mp hleadsFront
    obtain ⟨_, rfl, rfl⟩ := leads_char.mp hpoint
    obtain ⟨back, rest, rfl, hback, rfl⟩ := leads_part.mp hleadsBack
    refine ⟨by simpa [Pattern.Anchor.holds, Cursor.between] using hstart,
      name ++ '@' :: (front ++ '.' :: back), rest, by simp,
      isAddress_iff.mpr ⟨name, front, back, rfl, hname, hfront, hback⟩, ?_⟩
    simpa [Pattern.Anchor.holds, Cursor.between] using hend
  · rintro ⟨rfl, address, rest, rfl, haddress, hrest⟩
    obtain ⟨name, front, back, rfl, hname, hfront, hback⟩ := isAddress_iff.mp haddress
    rw [List.append_assoc, List.cons_append, List.append_assoc, List.cons_append]
    refine ⟨_, _, ⟨_, ⟨_, ⟨_, ⟨_, ⟨_, ⟨rfl, rfl⟩, leads_part.mpr ⟨name, _, rfl, hname, rfl⟩⟩,
      leads_char.mpr ⟨_, rfl, rfl⟩⟩, leads_part.mpr ⟨front, _, rfl, hfront, rfl⟩⟩,
      leads_char.mpr ⟨_, rfl, rfl⟩⟩, leads_part.mpr ⟨back, _, rfl, hback, rfl⟩⟩, ?_, rfl⟩
    simpa [Pattern.Anchor.holds, Cursor.between] using hrest

theorem isRegular_tree : tree.IsRegular := by
  simp [tree, partTree, Tree.IsRegular, Tree.forward_set]

/-- **The pattern is found in the texts that are accepted.** -/
theorem foundIn_tree : tree.foundIn cs = true ↔ IsAddressLine cs := by
  rw [Tree.foundIn_iff isRegular_tree]
  constructor
  · rintro ⟨xs, ys, t, rfl, ht⟩
    obtain ⟨rfl, address, rest, rfl, haddress, hrest⟩ := leads_tree.mp ⟨t, ht⟩
    exact ⟨address, haddress, hrest.imp (by rintro rfl; simp) (by rintro rfl; simp)⟩
  · rintro ⟨address, haddress, hcs⟩
    obtain ⟨rest, hrest, rfl⟩ : ∃ rest, (rest = [] ∨ rest = ['\n']) ∧ cs = address ++ rest := by
      rcases hcs with rfl | rfl
      · exact ⟨[], .inl rfl, by simp⟩
      · exact ⟨['\n'], .inr rfl, rfl⟩
    obtain ⟨t, ht⟩ := leads_tree.mpr ⟨rfl, address, rest, rfl, haddress, hrest⟩
    exact ⟨[], address ++ rest, t, rfl, ht⟩

/-! ## The check -/

/-- **What passes for an email address**: an address, with or without a newline after it. The check
always comes to a verdict, and it is that of the pattern. -/
theorem run_email (s : String) :
    ∃ failure?, Check.email.run (.text s) = .ok failure? ∧
      (failure? = none ↔ IsAddressLine s.toList) ∧
      ∃ p, Pattern.compile source = .ok p ∧ (failure? = none ↔ p.foundIn s = true) := by
  have hverdict : Check.emailFailure s = none ↔ IsAddressLine s.toList := by
    rw [← accepts_iff, Check.emailFailure]
    by_cases haccepts : accepts s.toList = true
    · simp [haccepts]
    · simp [haccepts, Check.failed]
  refine ⟨Check.emailFailure s, rfl, hverdict, _, compile_source, ?_⟩
  rw [hverdict, ← foundIn_tree, Pattern.foundIn]

/-- A newline after an address does not keep it from passing, though it is white space. -/
theorem run_email_newline : Check.email.run (.text "ada@example.com\n") = .ok none ∧
    ¬ IsAddress "ada@example.com\n".toList :=
  ⟨rfl, fun h => absurd (h.not_blank '\n' (by decide)) (by decide)⟩

end FieldRules.Address.Email
