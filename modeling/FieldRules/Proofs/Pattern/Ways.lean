import FieldRules.Pattern.Search

/-!
# Proofs — Ways

What a pattern admits, apart from how it is searched for. `Tree.Leads` says which positions a
pattern leads to from a position, with no order among the ways. On patterns made of sets, anchors,
sequences, alternatives and greedy repetitions the search misses none of them: it succeeds as soon
as one of the ways lets everything follow (`Tree.isSome_run`), at whatever position of the text
(`Tree.foundIn_iff`).
-/

namespace FieldRules.Pattern

variable {body : Follow → Follow} {R : Cursor → Cursor → Prop} {min count : Nat}
  {max : Option Nat} {last : Option Nat} {follow : Follow} {s t u : Cursor} {tree : Tree}

/-- The second of two ways is tried where the first leads nowhere. -/
theorem isSome_choice {first second : Option Cursor} :
    (first <|> second).isSome = true ↔ first.isSome = true ∨ second.isSome = true := by
  simp

/-! ## Rounds -/

/-- Rounds of `R`, of which `count` have been made: at least `min` in all, and beyond these only as
many as `max` admits. -/
inductive Rounds (R : Cursor → Cursor → Prop) (min : Nat) (max : Option Nat) :
    Nat → Cursor → Cursor → Prop
  | done {count : Nat} {s : Cursor} (h : min ≤ count) : Rounds R min max count s s
  | round {count : Nat} {s t u : Cursor} (h : count < min ∨ ∀ m ∈ max, count < m) (hround : R s t)
      (hrest : Rounds R min max (count + 1) t u) : Rounds R min max count s u

/-- The text that is left gets shorter. -/
def Forward (R : Cursor → Cursor → Prop) : Prop :=
  ∀ s t, R s t → s.offset < t.offset ∧ t.after.length < s.after.length

/-- The search with a body succeeds when one of the ways of `R` lets the rest follow. -/
def Finds (body : Follow → Follow) (R : Cursor → Cursor → Prop) : Prop :=
  ∀ (follow : Follow) (s : Cursor),
    (body follow s).isSome = true ↔ ∃ t, R s t ∧ (follow t).isSome = true

/-- Rounds are done, or one more is made. -/
theorem exists_rounds {Q : Cursor → Prop} : (∃ u, Rounds R min max count s u ∧ Q u) ↔
    (min ≤ count ∧ Q s) ∨ ((count < min ∨ ∀ m ∈ max, count < m) ∧
      ∃ t, R s t ∧ ∃ u, Rounds R min max (count + 1) t u ∧ Q u) := by
  constructor
  · rintro ⟨u, h, hQ⟩
    cases h with
    | done h => exact .inl ⟨h, hQ⟩
    | round h hround hrest => exact .inr ⟨h, _, hround, u, hrest, hQ⟩
  · rintro (⟨h, hQ⟩ | ⟨h, t, hround, u, hrest, hQ⟩)
    · exact ⟨s, .done h, hQ⟩
    · exact ⟨u, .round h hround hrest, hQ⟩

/-- **A greedy repetition finds every number of rounds.** The bound on the rounds is never met, as
each round takes something of the text, and for the same reason no round is taken for an empty
one. -/
theorem isSome_repeatGreedy (hbody : Finds body R) (hforward : Forward R) (fuel count : Nat)
    (last : Option Nat) (s : Cursor) (hfuel : s.after.length < fuel)
    (hlast : ∀ o ∈ last, o < s.offset) :
    (repeatGreedy body min max follow fuel count last s).isSome = true ↔
      ∃ u, Rounds R min max count s u ∧ (follow u).isSome = true := by
  induction fuel generalizing count last s with
  | zero => exact absurd hfuel (Nat.not_lt_zero _)
  | succ fuel ih =>
      -- what one further round leads to, whatever is remembered of the rounds before
      have hround (last' : Option Nat) (hlast' : ∀ o ∈ last', o ≤ s.offset) :
          (body (repeatGreedy body min max follow fuel (count + 1) last') s).isSome = true ↔
            ∃ t, R s t ∧ ∃ u, Rounds R min max (count + 1) t u ∧ (follow u).isSome = true := by
        rw [hbody]
        refine exists_congr fun t => and_congr_right fun ht => ?_
        obtain ⟨hoffset, hlength⟩ := hforward s t ht
        exact ih _ _ t (by omega) fun o ho => Nat.lt_of_le_of_lt (hlast' o ho) hoffset
      have hmoved : (last != some s.offset) = true := by
        rw [bne_iff_ne]
        rintro rfl
        exact Nat.lt_irrefl _ (hlast _ rfl)
      rw [repeatGreedy, exists_rounds]
      by_cases hmin : count < min
      · rw [if_pos hmin, hround last fun o ho => Nat.le_of_lt (hlast o ho)]
        simp [hmin, Nat.not_le_of_lt hmin]
      · rw [if_neg hmin]
        simp only [hmoved, Bool.and_true, hmin, Nat.le_of_not_lt hmin, true_and, false_or]
        by_cases hmax : max.all (fun m => count < m) = true
        · have hmore : ∀ m ∈ max, count < m := by simpa [Option.all_eq_true] using hmax
          rw [if_pos hmax, isSome_choice, hround (some s.offset) (by simp), or_comm,
            and_iff_right hmore]
        · have hfull : ¬ ∀ m ∈ max, count < m := by simpa [Option.all_eq_true] using hmax
          rw [if_neg hmax]
          simp only [hfull, false_and, or_false]

/-! ## Trees -/

namespace Tree

/-- The tree leads from one position to another. -/
def Leads : Tree → Cursor → Cursor → Prop
  | .empty, s, t => t = s
  | .any newlines, s, t => ∃ c, s.next? = some (c, t) ∧ (newlines || c != '\n') = true
  | .set manner negated items, s, t =>
    ∃ c, s.next? = some (c, t) ∧ (inSet manner items c != negated) = true
  | .anchor a, s, t => a.holds s = true ∧ t = s
  | .seq first second, s, t => ∃ u, first.Leads s u ∧ second.Leads u t
  | .either left right, s, t => left.Leads s t ∨ right.Leads s t
  | .repeated min max _ body, s, t => Rounds (fun u v => body.Leads u v) min max 0 s t
  | _, _, _ => False

/-- The tree is made of characters, anchors, sequences, alternatives and greedy repetitions of what
takes something of the text. -/
def IsRegular : Tree → Prop
  | .empty => True
  | .any _ => True
  | .set _ _ _ => True
  | .anchor _ => True
  | .seq first second => first.IsRegular ∧ second.IsRegular
  | .either left right => left.IsRegular ∧ right.IsRegular
  | .repeated _ _ greed body => greed = .greedy ∧ body.IsRegular ∧ Forward body.Leads
  | _ => False

/-- One character is taken if it is one of those asked for. -/
theorem isSome_takeOne (p : Char → Bool) :
    Finds (fun follow s =>
        match s.next? with
        | some (c, t) => if p c then follow t else none
        | none => none)
      fun s t => ∃ c, s.next? = some (c, t) ∧ p c = true := by
  intro follow s
  dsimp only
  cases s.next? with
  | none => simp
  | some next =>
      obtain ⟨c, t⟩ := next
      by_cases hc : p c = true <;> simp [hc, and_assoc]

/-- **The search misses no way**: it succeeds when the tree leads to a position from which what has
to follow can be reached. -/
theorem isSome_run (h : tree.IsRegular) : Finds tree.run tree.Leads := by
  induction tree with
  | empty => intro follow s; simp [run, Leads]
  | any newlines => exact isSome_takeOne fun c => newlines || c != '\n'
  | set manner negated items => exact isSome_takeOne fun c => inSet manner items c != negated
  | anchor a =>
      intro follow s
      by_cases ha : a.holds s = true <;> simp [run, Leads, ha]
  | seq first second ihFirst ihSecond =>
      intro follow s
      rw [run, ihFirst h.1]
      simp only [ihSecond h.2 follow, Leads]
      grind
  | either left right ihLeft ihRight =>
      intro follow s
      rw [run, isSome_choice, ihLeft h.1, ihRight h.2]
      simp only [Leads]
      grind
  | repeated min max greed body ih =>
      obtain ⟨rfl, hregular, hforward⟩ := h
      intro follow s
      rw [run]
      exact isSome_repeatGreedy (ih hregular) hforward _ 0 none s (by omega) nofun
  | _ => exact h.elim

end Tree

/-! ## Positions in a text -/

variable {xs ys : List Char} {manner : Manner} {negated : Bool} {items : List SetItem}

/-- The position between two parts of a text. -/
def Cursor.between (xs ys : List Char) : Cursor :=
  { before := xs.reverse, after := ys, offset := xs.length }

theorem Cursor.next?_between (xs ys : List Char) :
    (between xs ys).next? = ys.head?.map fun c => (c, between (xs ++ [c]) ys.tail) := by
  cases ys <;> simp [between, next?]

namespace Tree

/-- The character is one that the set asks for. -/
def Takes (manner : Manner) (negated : Bool) (items : List SetItem) (c : Char) : Prop :=
  (inSet manner items c != negated) = true

theorem forward_set : Forward (set manner negated items).Leads := by
  rintro s t ⟨c, hnext, -⟩
  unfold Cursor.next? at hnext
  split at hnext
  · cases hnext
  · next cs hafter =>
      obtain rfl := congrArg Prod.snd (Option.some.inj hnext)
      simp [hafter]

/-- A set takes the next character. -/
theorem leads_set : (set manner negated items).Leads (.between xs ys) t ↔
    ∃ c zs, ys = c :: zs ∧ Takes manner negated items c ∧ t = .between (xs ++ [c]) zs := by
  rw [Leads, Cursor.next?_between]
  constructor
  · rintro ⟨c, hnext, hc⟩
    cases ys with
    | nil => cases hnext
    | cons d zs =>
        cases hnext
        exact ⟨c, zs, rfl, hc, rfl⟩
  · rintro ⟨c, zs, rfl, hc, rfl⟩
    exact ⟨c, rfl, hc⟩

theorem rounds_set : Rounds (set manner negated items).Leads min none count (.between xs ys) t ↔
    ∃ ws zs, ys = ws ++ zs ∧ min ≤ count + ws.length ∧ (∀ c ∈ ws, Takes manner negated items c) ∧
      t = .between (xs ++ ws) zs := by
  constructor
  · intro h
    generalize hs : Cursor.between xs ys = s at h
    induction h generalizing xs ys with
    | done h => exact ⟨[], ys, rfl, h, nofun, by rw [List.append_nil, hs]⟩
    | round _ hround _ ih =>
        subst hs
        obtain ⟨c, zs, rfl, hc, rfl⟩ := leads_set.mp hround
        obtain ⟨ws, zs, rfl, hcount, hws, rfl⟩ := ih rfl
        refine ⟨c :: ws, zs, rfl, ?_, List.forall_mem_cons.mpr ⟨hc, hws⟩, by simp⟩
        rw [List.length_cons]
        omega
  · rintro ⟨ws, zs, rfl, hcount, hws, rfl⟩
    induction ws generalizing xs count with
    | nil => simpa using Rounds.done hcount
    | cons c ws ih =>
        obtain ⟨hc, hws⟩ := List.forall_mem_cons.mp hws
        rw [List.length_cons] at hcount
        have hrest : Rounds (set manner negated items).Leads min none (count + 1)
            (.between (xs ++ [c]) (ws ++ zs)) (.between (xs ++ [c] ++ ws) zs) := ih (by omega) hws
        rw [List.append_assoc, List.singleton_append] at hrest
        exact .round (.inr nofun) (leads_set.mpr ⟨c, ws ++ zs, rfl, hc, rfl⟩) hrest

/-- A repeated set takes any number of characters from the least on. -/
theorem leads_repeated_set {greed : Greed} :
    (repeated min none greed (set manner negated items)).Leads (.between xs ys) t ↔
      ∃ ws zs, ys = ws ++ zs ∧ min ≤ ws.length ∧ (∀ c ∈ ws, Takes manner negated items c) ∧
        t = .between (xs ++ ws) zs := by
  rw [Leads, rounds_set]
  simp only [Nat.zero_add]

/-! ## Searching -/

theorem searchFrom_iff (h : tree.IsRegular) (xs ys : List Char) :
    tree.searchFrom xs.reverse xs.length ys = true ↔
      ∃ zs ws u, ys = zs ++ ws ∧ tree.Leads (.between (xs ++ zs) ws) u := by
  have hhere (xs ys : List Char) : (tree.run some (.between xs ys)).isSome = true ↔
      ∃ u, tree.Leads (.between xs ys) u := by
    simp [isSome_run h some]
  induction ys generalizing xs with
  | nil =>
      rw [searchFrom]
      refine (hhere xs []).trans ⟨fun ⟨u, hu⟩ => ⟨[], [], u, rfl, by rwa [List.append_nil]⟩, ?_⟩
      rintro ⟨zs, ws, u, hnil, hu⟩
      obtain ⟨rfl, rfl⟩ := List.append_eq_nil_iff.mp hnil.symm
      exact ⟨u, by rwa [List.append_nil] at hu⟩
  | cons c ys ih =>
      have hlater := ih (xs ++ [c])
      rw [List.reverse_append, List.length_append] at hlater
      rw [searchFrom, Bool.or_eq_true]
      refine (or_congr (hhere xs (c :: ys)) hlater).trans ⟨?_, ?_⟩
      · rintro (⟨u, hu⟩ | ⟨zs, ws, u, rfl, hu⟩)
        · exact ⟨[], c :: ys, u, rfl, by rwa [List.append_nil]⟩
        · exact ⟨c :: zs, ws, u, rfl, by rwa [List.append_assoc] at hu⟩
      · rintro ⟨zs, ws, u, heq, hu⟩
        cases zs with
        | nil =>
            rw [List.append_nil] at hu
            exact .inl ⟨u, heq ▸ hu⟩
        | cons d zs =>
            obtain ⟨rfl, rfl⟩ := List.cons.inj heq
            exact .inr ⟨zs, ws, u, rfl, by rwa [List.append_assoc]⟩

/-- **A text contains a match** when the tree leads on from some position in it. -/
theorem foundIn_iff (h : tree.IsRegular) (cs : List Char) :
    tree.foundIn cs = true ↔ ∃ xs ys u, cs = xs ++ ys ∧ tree.Leads (.between xs ys) u :=
  searchFrom_iff h [] cs

end Tree
end FieldRules.Pattern
