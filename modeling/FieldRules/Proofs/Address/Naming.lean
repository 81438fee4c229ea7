import FieldRules.Proofs.Address.Places

/-!
# Proofs — Naming

Whether a URL names its host. Around the name of a host there may be a user, up to the last at sign,
and a port, from the colon on; `nameIn` is what remains of the place without them. A URL of the web
that is accepted has something in the place of its host; but where this is a user and a port and no
more (`IsNameless`), it names none (`run_url_host`).
-/

namespace FieldRules.Address.Url

variable {cs place user port : List Char} {u : Url}

/-! ## Users and ports -/

/-- Nothing, or what an at sign ends. -/
def IsUser (user : List Char) : Prop :=
  user = [] ∨ ∃ login, user = login ++ ['@']

/-- Nothing, or what a colon begins; there is no at sign in it. -/
def IsPort (port : List Char) : Prop :=
  '@' ∉ port ∧ (port = [] ∨ ∃ number, port = ':' :: number)

/-- The place has nothing but a user and a port. -/
def IsNameless (place : List Char) : Prop :=
  ∃ user port, place = user ++ port ∧ IsUser user ∧ IsPort port

theorem exists_user (place : List Char) :
    ∃ user, place = user ++ afterUser place ∧ IsUser user ∧ '@' ∉ afterUser place := by
  refine ⟨(place.reverse.dropWhile (· != '@')).reverse, ?_, ?_, ?_⟩
  · rw [afterUser, ← List.reverse_append, List.takeWhile_append_dropWhile, List.reverse_reverse]
  · cases hdrop : place.reverse.dropWhile (· != '@') with
    | nil => exact .inl rfl
    | cons c login =>
        have hstops := List.head?_dropWhile_not (· != '@') place.reverse
        rw [hdrop] at hstops
        have hat : c = '@' := by simpa using hstops
        exact .inr ⟨login.reverse, by rw [hat, List.reverse_cons]⟩
  · intro hmem
    have hne := List.mem_takeWhile_imp (List.mem_reverse.mp hmem)
    simp at hne

/-- What stands after the user. -/
theorem afterUser_append (huser : IsUser user) (hport : '@' ∉ port) :
    afterUser (user ++ port) = port := by
  have htake : user.reverse.takeWhile (· != '@') = [] := by
    rcases huser with rfl | ⟨login, rfl⟩
    · rfl
    · simp
  have hne : ∀ c ∈ port.reverse, (c != '@') = true :=
    Text.ne_of_not_mem fun hmem => hport (List.mem_reverse.mp hmem)
  rw [afterUser, List.reverse_append, List.takeWhile_append_of_pos hne, htake, List.append_nil,
    List.reverse_reverse]

/-! ## Names -/

/-- The name that stands in the place of a host, after the user and before the port. A colon between
brackets begins no port. -/
def nameIn (place : List Char) : List Char :=
  match afterUser place with
  | '[' :: cs => '[' :: (cs.takeWhile (· != ']') ++
      (cs.dropWhile (· != ']')).takeWhile (· != ':'))
  | cs => cs.takeWhile (· != ':')

/-- **A name is missing** where there is nothing but a user and a port. -/
theorem nameIn_eq_nil : nameIn place = [] ↔ IsNameless place := by
  have hname (cs : List Char) : cs.takeWhile (· != ':') = [] ↔
      cs = [] ∨ ∃ number, cs = ':' :: number := by
    cases cs with
    | nil => simp
    | cons c cs => by_cases hc : c = ':' <;> simp [hc]
  have hport : nameIn place = [] ↔
      afterUser place = [] ∨ ∃ number, afterUser place = ':' :: number := by
    rw [nameIn]
    split
    · next hopen => simp [hopen]
    · exact hname _
  rw [hport]
  constructor
  · intro h
    obtain ⟨user, hplace, huser, hat⟩ := exists_user place
    exact ⟨user, afterUser place, hplace, huser, hat, h⟩
  · rintro ⟨user, port, rfl, huser, hat, h⟩
    rwa [afterUser_append huser hat]

/-! ## Accepted URLs -/

/-- The place in the text: after the scheme, its colon and any slashes, up to the next slash,
question mark or number sign. -/
inductive Locates (scheme place : List Char) : List Char → Prop
  | intro {lead slashes tail : List Char} (hlead : ∀ c ∈ lead, isLeading c = true)
      (hscheme : IsScheme scheme) (hslashes : ∀ c ∈ slashes, c = '/')
      (hplace : ∀ c ∈ place, isEnd c = false) (htail : ∀ c ∈ tail.head?, isEnd c = true) :
      Locates scheme place (lead ++ (scheme ++ ':' :: (slashes ++ (place ++ tail))))

theorem Reads.locates {scheme rest : List Char} (h : Reads scheme rest cs) :
    Locates scheme (placeIn rest) cs := by
  obtain ⟨slashes, tail, hrest, hslashes, hplace, htail⟩ := exists_around rest
  cases h with
  | @intro lead hlead hscheme =>
      have hlocates : Locates scheme (placeIn rest)
          (lead ++ (scheme ++ ':' :: (slashes ++ (placeIn rest ++ tail)))) :=
        .intro hlead hscheme hslashes hplace htail
      rwa [← hrest] at hlocates

/-- **An accepted URL of the web has something in the place of its host**, and it names the host
unless this is nothing but a user and a port. -/
theorem run_url_host {s : String} (h : Check.url.run (.text s) = .ok none) :
    ∃ u scheme, split? (Text.trim s.toList) = some u ∧ u.scheme = scheme.map Char.toLower ∧
      (u.scheme ∈ hostSchemes → Locates scheme u.host (Text.trim s.toList) ∧ u.host ≠ [] ∧
        (nameIn u.host = [] ↔ IsNameless u.host)) := by
  have haccepts : accepts s.toList = true := urlFailure_eq_none.mp (Except.ok.inj h)
  obtain ⟨-, scheme, rest, hreads, hfit, hhost⟩ := accepts_iff.mp haccepts
  refine ⟨ofRest scheme rest, scheme, ?_, rfl, fun hscheme => ?_⟩
  · rw [hreads.split?, if_pos hfit]
  · rw [scheme_ofRest] at hscheme
    rw [if_pos hscheme] at hhost
    rw [host_ofRest]
    exact ⟨hreads.locates, hhost, nameIn_eq_nil⟩

/-- A host with a user and a port around it, after no slashes. -/
theorem run_url_host_user :
    Check.url.run (.text "WS:ada@host:80/a") = .ok none ∧
      ∃ u scheme, split? "WS:ada@host:80/a".toList = some u ∧
        Locates scheme u.host "WS:ada@host:80/a".toList ∧ ¬ IsNameless u.host := by
  have hrun : Check.url.run (.text "WS:ada@host:80/a") = .ok none := rfl
  obtain ⟨u, scheme, hu, -, hhost⟩ := run_url_host hrun
  have hparts : u = ⟨"ws".toList, [], "ada@host:80/a".toList⟩ := (Option.some.inj hu).symm
  subst hparts
  obtain ⟨hlocates, -, hname⟩ := hhost (by decide)
  exact ⟨hrun, _, scheme, hu, hlocates, fun hnone => absurd (hname.mpr hnone) (by decide)⟩

/-- A port alone stands in the place of the host. -/
theorem run_url_nameless :
    Check.url.run (.text "http://:80") = .ok none ∧
      ∃ u, split? "http://:80".toList = some u ∧ u.scheme ∈ hostSchemes ∧ nameIn u.host = [] :=
  ⟨rfl, _, rfl, by decide, by decide⟩

end FieldRules.Address.Url
