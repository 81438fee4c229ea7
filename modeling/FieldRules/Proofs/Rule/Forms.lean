import FieldRules.Proofs.Rule.Given
import FieldRules.Proofs.Rule.Sources
import FieldRules.Proofs.Rule.Wording
import Mathlib.Data.List.Forall2
import Mathlib.Data.List.Nodup

/-!
# Proofs — Forms

The two forms of a rule. A mapping with one entry for each of several demands about different
subjects, under any of the keys for its subject and in any order, is the rule that asks for them
(`states_ofDict`). Hence a text and a mapping that make the same demands are the same rule, however
the text is laid out (`normalize_forms`).
-/

namespace FieldRules.Rule

/-! ## Entries -/

/-- The entry makes the demand, under any of the keys for its subject. -/
def Demand.IsEntry (d : Demand) (e : Value × Value) : Prop :=
  ∃ key ∈ d.subject.spellings, e = (.text key, d.value)

open Number (Double)

variable {entries : Dict} {asked : List Demand} {d : Demand} {v : Value} {a : Attribute}
  {key : String}

theorem present?_value (d : Demand) : d.value.present? = some d.value := by
  cases d <;> rfl

theorem given?_cons (d : Demand) (key' : String) (rest : Dict) (key : String) :
    Dict.given? ((.text key', d.value) :: rest) key =
      if key' = key then some d.value else rest.given? key := by
  rw [Dict.given?, Dict.get?_cons, Dict.keyIs_text]
  by_cases h : key' = key
  · simp [h, present?_value]
  · simp [h, Dict.given?]

/-- What is given under a key for an attribute is demanded about it. -/
theorem exists_of_given? (hentries : List.Forall₂ Demand.IsEntry asked entries)
    (hkey : key ∈ a.spellings) (hgiven : entries.given? key = some v) :
    ∃ d ∈ asked, d.subject = a ∧ d.value = v := by
  induction hentries with
  | nil => cases hgiven
  | cons he _ ih =>
      obtain ⟨key', hkey', rfl⟩ := he
      rw [given?_cons] at hgiven
      split at hgiven
      · next heq =>
          subst heq
          exact ⟨_, .head _, eq_of_mem_spellings hkey' hkey, Option.some.inj hgiven⟩
      · obtain ⟨d, hd, hvalue⟩ := ih hgiven
        exact ⟨d, .tail _ hd, hvalue⟩

/-- What is demanded is given under a key for its subject. -/
theorem exists_given? (hentries : List.Forall₂ Demand.IsEntry asked entries)
    (hdistinct : (asked.map Demand.subject).Nodup) (hd : d ∈ asked) :
    ∃ key ∈ d.subject.spellings, entries.given? key = some d.value := by
  induction hentries with
  | nil => cases hd
  | cons he _ ih =>
      obtain ⟨key', hkey', rfl⟩ := he
      obtain ⟨hnew, hdistinct⟩ := List.nodup_cons.mp hdistinct
      cases hd with
      | head => exact ⟨key', hkey', by rw [given?_cons, if_pos rfl]⟩
      | tail _ hd =>
          obtain ⟨key, hkey, hgiven⟩ := ih hdistinct hd
          refine ⟨key, hkey, ?_⟩
          have hne : key' ≠ key := by
            rintro rfl
            exact hnew (eq_of_mem_spellings hkey hkey' ▸ List.mem_map_of_mem hd)
          rw [given?_cons, if_neg hne, hgiven]

/-- **Under the keys for an attribute stands what is demanded about it.** -/
theorem firstGiven?_eq_some_iff (hentries : List.Forall₂ Demand.IsEntry asked entries)
    (hdistinct : (asked.map Demand.subject).Nodup) :
    entries.firstGiven? a.spellings = some v ↔ ∃ d ∈ asked, d.subject = a ∧ d.value = v := by
  have hforward {u : Value} (h : entries.firstGiven? a.spellings = some u) :
      ∃ d ∈ asked, d.subject = a ∧ d.value = u := by
    obtain ⟨key, hkey, hgiven⟩ := List.exists_of_findSome?_eq_some h
    exact exists_of_given? hentries hkey hgiven
  refine ⟨hforward, ?_⟩
  rintro ⟨d, hd, rfl, rfl⟩
  cases hfind : entries.firstGiven? d.subject.spellings with
  | none =>
      obtain ⟨key, hkey, hgiven⟩ := exists_given? hentries hdistinct hd
      rw [List.findSome?_eq_none_iff.mp hfind key hkey] at hgiven
      cases hgiven
  | some u =>
      obtain ⟨e, he, hsubject, rfl⟩ := hforward hfind
      rw [List.inj_on_of_nodup_map hdistinct he hd hsubject]

/-! ## Reading entries -/

/-- What a mapping gives for the subject of some demands. -/
theorem firstGiven?_demand {ι : Type} {demand : ι → Demand}
    (hentries : List.Forall₂ Demand.IsEntry asked entries)
    (hdistinct : (asked.map Demand.subject).Nodup)
    (hdemand : ∀ d : Demand, d.subject = a ↔ ∃ i, demand i = d) (v : Value) :
    entries.firstGiven? a.spellings = some v ↔ ∃ i, demand i ∈ asked ∧ (demand i).value = v := by
  rw [firstGiven?_eq_some_iff hentries hdistinct]
  simp only [hdemand]
  constructor
  · rintro ⟨_, hd, ⟨i, rfl⟩, hv⟩
    exact ⟨i, hd, hv⟩
  · rintro ⟨i, hi, hv⟩
    exact ⟨_, hi, ⟨i, rfl⟩, hv⟩

/-- What is read off the value that stands for one of some demands. -/
theorem read_demand {ι β : Type} {demand : ι → Demand} {first : Option Value}
    (hfirst : ∀ v, first = some v ↔ ∃ i, demand i ∈ asked ∧ (demand i).value = v)
    (read : Option Value → Except Fault (Option β)) (result : ι → Option β)
    (hnone : read none = .ok none) (hread : ∀ i, read (some (demand i).value) = .ok (result i)) :
    ∃ b, read first = .ok b ∧ ∀ y, b = some y ↔ ∃ i, demand i ∈ asked ∧ result i = some y := by
  cases first with
  | none =>
      refine ⟨none, hnone, fun y => iff_of_false (by simp) ?_⟩
      rintro ⟨i, hi, -⟩
      cases (hfirst _).mpr ⟨i, hi, rfl⟩
  | some v =>
      obtain ⟨i, hi, rfl⟩ := (hfirst v).mp rfl
      refine ⟨result i, hread i, fun y => ⟨fun hy => ⟨i, hi, hy⟩, ?_⟩⟩
      rintro ⟨j, hj, hy⟩
      have hresult := hread i
      rw [(hfirst _).mpr ⟨j, hj, rfl⟩, hread j] at hresult
      rw [← Except.ok.inj hresult, hy]

/-! ## Rules of mappings -/

section Entries

variable (hentries : List.Forall₂ Demand.IsEntry asked entries)
  (hdistinct : (asked.map Demand.subject).Nodup)

include hentries

theorem given?_of_not_subject (ha : a ∉ Demand.subjects) (hkey : key ∈ a.spellings) :
    entries.given? key = none := by
  refine Option.eq_none_iff_forall_ne_some.mpr fun v hv => ?_
  obtain ⟨d, -, hd, -⟩ := exists_of_given? hentries hkey hv
  exact ha (hd ▸ d.subject_mem)

/-- Entries of demands leave nothing over. -/
theorem without_knownKeys : entries.without knownKeys = [] := by
  induction hentries with
  | nil => rfl
  | cons he _ ih =>
      obtain ⟨key, hkey, rfl⟩ := he
      have hknown : key ∈ knownKeys := mem_knownKeys hkey
      rw [Dict.without, List.filter_cons_of_neg]
      · exact ih
      · simpa using hknown

include hdistinct

theorem required_entries : (entries.getD "required").truthy = true ↔ .required ∈ asked := by
  have hdemand (d : Demand) : d.subject = .required ↔ ∃ _ : Unit, .required = d := by
    cases d <;> simp [Demand.subject]
  have hfirst (v : Value) : entries.firstGiven? ["required"] = some v ↔
      ∃ _ : Unit, .required ∈ asked ∧ Demand.required.value = v :=
    firstGiven?_demand hentries hdistinct hdemand v
  rw [Dict.getD_eq]
  cases hrequired : entries.firstGiven? ["required"] with
  | none =>
      refine iff_of_false Bool.false_ne_true fun hmem => ?_
      rw [(hfirst _).mpr ⟨(), hmem, rfl⟩] at hrequired
      cases hrequired
  | some v =>
      obtain ⟨-, hmem, rfl⟩ := (hfirst v).mp hrequired
      exact iff_of_true rfl hmem

theorem type_entries : ∃ type, declaredType entries = .ok type ∧
    ∀ t, type = some t ↔ ∃ kind, .type kind ∈ asked ∧ kind.name = t := by
  have hdemand (d : Demand) : d.subject = .type ↔ ∃ kind, .type kind = d := by
    cases d <;> simp [Demand.subject]
  have hfirst := firstGiven?_demand hentries hdistinct hdemand
  obtain ⟨type, htype, hiff⟩ := read_demand hfirst
    (Value.optionalBound fun v => liftExcess (v.display?.map some))
    (fun kind => some kind.name) rfl (fun kind => by cases kind <;> rfl)
  refine ⟨type, ?_, by simpa using hiff⟩
  rw [declaredType, ← Dict.firstGiven?_singleton]
  exact htype

theorem length_entries (demand : Int → Demand)
    (hdemand : ∀ d : Demand, d.subject = a ↔ ∃ n, demand n = d)
    (hvalue : ∀ n, (demand n).value = .int n) :
    ∃ bound, Value.optionalBound Value.length? (entries.firstGiven? a.spellings) = .ok bound ∧
      ∀ n, bound = some n ↔ demand n ∈ asked := by
  obtain ⟨bound, hbound, hiff⟩ := read_demand (firstGiven?_demand hentries hdistinct hdemand)
    (Value.optionalBound Value.length?) some rfl fun n => by rw [hvalue]; rfl
  exact ⟨bound, hbound, by simpa using hiff⟩

theorem limit_entries (demand : (x : Double) → x.isFinite = true → Demand)
    (hdemand : ∀ d : Demand, d.subject = a ↔ ∃ x finite, demand x finite = d)
    (hvalue : ∀ x finite, (demand x finite).value = .float x) :
    ∃ bound, Value.optionalBound Value.limit? (entries.firstGiven? a.spellings) = .ok bound ∧
      ∀ y, bound = some y ↔ ∃ x finite, demand x finite ∈ asked ∧ x.toNumeric? = some y := by
  have hdemand' (d : Demand) : d.subject = a ↔
      ∃ x : {x : Double // x.isFinite = true}, demand x.1 x.2 = d := by
    rw [hdemand, Subtype.exists]
  obtain ⟨bound, hbound, hiff⟩ := read_demand (firstGiven?_demand hentries hdistinct hdemand')
    (Value.optionalBound Value.limit?) (fun x => x.1.toNumeric?) rfl fun x => by rw [hvalue]; rfl
  exact ⟨bound, hbound, by simpa using hiff⟩

theorem pattern_entries (p : PatternSpec) : (entries.getD "pattern").patternSpec? = some p ↔
    ∃ source whole, .pattern source whole ∈ asked ∧ PatternSpec.source source = p := by
  have hdemand (d : Demand) : d.subject = .pattern ↔
      ∃ source : {s : String // IsArgument s}, .pattern source.1 source.2 = d := by
    cases d <;> simp [Demand.subject, *]
  have hread (source : {s : String // IsArgument s}) :
      Value.patternSpec? (.text source.1) = some (.source source.1) := by
    have hne : source.1.isEmpty = false := by simpa using source.2.not_empty
    simp [Value.patternSpec?, hne]
  obtain ⟨pattern, hpattern, hiff⟩ := read_demand (firstGiven?_demand hentries hdistinct hdemand)
    (fun v => .ok (v.getD .null).patternSpec?) (fun source => some (.source source.1)) rfl
    fun source => congrArg Except.ok (hread source)
  have hpattern' : ((entries.firstGiven? ["pattern"]).getD .null).patternSpec? = pattern :=
    Except.ok.inj hpattern
  rw [Dict.getD_eq, hpattern', hiff]
  simp

/-- **A mapping with an entry for each demand states them all**, if they are about different
subjects. -/
theorem states_ofDict : ∃ q, ofDict entries = .ok q ∧ States q asked := by
  obtain ⟨type, htype, htypeIff⟩ := type_entries hentries hdistinct
  obtain ⟨min, hmin, hminIff⟩ := length_entries (a := .min) hentries hdistinct .min
    (fun d => by cases d <;> simp [Demand.subject]) fun _ => rfl
  obtain ⟨max, hmax, hmaxIff⟩ := length_entries (a := .max) hentries hdistinct .max
    (fun d => by cases d <;> simp [Demand.subject]) fun _ => rfl
  obtain ⟨minValue, hminValue, hminValueIff⟩ := limit_entries (a := .minValue) hentries hdistinct
    .minValue (fun d => by cases d <;> simp [Demand.subject, *]) fun _ _ => rfl
  obtain ⟨maxValue, hmaxValue, hmaxValueIff⟩ := limit_entries (a := .maxValue) hentries hdistinct
    .maxValue (fun d => by cases d <;> simp [Demand.subject, *]) fun _ _ => rfl
  have hungiven (a : Attribute) (ha : a ∉ Demand.subjects) :
      ∀ key ∈ a.spellings, entries.given? key = none :=
    fun key hkey => given?_of_not_subject hentries ha hkey
  have hformat (kind : Demand.Kind) (hnone : entries.given? kind.name = none) :
      formatOf entries kind.name type = true ↔ .type kind ∈ asked := by
    have hname (k : Demand.Kind) : k.name = kind.name ↔ k = kind := by
      cases k <;> cases kind <;> decide
    rw [formatOf, getD_of_not_given hnone]
    simp [Value.truthy, htypeIff, hname]
  simp only [ofDict, bind_eq_ok]
  refine ⟨_, ⟨type, htype, min, hmin, max, hmax, minValue, hminValue, maxValue, hmaxValue, rfl⟩, ?_⟩
  constructor
  case required => exact required_entries hentries hdistinct
  case type => exact htypeIff
  case min => exact hminIff
  case max => exact hmaxIff
  case minValue => exact hminValueIff
  case maxValue => exact hmaxValueIff
  case pattern => exact pattern_entries hentries hdistinct
  case email => exact hformat .email (hungiven .email (by decide) _ (.head _))
  case url => exact hformat .url (hungiven .url (by decide) _ (.head _))
  case number => exact hformat .number (hungiven .number (by decide) _ (.head _))
  case beyondDemands =>
    have hnull (a : Attribute) (ha : a ∉ Demand.subjects) (key : String)
        (hkey : key ∈ a.spellings) : entries.getD key = .null :=
      getD_of_not_given (hungiven a ha key hkey)
    have hclass : entries.firstGiven? Attribute.className.spellings = none :=
      List.findSome?_eq_none_iff.mpr (hungiven .className (by decide))
    simp [beyondDemands, Rule.empty, hclass, without_knownKeys hentries,
      hungiven .label (by decide) "label" (.head _), hungiven .hint (by decide) "hint" (.head _),
      hungiven .placeholder (by decide) "placeholder" (.head _),
      hungiven .id (by decide) "id" (.head _), hnull .validate (by decide) "validate" (.head _),
      hnull .attrs (by decide) "attrs" (.head _), hnull .ui (by decide) "ui" (.head _),
      Value.function?, Value.dict?, Value.presentation?]

end Entries

/-! ## Both forms -/

/-- **Both forms of a rule mean the same.** A text that makes demands about different subjects, in
any layout, and a mapping that holds the same demands, in any order, give the same rule, which
states these demands and no others; a pattern comes back as it was written, colons included. -/
theorem normalize_forms {text : String} {pieces : List (List Char)} {stated : List Demand}
    (hdistinct : (asked.map Demand.subject).Nodup) (htells : Tells pieces asked)
    (htext : Text.Joined isSeparator pieces text.toList) (hstated : stated.Perm asked)
    (hentries : List.Forall₂ Demand.IsEntry stated entries) :
    ∃ r q, (normalize (.text text)).outcome = .ok r ∧ (normalize (.dict entries)).outcome = .ok q ∧
      r.same q = true ∧ r.States asked ∧
      ∀ source whole, .pattern source whole ∈ asked → r.pattern = some (.source source) := by
  have hsplit : splitTokens text.toList = (pieces.map Text.trim).filter (!·.isEmpty) := by
    rw [splitTokens, Text.splitOn_joined htext htells.not_separator]
  obtain ⟨r, hr, hrstates⟩ := htells.states states_empty hdistinct
  have hstated' : (stated.map Demand.subject).Nodup := (hstated.map _).nodup_iff.mpr hdistinct
  obtain ⟨q, hq, hqstates⟩ := states_ofDict hentries hstated'
  have hrstates' := hrstates.withProvided r.explicit
  refine ⟨{ r with provided := r.explicit }, q, ?_, ?_, ?_, hrstates', ?_⟩
  · rw [outcome_normalize_text, ofText, Traced.outcome_bind, hsplit, hr]
    rfl
  · rw [outcome_normalize_dict, hq]
  · exact hrstates'.same (hqstates.congr fun d => hstated.mem_iff)
  · intro source whole hmem
    exact (hrstates'.pattern _).mpr ⟨source, whole, hmem, rfl⟩

/-- Two and a half. -/
def halfLimit : Double :=
  .ofRatio false 5 2

theorem isFinite_halfLimit : halfLimit.isFinite = true := by
  decide +kernel

theorem asText_halfLimit : Value.asText (.float halfLimit) = "2.5" := by
  decide +kernel

theorem isArgument_clock : IsArgument "^\\d:\\d{2}::$" where
  not_empty := by decide
  trimmed := by decide
  not_separator := by simp [isSeparator]

/-- Both forms of a rule for a clock. -/
def clockDemands : List Demand :=
  [.required, .type .number, .minValue halfLimit isFinite_halfLimit,
    .pattern "^\\d:\\d{2}::$" isArgument_clock, .max 10]

def clockText : String :=
  " required ,,numeric\t|bogus:1| min_value : 2.5 ,pattern: ^\\d:\\d{2}::$|max:10"

def clockEntries : Dict :=
  [(.text "maxLength", .int 10), (.text "pattern", .text "^\\d:\\d{2}::$"),
    (.text "minValue", .float halfLimit), (.text "type", .text "number"),
    (.text "required", .bool true)]

theorem normalize_forms_clock : ∃ r q,
    (normalize (.text clockText)).outcome = .ok r ∧
    (normalize (.dict clockEntries)).outcome = .ok q ∧ r.same q = true ∧
    r.pattern = some (.source "^\\d:\\d{2}::$") := by
  have hdistinct : (clockDemands.map Demand.subject).Nodup := by decide
  have hlimit : Value.asText? (.float halfLimit) = .ok "2.5" :=
    asText?_eq_ok.mpr ⟨rfl, asText_halfLimit⟩
  have hlength : Value.asText? (.int 10) = .ok "10" := asText?_eq_ok.mpr ⟨rfl, rfl⟩
  have hblank : Text.IsBlank [' '] := by decide
  have hnone : Text.IsBlank [] := by decide
  have hrequired : Demand.required.Says ([' '] ++ "required".toList ++ [' ']) :=
    .bare _ _ _ (.head _) rfl hblank hblank
  have hempty : SaysNothing [] := ⟨by decide, by simp⟩
  have hnumber : (Demand.type .number).Says ([] ++ "numeric".toList ++ ['\t']) :=
    .bare _ _ _ (.tail _ (.head _)) rfl hnone (by decide)
  have hunknown : SaysNothing "bogus:1".toList := ⟨by decide, by simp [isSeparator]⟩
  have hminValue : (Demand.minValue halfLimit isFinite_halfLimit).Says
      ([' '] ++ "min_value".toList ++ [' '] ++ ':' :: ([' '] ++ "2.5".toList ++ [' '])) :=
    .carrying _ _ _ _ _ _ (.tail _ (.head _)) rfl hlimit hblank hblank hblank hblank
  have hpattern : (Demand.pattern _ isArgument_clock).Says ([] ++ "pattern".toList ++ [] ++
      ':' :: ([' '] ++ "^\\d:\\d{2}::$".toList ++ [])) :=
    .carrying _ _ _ _ _ _ (.head _) rfl rfl hnone hnone hblank hnone
  have hmax : (Demand.max 10).Says ([] ++ "max".toList ++ [] ++ ':' :: ([] ++ "10".toList ++ [])) :=
    .carrying _ _ _ _ _ _ (.head _) rfl hlength hnone hnone hnone hnone
  have htells : Tells _ clockDemands :=
    .demand hrequired (.nothing hempty (.demand hnumber (.nothing hunknown
      (.demand hminValue (.demand hpattern (.demand hmax .nil))))))
  have hchars : [' '] ++ "required".toList ++ [' '] ++ ',' :: ([] ++ ',' ::
      ([] ++ "numeric".toList ++ ['\t'] ++ '|' :: ("bogus:1".toList ++ '|' ::
      ([' '] ++ "min_value".toList ++ [' '] ++ ':' :: ([' '] ++ "2.5".toList ++ [' ']) ++ ',' ::
      ([] ++ "pattern".toList ++ [] ++ ':' :: ([' '] ++ "^\\d:\\d{2}::$".toList ++ []) ++ '|' ::
      ([] ++ "max".toList ++ [] ++ ':' :: ([] ++ "10".toList ++ []))))))) = clockText.toList := by
    decide
  have hentries : List.Forall₂ Demand.IsEntry clockDemands.reverse clockEntries :=
    .cons ⟨_, .tail _ (.head _), rfl⟩ (.cons ⟨_, .head _, rfl⟩ (.cons ⟨_, .head _, rfl⟩
      (.cons ⟨_, .head _, rfl⟩ (.cons ⟨_, .head _, rfl⟩ .nil))))
  have hforms (htext) :=
    @normalize_forms _ _ clockText _ _ hdistinct htells htext (List.reverse_perm _) hentries
  rw [← hchars] at hforms
  obtain ⟨r, q, hr, hq, hsame, -, hsource⟩ := hforms (.cons _ rfl (.cons _ rfl (.cons _ rfl
    (.cons _ rfl (.cons _ rfl (.cons _ rfl (.last _)))))))
  exact ⟨r, q, hr, hq, hsame, hsource _ isArgument_clock (by simp [clockDemands])⟩

end FieldRules.Rule
