import FieldRules.Fault

/-!
# Journal — Event

What an operation leaves behind besides its result: the events it logs and
the custom functions it calls, in order. They stay when the operation ends in
a fault.
-/

namespace FieldRules

/-- How weighty an event is. -/
inductive Severity where
  | debug
  | error
deriving DecidableEq, Repr

def Severity.name : Severity → String
  | .debug => "debug"
  | .error => "error"

/-- The part of the library that logs. -/
inductive Channel where
  | validation
  | render
  | command
deriving DecidableEq, Repr

structure Event where
  name : String
  severity : Severity
  channel : Channel
  values : Named Value

/-- A call of a custom function: for which field, and with which value and record. -/
structure Call where
  field : String
  function : Handle
  value : Value
  record : Dict

/-- One trace of an operation. -/
inductive Entry where
  | event (e : Event)
  | call (c : Call)

/-- The call that an entry records. -/
def Entry.call? : Entry → Option Call
  | .event _ => none
  | .call c => some c

/-- An outcome, and the trace that led to it. -/
structure Traced (α : Type) where
  entries : List Entry
  outcome : Except Fault α

namespace Traced

variable {α β : Type}

def pure' (a : α) : Traced α := ⟨[], .ok a⟩

/-- The second operation goes on from the result of the first, if there is one. -/
def andThen (x : Traced α) (f : α → Traced β) : Traced β :=
  match x.outcome with
  | .ok a => ⟨x.entries ++ (f a).entries, (f a).outcome⟩
  | .error e => ⟨x.entries, .error e⟩

instance : Monad Traced where
  pure := pure'
  bind := andThen

/-- Ends in a fault, with no trace of its own. -/
def fault (e : Fault) : Traced α := ⟨[], .error e⟩

/-- An outcome that leaves no trace. -/
def ofExcept (r : Except Fault α) : Traced α := ⟨[], r⟩

/-- Logs an event. -/
def log (e : Event) : Traced Unit := ⟨[.event e], .ok ()⟩

/-- The events of a trace. -/
def events (x : Traced α) : List Event :=
  x.entries.filterMap fun
    | .event e => some e
    | .call _ => none

/-- The calls of a trace. -/
def callsMade (x : Traced α) : List Call :=
  x.entries.filterMap Entry.call?

/-- The calls of a trace, each as what was called on which value. -/
def calls (x : Traced α) : List (Handle × Value) :=
  x.callsMade.map fun c => (c.function, c.value)

/-! ## Small facts -/

@[simp] theorem outcome_pure (a : α) : (pure a : Traced α).outcome = .ok a := rfl

@[simp] theorem entries_pure (a : α) : (pure a : Traced α).entries = [] := rfl

@[simp] theorem outcome_ofExcept (r : Except Fault α) : (ofExcept r).outcome = r := rfl

@[simp] theorem entries_ofExcept (r : Except Fault α) : (ofExcept r).entries = [] := rfl

/-- One operation after the other, whichever way they are grouped. -/
instance : LawfulMonad Traced := by
  refine LawfulMonad.mk' Traced ?_ ?_ ?_
  · rintro α ⟨entries, outcome⟩
    show andThen ⟨entries, outcome⟩ _ = _
    cases outcome <;> simp [andThen, pure']
  · intro α β a f
    show andThen (pure' a) f = f a
    simp [andThen, pure']
  · rintro α β γ ⟨entries, outcome⟩ f g
    show andThen (andThen _ f) g = andThen _ fun a => andThen (f a) g
    cases outcome with
    | error e => rfl
    | ok a => cases h : (f a).outcome <;> simp [andThen, h]

/-- The trace does not influence the outcome. -/
theorem outcome_bind (x : Traced α) (f : α → Traced β) :
    (x >>= f).outcome = x.outcome >>= fun a => (f a).outcome := by
  show (andThen x f).outcome = _
  unfold andThen
  cases h : x.outcome <;> simp [bind, Except.bind]

/-- An operation gives a result when each of its parts does. -/
theorem outcome_bind_eq_ok {x : Traced α} {f : α → Traced β} {b : β} :
    (x >>= f).outcome = .ok b ↔ ∃ a, x.outcome = .ok a ∧ (f a).outcome = .ok b := by
  rw [outcome_bind, bind_eq_ok]

/-! ## Changing the result -/

theorem map_of_ok (f : α → β) (entries : List Entry) (a : α) :
    f <$> (⟨entries, .ok a⟩ : Traced α) = ⟨entries, .ok (f a)⟩ := by
  rw [map_eq_pure_bind]
  show (⟨entries ++ [], .ok (f a)⟩ : Traced β) = _
  rw [List.append_nil]

theorem entries_map (f : α → β) (x : Traced α) : (f <$> x).entries = x.entries := by
  obtain ⟨entries, outcome⟩ := x
  cases outcome with
  | error e => rfl
  | ok a => rw [map_of_ok]

theorem outcome_map (f : α → β) (x : Traced α) : (f <$> x).outcome = x.outcome.map f := by
  obtain ⟨entries, outcome⟩ := x
  cases outcome with
  | error e => rfl
  | ok a =>
      rw [map_of_ok]
      rfl

theorem map_ofExcept (f : α → β) (x : Except Fault α) :
    f <$> ofExcept x = ofExcept (x.map f) := by
  cases x <;> rfl

theorem map_eq_self {x : Traced α} {f : α → α} (h : ∀ a, x.outcome = .ok a → f a = a) :
    f <$> x = x := by
  obtain ⟨entries, outcome⟩ := x
  cases outcome with
  | error e => rfl
  | ok a => rw [map_of_ok, h a rfl]

/-- Operations that are the same up to what a function keeps of their results leave the same trace
and end in the same faults. -/
theorem of_map_eq {x y : Traced α} {f : α → β} (h : f <$> x = f <$> y) :
    x.entries = y.entries ∧ (∀ e, x.outcome = .error e ↔ y.outcome = .error e) ∧
      ∀ a, x.outcome = .ok a → ∃ b, y.outcome = .ok b ∧ f a = f b := by
  have hentries := congrArg entries h
  have houtcome := congrArg outcome h
  rw [entries_map, entries_map] at hentries
  rw [outcome_map, outcome_map] at houtcome
  refine ⟨hentries, ?_⟩
  cases hx : x.outcome <;> cases hy : y.outcome <;> simp_all [Except.map]

end Traced
end FieldRules
