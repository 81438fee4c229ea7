import FieldRules.Journal.Event
import FieldRules.Rule.Bound

/-!
# Proofs — Failing

In which faults an operation can end. `FailsWith P x` bounds them from above: whatever fault `x`
ends in satisfies `P`. An operation made of others fails with what its parts fail with, each part
being looked at only on results of the ones before it.
-/

namespace FieldRules

variable {α β : Type} {P Q : Fault → Prop} {x : Except Fault α} {f : α → Except Fault β}

/-- An operation that has a result ends with it. -/
theorem exists_ok {ε : Type} {x : Except ε α} (h : x.toOption.isSome = true) : ∃ a, x = .ok a := by
  cases x with
  | error e => cases h
  | ok a => exact ⟨a, rfl⟩

/-- Two operations end in a fault when the first does, or the second on the result of the first. -/
theorem bind_eq_error {e : Fault} :
    x >>= f = .error e ↔ x = .error e ∨ ∃ a, x = .ok a ∧ f a = .error e := by
  cases x <;> simp [bind, Except.bind]

theorem Traced.outcome_bind_eq_error {x : Traced α} {f : α → Traced β} {e : Fault} :
    (x >>= f).outcome = .error e ↔
      x.outcome = .error e ∨ ∃ a, x.outcome = .ok a ∧ (f a).outcome = .error e := by
  rw [outcome_bind, bind_eq_error]

/-- Whatever fault the operation ends in satisfies `P`. -/
def FailsWith (P : Fault → Prop) (x : Except Fault α) : Prop :=
  ∀ e, x = .error e → P e

namespace FailsWith

theorem ok (a : α) : FailsWith P (.ok a : Except Fault α) := nofun

theorem error {e : Fault} (h : P e) : FailsWith P (.error e : Except Fault α) := by
  intro e' he
  rwa [← Except.error.inj he]

theorem mono (h : FailsWith P x) (hPQ : ∀ e, P e → Q e) : FailsWith Q x :=
  fun e he => hPQ e (h e he)

/-- The second operation is looked at on the results of the first. -/
theorem bind (hx : FailsWith P x) (hf : ∀ a, x = .ok a → FailsWith P (f a)) :
    FailsWith P (x >>= f) := by
  cases x with
  | error e => exact error (hx e rfl)
  | ok a => exact hf a rfl

theorem outcome_bind {x : Traced α} {f : α → Traced β} (hx : FailsWith P x.outcome)
    (hf : ∀ a, x.outcome = .ok a → FailsWith P (f a).outcome) :
    FailsWith P (x >>= f).outcome := by
  rw [Traced.outcome_bind]
  exact bind hx hf

end FailsWith

/-! ## Excess -/

theorem FailsWith.requireWritable {writable : Bool} (h : P (.excess .writing)) :
    FailsWith P (requireWritable writable) := by
  cases writable with
  | false => exact .error h
  | true => exact .ok ()

theorem FailsWith.liftExcess {x : Except Number.Excess α} (h : ∀ e, x = .error e → P (.excess e)) :
    FailsWith P (liftExcess x) := by
  cases x with
  | error e => exact .error (h e rfl)
  | ok a => exact .ok a

/-- A number is too large or too long. -/
inductive Fault.IsExcess : Fault → Prop
  | intro (e : Number.Excess) : IsExcess (.excess e)

theorem failsWith_liftExcess (x : Except Number.Excess α) :
    FailsWith Fault.IsExcess (liftExcess x) :=
  .liftExcess fun e _ => .intro e

end FieldRules
