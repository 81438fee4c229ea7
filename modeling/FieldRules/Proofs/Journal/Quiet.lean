import FieldRules.Form.Generate
import FieldRules.Validation.Record

/-!
# Proofs — Quiet

What is logged only for those who look for it. Rules, forms and markup log nothing that is weightier
than a debug event; a validation does so only for a custom validator that fails to decide
(`Validation.isQuiet_run`).
-/

namespace FieldRules

namespace Traced

variable {α β : Type}

/-- Nothing is logged but debug events. -/
def IsQuiet (x : Traced α) : Prop :=
  ∀ e ∈ x.events, e.severity = .debug

namespace IsQuiet

theorem of_entries_eq_nil {x : Traced α} (h : x.entries = []) : x.IsQuiet := by
  rw [IsQuiet, events, h]
  exact nofun

theorem pure (a : α) : IsQuiet (Pure.pure a : Traced α) := of_entries_eq_nil rfl

theorem ofExcept (r : Except Fault α) : (Traced.ofExcept r).IsQuiet := of_entries_eq_nil rfl

theorem log {e : Event} (h : e.severity = .debug) : (Traced.log e).IsQuiet :=
  List.forall_mem_singleton.mpr h

theorem bind {x : Traced α} {f : α → Traced β} (hx : x.IsQuiet) (hf : ∀ a, (f a).IsQuiet) :
    (x >>= f).IsQuiet := by
  obtain ⟨entries, outcome⟩ := x
  cases outcome with
  | error e => exact hx
  | ok a =>
      intro e he
      have hsplit : (⟨entries, .ok a⟩ >>= f : Traced β).events =
          (⟨entries, .ok a⟩ : Traced α).events ++ (f a).events :=
        List.filterMap_append
      rw [hsplit, List.mem_append] at he
      exact he.elim (hx e) (hf a e)

end IsQuiet
end Traced

open Traced (IsQuiet)

/-! ## Rules -/

namespace Rule

theorem isQuiet_applyTokens (tokens : List (List Char)) (r : Rule) :
    (applyTokens tokens r).IsQuiet := by
  induction tokens generalizing r with
  | nil => exact .pure r
  | cons cs rest ih =>
      refine .bind (.ofExcept _) fun token => ?_
      cases token with
      | ignored text => exact .bind (.log rfl) fun _ => ih _
      | _ => exact ih _

theorem isQuiet_normalize (raw : Value) : (normalize raw).IsQuiet := by
  unfold normalize
  split
  · split
    · exact .pure _
    · exact .ofExcept _
    · exact .bind (isQuiet_applyTokens _ _) fun _ => .pure _
    · exact .pure _
  · exact .pure _

end Rule

/-! ## Validations -/

theorem Prepared.isQuiet_make (key raw : Value) : (make key raw).IsQuiet :=
  .bind (Rule.isQuiet_normalize raw) fun _ => .bind (.ofExcept _) fun _ => .pure _

theorem Prepared.isQuiet_all (entries : Rules) : (all entries).IsQuiet := by
  induction entries with
  | nil => exact .pure []
  | cons entry rest ih => exact .bind (isQuiet_make _ _) fun _ => .bind ih fun _ => .pure _

/-- **A validation is quiet where every custom validator decides.** -/
theorem Validation.isQuiet_run {validators : Validators}
    (hdecide : ∀ f value record, ∃ v, (validators f).verdict value record = .returned v)
    (data : Value) (prepared : List Prepared) : (run validators data prepared).IsQuiet := by
  have hfailure (record : Dict) (r : Running) : r.failure? validators record = none := by
    unfold Running.failure?
    split
    · rfl
    · next f value _ =>
        obtain ⟨v, hv⟩ := hdecide f value record
        rw [hv]
  have hcall (record : Dict) (r : Running) :
      r.started validators record = (r.call? record).toList.map .call := by
    simp [Running.started, hfailure]
  have hresumed (record : Dict) (r : Running) : r.resumed validators record = [] := by
    simp [Running.resumed, hfailure]
  intro e he
  rw [run] at he
  generalize startAll data prepared = started at he
  obtain ⟨running, fault⟩ := started
  cases fault with
  | some fault =>
      simp only [Traced.events, hcall, List.mem_filterMap, List.mem_flatMap, List.mem_map] at he
      obtain ⟨_, ⟨r, -, c, -, rfl⟩, hevent⟩ := he
      cases hevent
  | none =>
      simp only [Traced.events, hcall, hresumed, List.mem_filterMap, List.mem_append,
        List.mem_flatMap, List.mem_map, List.mem_singleton] at he
      obtain ⟨_, (⟨r, -, c, -, rfl⟩ | ⟨r, -, hnone⟩) | rfl, hevent⟩ := he
      · cases hevent
      · cases hnone
      · exact Option.some.inj hevent ▸ rfl

theorem isQuiet_validate {validators : Validators}
    (hdecide : ∀ f value record, ∃ v, (validators f).verdict value record = .returned v)
    (data rules : Value) : (validate validators data rules).IsQuiet :=
  .bind (.ofExcept _) fun _ => .bind (Prepared.isQuiet_all _) fun _ =>
    Validation.isQuiet_run hdecide data _

/-! ## Forms -/

namespace Markup

theorem isQuiet_renderFields (kit : Toolkit) (o : RenderOptions) (fields : Named Value) :
    (renderFields kit o fields).IsQuiet := by
  induction fields with
  | nil => exact .pure []
  | cons f rest ih =>
      exact .bind (Rule.isQuiet_normalize _) fun _ => .bind (.ofExcept _) fun _ =>
        .bind ih fun _ => .pure _

theorem isQuiet_renderForm (kit : Toolkit) (fields : Named Value) (o : RenderOptions) :
    (renderForm kit fields o).IsQuiet :=
  .bind (.ofExcept _) fun _ => .bind (isQuiet_renderFields kit o fields) fun _ =>
    .bind (.ofExcept _) fun _ => .pure _

theorem Plain.isQuiet_renderFields (o : RenderOptions) (fields : Named Value) :
    (Plain.renderFields o fields).IsQuiet := by
  induction fields with
  | nil => exact .pure []
  | cons f rest ih =>
      exact .bind (Rule.isQuiet_normalize _) fun _ => .bind (.ofExcept _) fun _ =>
        .bind ih fun _ => .pure _

theorem Plain.isQuiet_renderForm (fields : Named Value) (o : RenderOptions) :
    (Plain.renderForm fields o).IsQuiet :=
  .bind (Plain.isQuiet_renderFields o fields) fun _ => .pure _

end Markup

namespace Builder

theorem isQuiet_fieldRule (entry : Dict) : (fieldRule entry).IsQuiet :=
  .bind (.ofExcept _) fun _ => .bind (Rule.isQuiet_normalize _) fun _ => .pure _

theorem isQuiet_addEntry (draft : Draft) (entry : Value) : (addEntry draft entry).IsQuiet := by
  unfold addEntry
  split
  · split
    · exact .bind (.ofExcept _) fun _ => .pure _
    · dsimp only
      split
      · exact .bind (isQuiet_fieldRule _) fun _ => .bind (.ofExcept _) fun _ =>
          .bind (.ofExcept _) fun _ => .pure _
      · exact .pure _
  · exact .pure _

theorem isQuiet_addEntries (draft : Draft) (entries : List Value) :
    (addEntries draft entries).IsQuiet := by
  induction entries generalizing draft with
  | nil => exact .pure draft
  | cons entry rest ih => exact .bind (isQuiet_addEntry draft entry) fun _ => ih _

theorem isQuiet_build (config : Value) (options : Except Fault RenderOptions) :
    (build config options).IsQuiet :=
  .bind (.ofExcept _) fun _ => .bind (.ofExcept _) fun _ => isQuiet_addEntries _ _

theorem isQuiet_generate (config : Value) (kit : Markup.Toolkit)
    (options : Except Fault RenderOptions) :
    (generate config (some (Adapter.markup kit)) options).IsQuiet :=
  .bind (.ofExcept _) fun _ => .bind (isQuiet_build _ _) fun _ => .bind (.log rfl) fun _ =>
    .bind (Markup.isQuiet_renderForm _ _ _) fun _ => .pure _

end Builder
end FieldRules
