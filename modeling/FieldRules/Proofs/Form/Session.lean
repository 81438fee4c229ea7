import FieldRules.Form.Submit
import Mathlib.Logic.Basic

/-!
# Proofs — Session

What happens on a page over time: the rules and the error class of its form change, and values are
submitted, again and again, on one surface. A run is any list of such events; its cycles are the
attempts to submit, each on the page as it stands at that moment. `ends_attempt` says once how an
attempt can end; what holds of every cycle is read off there.
-/

namespace FieldRules

/-! ## Pages -/

/-- A form and the surface that shows it. No field has two rules. -/
structure Page where
  form : Form
  surface : Surface
  distinct : (Named.names form.rules).Nodup

/-- What comes from outside in one attempt to submit: who drives it, what the custom validators
say, the values that are read, and what comes of a request. -/
structure Submission where
  coordinator : Coordinator
  validators : Validators
  values : Value
  deliver : Request → Delivery

/-- What happens on a page. -/
inductive PageEvent where
  | setRule (name : String) (raw : Value)
  | removeRule (name : String)
  | replaceRules (rules : Named Value) (distinct : (Named.names rules).Nodup)
  | setErrorClass (cssClass : Value)
  | submit (s : Submission)

/-- One attempt to submit, on the page as it stands. -/
structure Cycle where
  page : Page
  submission : Submission

namespace Cycle

/-- The request that is sent, if one is sent. -/
def request (k : Cycle) : Request :=
  ⟨k.submission.coordinator.action, k.submission.coordinator.method, k.submission.values⟩

/-- The validation of the values by the rules of the moment. -/
def validation (k : Cycle) : Traced Validation :=
  k.page.form.validate k.submission.validators k.submission.values

def attempt (k : Cycle) : Attempt :=
  k.submission.coordinator.handleSubmit k.submission.validators k.page.form k.page.surface
    k.submission.values k.submission.deliver

end Cycle

namespace Page

/-- The page after an event. -/
def step (page : Page) : PageEvent → Page
  | .setRule name raw =>
    ⟨page.form.setRule name raw, page.surface, Named.nodup_put name raw page.distinct⟩
  | .removeRule name =>
    ⟨page.form.removeRule name, page.surface, Named.nodup_erase name page.distinct⟩
  | .replaceRules rules distinct => ⟨{ page.form with rules }, page.surface, distinct⟩
  | .setErrorClass cssClass =>
    ⟨{ page.form with inputErrorClass := cssClass }, page.surface, page.distinct⟩
  | .submit s => ⟨page.form, (Cycle.mk page s).attempt.surface, page.distinct⟩

/-- The page after a run. -/
def run (page : Page) (events : List PageEvent) : Page :=
  events.foldl step page

/-- The attempt that an event is. -/
def cycle? (page : Page) : PageEvent → Option Cycle
  | .submit s => some ⟨page, s⟩
  | _ => none

/-- The attempts of a run, in their order. -/
def cycles : Page → List PageEvent → List Cycle
  | _, [] => []
  | page, event :: rest => (page.cycle? event).toList ++ cycles (page.step event) rest

theorem run_append (page : Page) (events more : List PageEvent) :
    page.run (events ++ more) = (page.run events).run more :=
  List.foldl_append

theorem run_cons (page : Page) (event : PageEvent) (rest : List PageEvent) :
    page.run (event :: rest) = (page.step event).run rest :=
  rfl

/-- What happens between attempts leaves the surface alone. -/
theorem surface_run {page : Page} {events : List PageEvent} (h : page.cycles events = []) :
    (page.run events).surface = page.surface := by
  induction events generalizing page with
  | nil => rfl
  | cons event rest ih =>
      obtain ⟨hevent, hrest⟩ := List.append_eq_nil_iff.mp h
      rw [run_cons, ih hrest]
      cases event with
      | submit s => cases hevent
      | _ => rfl

end Page

/-! ## The end of an attempt -/

/-- How an attempt ends. An attempt that paints ends with its outcome only if every message can be
painted. -/
inductive Cycle.Ends (k : Cycle) (a : Attempt) : Prop
  /-- There is no verdict on the values. -/
  | unvalidated (fault : Fault) (hvalidation : k.validation.outcome = .error fault)
      (hsent : a.sent = []) (hsurface : a.surface = k.page.surface.clear)
      (hresult : a.result.outcome = .error fault)
  /-- The values are not valid. -/
  | invalid (v : Validation) (hvalidation : k.validation.outcome = .ok v)
      (hdetails : v.details ≠ []) (hsent : a.sent = [])
      (hsurface : a.surface =
        (k.page.surface.clear.paint k.page.form.inputErrorClass v.errors).1)
      (hresult : a.result.outcome =
        (k.page.surface.clear.paint k.page.form.inputErrorClass v.errors).2.map
          fun _ => { status := .invalid, errors := v.errors })
  /-- The values are valid, and cannot be delivered. -/
  | failed (v : Validation) (hvalidation : k.validation.outcome = .ok v)
      (hdetails : v.details = []) (exception : String)
      (hdelivery : k.submission.deliver k.request = .raised exception)
      (hsent : a.sent = [k.request]) (hsurface : a.surface = k.page.surface.clear)
      (hresult : a.result.outcome = .ok { status := .failed, exception := some exception })
  /-- The values are valid, and the receiver takes them. -/
  | submitted (v : Validation) (hvalidation : k.validation.outcome = .ok v)
      (hdetails : v.details = []) (response : Response)
      (hdelivery : k.submission.deliver k.request = .answered response)
      (hok : response.ok.truthy = true)
      (hsent : a.sent = [k.request]) (hsurface : a.surface = k.page.surface.clear)
      (hresult : a.result.outcome = .ok { status := .submitted, response := some response })
  /-- The values are valid, the receiver refuses them, and its answer cannot be read. -/
  | unreadable (v : Validation) (hvalidation : k.validation.outcome = .ok v)
      (hdetails : v.details = []) (response : Response)
      (hdelivery : k.submission.deliver k.request = .answered response)
      (hok : response.ok.truthy = false) (fault : Fault)
      (herrors : Coordinator.serverErrors response.body = .error fault)
      (hsent : a.sent = [k.request]) (hsurface : a.surface = k.page.surface.clear)
      (hresult : a.result.outcome = .error fault)
  /-- The values are valid, and the receiver refuses them with errors. -/
  | rejected (v : Validation) (hvalidation : k.validation.outcome = .ok v)
      (hdetails : v.details = []) (response : Response)
      (hdelivery : k.submission.deliver k.request = .answered response)
      (hok : response.ok.truthy = false) (errors : Named Value)
      (herrors : Coordinator.serverErrors response.body = .ok errors)
      (hsent : a.sent = [k.request])
      (hsurface : a.surface =
        (k.page.surface.clear.paint k.page.form.inputErrorClass errors).1)
      (hresult : a.result.outcome =
        (k.page.surface.clear.paint k.page.form.inputErrorClass errors).2.map
          fun _ => { status := .rejected, errors, response := some response })

theorem Validation.isValid_iff {v : Validation} : v.isValid = true ↔ v.details = [] :=
  List.isEmpty_iff

theorem Cycle.attempt_eq (k : Cycle) :
    k.attempt =
      match k.validation.outcome with
      | .error fault => ⟨k.page.surface.clear, [], ⟨k.validation.entries, .error fault⟩⟩
      | .ok v =>
        if v.isValid then
          k.submission.coordinator.afterDelivery k.page.form k.page.surface.clear k.request
            k.validation.entries (k.submission.deliver k.request)
        else
          Coordinator.painted k.page.form k.page.surface.clear [] k.validation.entries
            { status := .invalid, errors := v.errors } :=
  rfl

/-- **Every attempt ends in one of these ways.** -/
theorem Cycle.ends_attempt (k : Cycle) : k.Ends k.attempt := by
  rw [attempt_eq]
  cases hvalidation : k.validation.outcome with
  | error fault => exact .unvalidated fault hvalidation rfl rfl rfl
  | ok v =>
      dsimp only
      by_cases hvalid : v.isValid = true
      · have hdetails := Validation.isValid_iff.mp hvalid
        rw [if_pos hvalid]
        cases hdelivery : k.submission.deliver k.request with
        | raised exception =>
            exact .failed v hvalidation hdetails exception hdelivery rfl rfl rfl
        | answered response =>
            rw [Coordinator.afterDelivery]
            by_cases hok : response.ok.truthy = true
            · rw [if_pos hok]
              exact .submitted v hvalidation hdetails response hdelivery hok rfl rfl rfl
            · have hok' : response.ok.truthy = false := Bool.eq_false_iff.mpr hok
              rw [if_neg hok]
              cases herrors : Coordinator.serverErrors response.body with
              | error fault =>
                  exact .unreadable v hvalidation hdetails response hdelivery hok' fault herrors
                    rfl rfl rfl
              | ok errors =>
                  exact .rejected v hvalidation hdetails response hdelivery hok' errors herrors
                    rfl rfl rfl
      · have hdetails : v.details ≠ [] := fun h => hvalid (Validation.isValid_iff.mpr h)
        rw [if_neg hvalid]
        exact .invalid v hvalidation hdetails rfl rfl rfl

end FieldRules
