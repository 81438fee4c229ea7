import FieldRules.Proofs.Form.Painting

/-!
# Proofs — Sending

What is sent in a run, and what its attempts report. A request goes out exactly when the values
are valid by the rules of the moment, and it carries these values (`Cycle.accounted`); the requests
of a whole run are those of its attempts with valid values, in their order. The status of an
attempt is that of what came of the request, and once a request is sent there is an outcome, unless
the receiver refuses the values in an answer that cannot be read.
-/

namespace FieldRules

/-! ## Answers that can be read -/

/-- The errors of the answer can be read: its body is a mapping, and if it holds errors by field,
their keys and values can be written. -/
def Response.IsReadable (r : Response) : Prop :=
  ∃ d, r.body = .dict d ∧ ∀ errors, Dict.get? d "errors" = some (.dict errors) →
    ∀ e ∈ errors, e.1.isWritable = true ∧ e.2.isWritable = true

theorem Response.isReadable_iff {r : Response} :
    r.IsReadable ↔ ∃ errors, Coordinator.serverErrors r.body = .ok errors := by
  constructor
  · rintro ⟨d, hbody, hwritable⟩
    rw [hbody, Coordinator.serverErrors]
    split
    · next errors hfound => exact Coordinator.exists_errorTexts.mpr (hwritable errors hfound)
    · exact ⟨[], rfl⟩
  · rintro ⟨found, h⟩
    unfold Coordinator.serverErrors at h
    split at h
    · next d hbody =>
        refine ⟨d, hbody, fun errors hfound => ?_⟩
        rw [hfound] at h
        exact Coordinator.exists_errorTexts.mp ⟨found, h⟩
    · cases h

/-- What comes of a request can be read: only the errors of a refusal have to be. -/
def Delivery.IsReadable : Delivery → Prop
  | .raised _ => True
  | .answered r => r.ok.truthy = true ∨ r.IsReadable

/-! ## Where requests go -/

namespace Coordinator

/-- What is given and not empty, and otherwise the default. -/
def orDefault (given : Option String) (default : String) : String :=
  match given with
  | some s => if s.isEmpty then default else s
  | none => default

variable {deployment : Deployment} {settings : Settings}

theorem orSetting_ok (h : deployment.settings = .ok settings) (given : Option String)
    (setting : Settings → String) :
    orSetting deployment given setting = .ok (orDefault given (setting settings)) := by
  cases given with
  | none =>
      rw [orSetting, h]
      rfl
  | some s =>
      unfold orSetting orDefault
      by_cases hs : s.isEmpty = true
      · simp only [hs, if_true, h]
        rfl
      · simp only [hs, Bool.false_eq_true, if_false]

/-- A coordinator has the action and the method that it is given, or those of the settings. -/
theorem make_ok (h : deployment.settings = .ok settings) (action method : Option String) :
    make deployment action method =
      .ok ⟨orDefault action settings.formAction, orDefault method settings.formMethod⟩ := by
  rw [make, orSetting_ok h, orSetting_ok h]
  rfl

end Coordinator

/-! ## Attempts -/

namespace Cycle

/-- The values are valid by the rules of the moment. -/
def isValid (k : Cycle) : Bool :=
  match k.validation.outcome with
  | .ok v => v.isValid
  | .error _ => false

/-- The request is sent, and this comes of it. -/
def Receives (k : Cycle) (d : Delivery) : Prop :=
  k.attempt.sent = [k.request] ∧ k.submission.deliver k.request = d

/-- The attempt ends with an outcome. -/
def Returns (k : Cycle) : Prop :=
  ∃ o, k.attempt.result.outcome = .ok o

/-- The status says what came of the attempt: nothing was sent, or the request ended in one of three
ways. -/
structure HasStatus (k : Cycle) (status : SubmitStatus) : Prop where
  invalid : status = .invalid ↔ k.attempt.sent = []
  failed : status = .failed ↔ ∃ exception, k.Receives (.raised exception)
  submitted : status = .submitted ↔ ∃ r, k.Receives (.answered r) ∧ r.ok.truthy = true
  rejected : status = .rejected ↔ ∃ r, k.Receives (.answered r) ∧ r.ok.truthy = false

/-- What an attempt sends and what it reports belong together. -/
structure Accounted (k : Cycle) : Prop where
  /-- Valid values are sent once, and others never. -/
  sent : k.attempt.sent = if k.isValid then [k.request] else []
  /-- Where there is no verdict on the values, nothing is sent. -/
  unvalidated : ∀ fault, k.validation.outcome = .error fault →
    k.attempt.sent = [] ∧ k.attempt.result.outcome = .error fault
  status : ∀ o, k.attempt.result.outcome = .ok o → k.HasStatus o.status
  /-- Where the request is sent, an outcome comes of it when it can be read. -/
  returns : ∀ d, k.Receives d → (k.Returns ↔ d.IsReadable)

theorem isValid_of_ok {k : Cycle} {v : Validation} (h : k.validation.outcome = .ok v) :
    k.isValid = v.isValid := by
  rw [isValid, h]

theorem isValid_of_error {k : Cycle} {fault : Fault} (h : k.validation.outcome = .error fault) :
    k.isValid = false := by
  rw [isValid, h]

theorem isValid_iff {k : Cycle} :
    k.isValid = true ↔ ∃ v, k.validation.outcome = .ok v ∧ v.details = [] := by
  cases h : k.validation.outcome with
  | error fault => simp [isValid_of_error h]
  | ok v => simp [isValid_of_ok h, Validation.isValid_iff]

/-- What comes of a request that is sent is what its delivery gives. -/
theorem receives_iff {k : Cycle} {d e : Delivery} (hsent : k.attempt.sent = [k.request])
    (hdelivery : k.submission.deliver k.request = d) : k.Receives e ↔ d = e := by
  rw [Receives, hdelivery]
  exact and_iff_right hsent

theorem not_receives {k : Cycle} {e : Delivery} (hsent : k.attempt.sent = []) :
    ¬ k.Receives e := by
  rintro ⟨hrequest, -⟩
  rw [hsent] at hrequest
  cases hrequest

theorem not_returns {k : Cycle} {fault : Fault} (h : k.attempt.result.outcome = .error fault) :
    ¬ k.Returns := by
  rintro ⟨o, h'⟩
  rw [h] at h'
  cases h'

theorem hasStatus_of_ok {k : Cycle} {o o' : SubmitOutcome}
    (h : k.attempt.result.outcome = .ok o) (hstatus : k.HasStatus o.status)
    (h' : k.attempt.result.outcome = .ok o') : k.HasStatus o'.status := by
  rwa [← Except.ok.inj (h.symm.trans h')]

/-- An attempt that sends nothing, because the values are not valid or there is no verdict. -/
theorem accounted_of_not_sent {k : Cycle} (hinvalid : k.isValid = false)
    (hsent : k.attempt.sent = [])
    (hfault : ∀ fault, k.validation.outcome = .error fault →
      k.attempt.result.outcome = .error fault)
    (hstatus : ∀ o, k.attempt.result.outcome = .ok o → o.status = .invalid) : k.Accounted where
  sent := by simp [hsent, hinvalid]
  unvalidated fault h := ⟨hsent, hfault fault h⟩
  status o ho := by
    rw [hstatus o ho]
    constructor <;> simp [hsent, not_receives hsent]
  returns d h := absurd h (not_receives hsent)

/-- An attempt that sends its request: what remains is what comes of it. -/
theorem accounted_of_sent {k : Cycle} {v : Validation} {d : Delivery}
    (hvalidation : k.validation.outcome = .ok v) (hdetails : v.details = [])
    (hsent : k.attempt.sent = [k.request]) (hdelivery : k.submission.deliver k.request = d)
    (hstatus : ∀ o, k.attempt.result.outcome = .ok o → k.HasStatus o.status)
    (hreturns : k.Returns ↔ d.IsReadable) : k.Accounted where
  sent := by
    rw [hsent, if_pos (isValid_iff.mpr ⟨v, hvalidation, hdetails⟩)]
  unvalidated fault h := by
    rw [hvalidation] at h
    cases h
  status := hstatus
  returns e h := by
    obtain rfl := (receives_iff hsent hdelivery).mp h
    exact hreturns

/-- **Every attempt is accounted for.** -/
theorem accounted (k : Cycle) : k.Accounted := by
  cases k.ends_attempt with
  | unvalidated fault hvalidation hsent hsurface hresult =>
      refine accounted_of_not_sent (isValid_of_error hvalidation) hsent (fun fault' h => ?_)
        fun o ho => absurd ⟨o, ho⟩ (not_returns hresult)
      obtain rfl := Except.error.inj (hvalidation.symm.trans h)
      exact hresult
  | invalid v hvalidation hdetails hsent hsurface hresult =>
      have hinvalid : k.isValid = false := by
        rw [isValid_of_ok hvalidation, Bool.eq_false_iff]
        exact fun h => hdetails (Validation.isValid_iff.mp h)
      refine accounted_of_not_sent hinvalid hsent (fun fault h => ?_) fun o ho => ?_
      · rw [hvalidation] at h
        cases h
      · rw [hresult] at ho
        -- the painting of the violations may end early, and then there is no outcome
        cases hpaint : (k.page.surface.clear.paint k.page.form.inputErrorClass v.errors).2 with
        | error fault =>
            rw [hpaint] at ho
            cases ho
        | ok _ =>
            rw [hpaint] at ho
            obtain rfl := Except.ok.inj ho
            rfl
  | failed v hvalidation hdetails exception hdelivery hsent hsurface hresult =>
      have hreceives (e : Delivery) := receives_iff (e := e) hsent hdelivery
      refine accounted_of_sent hvalidation hdetails hsent hdelivery
        (fun o => hasStatus_of_ok hresult ?_) (iff_of_true ⟨_, hresult⟩ trivial)
      constructor <;> simp [hsent, hreceives]
  | submitted v hvalidation hdetails response hdelivery hok hsent hsurface hresult =>
      have hreceives (e : Delivery) := receives_iff (e := e) hsent hdelivery
      refine accounted_of_sent hvalidation hdetails hsent hdelivery
        (fun o => hasStatus_of_ok hresult ?_) (iff_of_true ⟨_, hresult⟩ (.inl hok))
      constructor <;> simp [hsent, hreceives, hok]
  | unreadable v hvalidation hdetails response hdelivery hok fault herrors hsent hsurface
      hresult =>
      have hunreadable : ¬ Delivery.IsReadable (.answered response) := by
        rintro (htaken | hreadable)
        · rw [hok] at htaken
          cases htaken
        · obtain ⟨errors, h⟩ := Response.isReadable_iff.mp hreadable
          rw [herrors] at h
          cases h
      exact accounted_of_sent hvalidation hdetails hsent hdelivery
        (fun o ho => absurd ⟨o, ho⟩ (not_returns hresult))
        (iff_of_false (not_returns hresult) hunreadable)
  | rejected v hvalidation hdetails response hdelivery hok errors herrors hsent hsurface
      hresult =>
      have hreceives (e : Delivery) := receives_iff (e := e) hsent hdelivery
      rw [Surface.paint_texts (Coordinator.plain_serverErrors herrors).texts] at hresult
      refine accounted_of_sent hvalidation hdetails hsent hdelivery
        (fun o => hasStatus_of_ok hresult ?_)
        (iff_of_true ⟨_, hresult⟩ (.inr (Response.isReadable_iff.mpr ⟨errors, herrors⟩)))
      constructor <;> simp [hsent, hreceives, hok]

theorem of_mem_sent (k : Cycle) {request : Request} (h : request ∈ k.attempt.sent) :
    k.isValid = true ∧ request = k.request := by
  rw [k.accounted.sent] at h
  by_cases hvalid : k.isValid = true
  · rw [if_pos hvalid] at h
    exact ⟨hvalid, List.mem_singleton.mp h⟩
  · rw [if_neg hvalid] at h
    cases h

end Cycle

/-! ## Runs -/

namespace Page

/-- The requests that are sent in a run. -/
def requests (page : Page) (events : List PageEvent) : List Request :=
  (page.cycles events).flatMap fun k => k.attempt.sent

/-- The requests of a run are those of its attempts with valid values. -/
theorem requests_eq (page : Page) (events : List PageEvent) :
    page.requests events = ((page.cycles events).filter (·.isValid)).map (·.request) := by
  unfold requests
  induction page.cycles events with
  | nil => rfl
  | cons k rest ih =>
      rw [List.flatMap_cons, ih, k.accounted.sent, List.filter_cons]
      split <;> simp

/-- **Only valid values are sent, and the status says what came of them**: in every run of events
on a page, whatever happens to the rules of its form in between. -/
theorem sends_only_valid (page : Page) (events : List PageEvent) :
    page.requests events = ((page.cycles events).filter (·.isValid)).map (·.request) ∧
    ∀ k ∈ page.cycles events, k.Accounted ∧
      (∀ request ∈ k.attempt.sent, request.payload = k.submission.values ∧
        ∃ v, k.validation.outcome = .ok v ∧ v.details = []) ∧
      ∀ (deployment : Deployment) settings action method, deployment.settings = .ok settings →
        Coordinator.make deployment action method = .ok k.submission.coordinator →
        ∀ request ∈ k.attempt.sent,
          request.action = Coordinator.orDefault action settings.formAction ∧
          request.method = Coordinator.orDefault method settings.formMethod := by
  refine ⟨page.requests_eq events, fun k _ => ⟨k.accounted, fun request hrequest => ?_,
    fun deployment settings action method hsettings hmake request hrequest => ?_⟩⟩
  · obtain ⟨hvalid, rfl⟩ := k.of_mem_sent hrequest
    exact ⟨rfl, Cycle.isValid_iff.mp hvalid⟩
  · obtain ⟨-, rfl⟩ := k.of_mem_sent hrequest
    rw [Coordinator.make_ok hsettings] at hmake
    rw [Cycle.request, ← Except.ok.inj hmake]
    exact ⟨rfl, rfl⟩

/-- An answer that refuses a name. -/
def takenAnswer : Response :=
  ⟨.bool false, .dict [(.text "errors", .dict [(.text "name", .text "taken")])], .int 422⟩

/-- A name that is filled in and that the receiver refuses. -/
def takenName : Submission :=
  ⟨⟨"/", "POST"⟩, slowAndFailing, .dict [(.text "name", .text "x")], fun _ => .answered takenAnswer⟩

/-- The first attempt of the run sends nothing, and the second is refused. -/
theorem sends_only_valid_refused :
    namePage.requests [.submit blankName, .submit takenName] =
      [⟨"/", "POST", .dict [(.text "name", .text "x")]⟩] ∧
    ∃ o, (Cycle.mk (namePage.run [.submit blankName]) takenName).attempt.result.outcome = .ok o ∧
      o.status = .rejected := by
  obtain ⟨hrequests, hall⟩ := sends_only_valid namePage [.submit blankName, .submit takenName]
  have hblank : (Cycle.mk namePage blankName).isValid = false :=
    Cycle.isValid_of_ok (validation_blankName rfl rfl)
  have hdecided : (Prepared.mk (.text "name") requiredRule none).IsDecided
      [(.text "name", .text "x")] := ⟨_, rfl⟩
  have hvalidation : (Cycle.mk (namePage.run [.submit blankName]) takenName).validation.outcome =
      .ok ⟨[]⟩ :=
    (validateAlone_outcome (e := (.text "name", .rule requiredRule)) rfl rfl hdecided).trans rfl
  have htaken : (Cycle.mk (namePage.run [.submit blankName]) takenName).isValid = true :=
    Cycle.isValid_of_ok hvalidation
  have hcycles : namePage.cycles [.submit blankName, .submit takenName] =
      [⟨namePage, blankName⟩, ⟨namePage.run [.submit blankName], takenName⟩] := rfl
  have haccounted := (hall ⟨namePage.run [.submit blankName], takenName⟩
    (by rw [hcycles]; simp)).1
  have hreceives : (Cycle.mk (namePage.run [.submit blankName]) takenName).Receives
      (.answered takenAnswer) := by
    refine ⟨?_, rfl⟩
    rw [haccounted.sent, if_pos htaken]
  have hreadable : takenAnswer.IsReadable := by
    refine ⟨_, rfl, fun errors herrors => ?_⟩
    cases herrors
    simp [Value.isWritable]
  constructor
  · rw [hrequests, hcycles]
    simp only [List.filter_cons, hblank, htaken, if_true, Bool.false_eq_true, if_false]
    rfl
  · obtain ⟨o, ho⟩ := (haccounted.returns _ hreceives).mpr (.inr hreadable)
    exact ⟨o, ho, (haccounted.status o ho).rejected.mpr ⟨takenAnswer, hreceives, rfl⟩⟩

end Page
end FieldRules
