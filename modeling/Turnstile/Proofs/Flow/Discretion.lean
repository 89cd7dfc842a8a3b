import Turnstile.Proofs.Flow.Gate
import Turnstile.Proofs.Flow.Standard

/-! One handler in the place of another. Failures that differ only in what is for the log, and the
faults of the service among each other, come out of a chain as the same answer, unless an
interceptor of the route makes a difference between them. -/

namespace Turnstile

abbrev Flow.Outcome := Except Failure Response

/-- Failures of one kind that have the same to tell a client. They differ in what is for the log. -/
inductive Failure.Alike : Failure → Failure → Prop
  | validation (fields : FieldErrors) :
    Alike (.error (.validation fields)) (.error (.validation fields))
  | request (status : ℕ) (message : String) (fields : Option FieldErrors)
    (cause cause' : Option String) :
    Alike (.error (.request ⟨status, message, cause, fields⟩))
      (.error (.request ⟨status, message, cause', fields⟩))
  | shutdown (message message' : String) :
    Alike (.error (.shutdown message)) (.error (.shutdown message'))
  | panicked (message trace message' trace' : String) :
    Alike (.error (.panicked message trace)) (.error (.panicked message' trace'))
  | internal (message message' : String) :
    Alike (.error (.internal message)) (.error (.internal message'))
  | panic (message message' : Option String) : Alike (.panic message) (.panic message')

/-- The fault is the service's own; there is nothing in it for a client. -/
def Failure.IsFault : Failure → Prop
  | error (.validation _) => False
  | error (.request _) => False
  | _ => True

namespace Failure

theorem Alike.traced {f f' : Failure} (h : f.Alike f') (trace : String) :
    Alike (.error (f.traced trace)) (.error (f'.traced trace)) := by
  cases h with
  | validation fields => exact .validation fields
  | request status message fields cause cause' => exact .request status message fields cause cause'
  | shutdown message message' => exact .shutdown message message'
  | panicked message trace message' trace' => exact .panicked message trace message' trace'
  | internal message message' => exact .internal message message'
  | panic message message' => exact .panicked _ trace _ trace

theorem Alike.toError {f f' : Failure} (h : f.Alike f') :
    Alike (.error f.toError) (.error f'.toError) := h.traced ""

theorem Alike.ofError_eq {e e' : Error} (h : Alike (.error e) (.error e')) :
    ErrorResponse.ofError e = ErrorResponse.ofError e' := by
  cases h <;> rfl

theorem Alike.isShutdown_eq {e e' : Error} (h : Alike (.error e) (.error e')) :
    e.isShutdown = e'.isShutdown := by
  cases h <;> rfl

theorem IsFault.traced {f : Failure} (h : f.IsFault) (trace : String) :
    IsFault (.error (f.traced trace)) := by
  rcases f with (_ | _ | _ | _ | _) | _ <;> exact h

theorem IsFault.toError {f : Failure} (h : f.IsFault) : IsFault (.error f.toError) := h.traced ""

theorem IsFault.ofError_eq {e : Error} (h : IsFault (.error e)) :
    ErrorResponse.ofError e = .generic := by
  rcases e with _ | _ | _ | _ | _ <;> first | exact h.elim | rfl

/-- What refused a token, or kept one from being made, is told apart by its status and its public
text alone. -/
theorem alike_ofAuth {e e' : AuthError} (hs : e.status = e'.status)
    (hp : e.publicMessage = e'.publicMessage) :
    Alike (.error (.ofAuth e)) (.error (.ofAuth e')) := by
  unfold Error.ofAuth
  rw [← hs, ← hp]
  split_ifs
  · exact .internal _ _
  · exact .request _ _ _ _ _

theorem publicMessage_of_fault {e : AuthError} (h : e.status = 500) :
    e.publicMessage = AuthError.genericMessage := by
  cases e <;> first | rfl | cases h

theorem alike_ofAuth_of_fault {e e' : AuthError} (h : e.status = 500) (h' : e'.status = 500) :
    Alike (.error (.ofAuth e)) (.error (.ofAuth e')) :=
  alike_ofAuth (h.trans h'.symm) ((publicMessage_of_fault h).trans (publicMessage_of_fault h').symm)

end Failure

namespace Flow.Outcome

/-- The same, or failures alike. -/
inductive Alike : Outcome → Outcome → Prop
  | same (o : Outcome) : Alike o o
  | failures {f f' : Failure} (h : f.Alike f') : Alike (.error f) (.error f')

/-- A fault, or the answer for one. -/
inductive Faulty : Outcome → Prop
  | failure {f : Failure} (h : f.IsFault) : Faulty (.error f)
  | answer : Faulty (.ok ErrorResponse.generic.response)

/-- The same, or both for faults of the service. -/
inductive Indistinct : Outcome → Outcome → Prop
  | same (o : Outcome) : Indistinct o o
  | faulty {o o' : Outcome} (h : Faulty o) (h' : Faulty o') : Indistinct o o'

/-- What is left where panics are made errors, which take the trace along. -/
def afterPanics (trace : String) : Outcome → Outcome
  | .ok a => .ok a
  | .error f => .error (.error (f.traced trace))

/-- What is left where errors are answered; the answer is not recorded without request values. -/
def afterErrors (recorded : Bool) : Outcome → Outcome
  | .error (.error e) =>
    if recorded = false then .error (.error Context.valuesMissing)
    else if e.isShutdown then .error (.error e)
    else .ok (ErrorResponse.ofError e).response
  | o => o

/-- What a failure is answered as in the end. -/
def settled (recorded : Bool) : Outcome → Response
  | .ok a => a
  | .error f =>
    if recorded then (ErrorResponse.ofError f.toError).response else ErrorResponse.generic.response

/-- A relation that survives the interceptors of the service and is not seen from outside. -/
structure Blurred (R : Outcome → Outcome → Prop) : Prop where
  refl : ∀ o, R o o
  afterPanics : ∀ (trace : String) {o o' : Outcome}, R o o' →
    R (o.afterPanics trace) (o'.afterPanics trace)
  afterErrors : ∀ (recorded : Bool) {o o' : Outcome}, R o o' →
    R (o.afterErrors recorded) (o'.afterErrors recorded)
  settled : ∀ (recorded : Bool) {o o' : Outcome}, R o o' → o.settled recorded = o'.settled recorded

theorem blurred_alike : Blurred Alike where
  refl := .same
  afterPanics trace _ _ h := by
    cases h with
    | same => exact .same _
    | failures h => exact .failures (h.traced trace)
  afterErrors recorded _ _ h := by
    cases h with
    | same => exact .same _
    | @failures f f' h =>
      rcases f with e | message
      case panic => cases h with
        | panic _ message' => exact .failures (.panic message message')
      rcases f' with e' | message'
      case panic => cases h
      simp only [Outcome.afterErrors, h.isShutdown_eq, h.ofError_eq]
      split_ifs
      · exact .same _
      · exact .failures h
      · exact .same _
  settled recorded _ _ h := by
    cases h with
    | same => rfl
    | failures h => simp only [Outcome.settled, h.toError.ofError_eq]

theorem Faulty.afterPanics {o : Outcome} (h : Faulty o) (trace : String) :
    Faulty (o.afterPanics trace) := by
  cases h with
  | failure h => exact .failure (h.traced trace)
  | answer => exact .answer

theorem Faulty.afterErrors {o : Outcome} (h : Faulty o) (recorded : Bool) :
    Faulty (o.afterErrors recorded) := by
  cases h with
  | answer => exact .answer
  | @failure f h =>
    rcases f with e | message
    · simp only [Outcome.afterErrors, h.ofError_eq]
      split_ifs
      · exact .failure trivial
      · exact .failure h
      · exact .answer
    · exact .failure trivial

theorem Faulty.settled_eq {o : Outcome} (h : Faulty o) (recorded : Bool) :
    o.settled recorded = ErrorResponse.generic.response := by
  cases h with
  | answer => rfl
  | failure h => simp only [Outcome.settled, h.toError.ofError_eq, ite_self]

theorem blurred_indistinct : Blurred Indistinct where
  refl := .same
  afterPanics trace _ _ h := by
    cases h with
    | same => exact .same _
    | faulty h h' => exact .faulty (h.afterPanics trace) (h'.afterPanics trace)
  afterErrors recorded _ _ h := by
    cases h with
    | same => exact .same _
    | faulty h h' => exact .faulty (h.afterErrors recorded) (h'.afterErrors recorded)
  settled recorded _ _ h := by
    cases h with
    | same => rfl
    | faulty h h' => rw [h.settled_eq, h'.settled_eq]

end Flow.Outcome

section Related

variable (R : Flow.Outcome → Flow.Outcome → Prop)

/-- The outcomes are related, and both or neither leave the request values. -/
structure Result.Related (r r' : Result Response) : Prop where
  outcome : R r.outcome r'.outcome
  values : r.context.values.isSome = r'.context.values.isSome

/-- What a client gets. -/
def Result.settled (r : Result Response) : Response :=
  Flow.Outcome.settled r.context.values.isSome r.outcome

def Handler.Related (h h' : Handler) : Prop := ∀ req env c, (h req env c).Related R (h' req env c)

/-- The interceptor does not tell related handlers apart. -/
def Interceptor.Discreet (i : Interceptor) : Prop :=
  ∀ next next' : Handler, next.Related R next' → (i next).Related R (i next')

variable {R}

theorem Result.Related.settled_eq {r r' : Result Response} (h : r.Related R r')
    (hR : Flow.Outcome.Blurred R) : r.settled = r'.settled := by
  rw [settled, settled, h.values]
  exact hR.settled _ h.outcome

theorem Chain.related_run {route : List Interceptor} {h h' : Handler}
    (hr : ∀ i ∈ route, Interceptor.Discreet R i) (hh : h.Related R h') :
    Handler.Related R (Chain.mk route h).run (Chain.mk route h').run := by
  induction route with
  | nil => exact hh
  | cons i route ih =>
    obtain ⟨hi, hroute⟩ := List.forall_mem_cons.1 hr
    exact hi _ _ (ih hroute)

end Related

namespace Middleware

section Outcomes

variable (inner : Handler) (req : Request) (env : Env) {c : Context}

/-- Without request values nothing is run. -/
theorem logRequest_of_missing (hc : c.values = none) : logRequest inner req env c =
    ⟨.error (.error Context.valuesMissing), c, []⟩ := by
  simp [logRequest, Flow.bind_apply, Flow.values, Context.requireValues, hc, Flow.ofExcept]

theorem answerErrors_of_missing (hc : c.values = none) : answerErrors inner req env c =
    ⟨.error (.error Context.valuesMissing), c, []⟩ := by
  simp [answerErrors, Flow.bind_apply, Flow.values, Context.requireValues, hc, Flow.ofExcept]

theorem logRequest_forwards {v : RequestValues} (hc : c.values = some v) :
    (logRequest inner req env c).outcome = (inner req env c).outcome ∧
      (logRequest inner req env c).context = (inner req env c).context := by
  simp only [logRequest, Flow.bind_apply, Flow.values_apply _ _ hc, Flow.attempt_apply,
    Flow.log_apply]
  rcases (inner req env c).outcome with (e | message) | answer <;> simp [Flow.bind_apply]

theorem countRequest_forwards :
    (countRequest inner req env c).outcome = (inner req env c).outcome ∧
      (countRequest inner req env c).context = (inner req env c).context := by
  simp only [countRequest, Flow.bind_apply, Flow.attempt_apply]
  rcases (inner req env c).outcome with (e | message) | answer <;> simp [Flow.bind_apply]

theorem outcome_recoverPanics :
    (recoverPanics inner req env c).outcome =
      Flow.Outcome.afterPanics env.telemetry.trace (inner req env c).outcome := by
  rw [recoverPanics_apply]
  cases (inner req env c).outcome <;> rfl

theorem outcome_answerErrors {v : RequestValues} (hc : c.values = some v) :
    (answerErrors inner req env c).outcome =
        Flow.Outcome.afterErrors (inner req env c).context.values.isSome (inner req env c).outcome ∧
      (answerErrors inner req env c).context.values.isSome =
        (inner req env c).context.values.isSome := by
  rcases ho : (inner req env c).outcome with (e | message) | answer
  · cases hv : (inner req env c).context.values with
    | none =>
      simp [answerErrors, Flow.bind_apply, Flow.values_apply _ _ hc, ho, Flow.setStatus,
        Context.setStatus, hv, Flow.Outcome.afterErrors]
    | some v' =>
      rw [answerErrors_of_error inner req env c hc hv ho]
      simp [Flow.Outcome.afterErrors]
  · simp [answerErrors, Flow.bind_apply, Flow.values_apply _ _ hc, ho, Flow.Outcome.afterErrors]
  · rw [answerErrors_of_ok inner req env c hc ho]
    exact ⟨rfl, rfl⟩

end Outcomes

/-- No interceptor of the service tells apart what a blurred relation does not. -/
theorem discreet {R : Flow.Outcome → Flow.Outcome → Prop} (hR : Flow.Outcome.Blurred R)
    (m : Middleware) : m.intercept.Discreet R := by
  intro next next' hn req env c
  have hrefl (r : Result Response) : r.Related R r := ⟨hR.refl _, rfl⟩
  obtain ⟨houtcome, hvalues⟩ := hn req env c
  cases m with
  | logger =>
    simp only [intercept]
    cases hc : c.values with
    | none =>
      rw [logRequest_of_missing _ _ _ hc, logRequest_of_missing _ _ _ hc]
      exact hrefl _
    | some v =>
      obtain ⟨ho, hcontext⟩ := logRequest_forwards next req env hc
      obtain ⟨ho', hcontext'⟩ := logRequest_forwards next' req env hc
      exact ⟨by rw [ho, ho']; exact houtcome, by rw [hcontext, hcontext']; exact hvalues⟩
  | errors =>
    simp only [intercept]
    cases hc : c.values with
    | none =>
      rw [answerErrors_of_missing _ _ _ hc, answerErrors_of_missing _ _ _ hc]
      exact hrefl _
    | some v =>
      obtain ⟨ho, hkept⟩ := outcome_answerErrors next req env hc
      obtain ⟨ho', hkept'⟩ := outcome_answerErrors next' req env hc
      refine ⟨?_, by rw [hkept, hkept']; exact hvalues⟩
      rw [ho, ho', hvalues]
      exact hR.afterErrors _ houtcome
  | metrics =>
    obtain ⟨ho, hcontext⟩ := countRequest_forwards next req env (c := c)
    obtain ⟨ho', hcontext'⟩ := countRequest_forwards next' req env (c := c)
    exact ⟨by rw [intercept, ho, ho']; exact houtcome,
      by rw [intercept, hcontext, hcontext']; exact hvalues⟩
  | panics =>
    refine ⟨?_, ?_⟩
    · rw [intercept, outcome_recoverPanics, outcome_recoverPanics]
      exact hR.afterPanics _ houtcome
    · rw [intercept, recoverPanics_apply, recoverPanics_apply]
      exact hvalues
  | authenticate =>
    simp only [intercept, requireToken_apply]
    split
    · exact hrefl _
    · split
      · exact hrefl _
      · exact hn _ _ _
  | authorize roles =>
    simp only [intercept, requireRole_apply]
    split
    · exact hrefl _
    · split_ifs
      · exact hn _ _ _
      · exact hrefl _

/-- What comes out of the standard interceptors. -/
theorem outcome_shield (inner : Handler) (req : Request) (env : Env) {c : Context}
    {v : RequestValues} (hc : c.values = some v) : (shield inner req env c).outcome =
      Flow.Outcome.afterErrors (inner req env c).context.values.isSome
        (Flow.Outcome.afterPanics env.telemetry.trace (inner req env c).outcome) := by
  obtain ⟨hcount, hcontext⟩ := countRequest_forwards (recoverPanics inner) req env (c := c)
  obtain ⟨herrors, -⟩ :=
    outcome_answerErrors (countRequest (recoverPanics inner)) req env hc
  obtain ⟨hlog, -⟩ :=
    logRequest_forwards (answerErrors (countRequest (recoverPanics inner))) req env hc
  rw [shield, hlog, herrors, hcount, hcontext, outcome_recoverPanics, recoverPanics_apply]

end Middleware

end Turnstile
