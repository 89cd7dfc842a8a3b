import Mathlib.Tactic
import Turnstile.Flow.Middleware

/-! What the four standard interceptors do around the rest of a chain: whatever comes out of it,
response, error or panic, becomes a response, and only an error that calls for a shutdown gets past
them. -/

namespace Turnstile

namespace Flow

/-- Leaves the request values in place. -/
def Keeps {α : Type} (m : Flow α) : Prop :=
  ∀ env c, c.values.isSome = true → (m env c).context.values.isSome = true

end Flow

def Handler.Keeps (h : Handler) : Prop := ∀ req, (h req).Keeps

def Interceptor.Keeps (i : Interceptor) : Prop := ∀ next : Handler, next.Keeps → (i next).Keeps

theorem Chain.keeps_run {route : List Interceptor} {handler : Handler}
    (hr : ∀ i ∈ route, Interceptor.Keeps i) (hh : handler.Keeps) :
    Handler.Keeps (Chain.mk route handler).run := by
  induction route with
  | nil => exact hh
  | cons i route ih =>
    obtain ⟨hi, hroute⟩ := List.forall_mem_cons.1 hr
    exact hi _ (ih hroute)

namespace Failure

/-- The error that a failure is reported as; a panic without a message gets one. -/
def traced (trace : String) : Failure → Error
  | error e => e
  | panic message => .panicked (message.getD Middleware.unknownPayload) trace

/-- The error that a failure is answered as, in which no trace shows. -/
def toError (f : Failure) : Error := f.traced ""

/-- The message of an error that calls for a shutdown. -/
def shutdown? : Failure → Option String
  | error (.shutdown message) => some message
  | _ => none

theorem isShutdown_toError (f : Failure) : f.toError.isShutdown = f.shutdown?.isSome := by
  rcases f with (_ | _ | _ | _ | _) | _ <;> rfl

@[simp] theorem ofError_traced (f : Failure) (trace : String) :
    ErrorResponse.ofError (f.traced trace) = ErrorResponse.ofError f.toError := by
  cases f <;> rfl

@[simp] theorem isShutdown_traced (f : Failure) (trace : String) :
    (f.traced trace).isShutdown = f.toError.isShutdown := by
  cases f <;> rfl

/-- What calls for a shutdown is no panic. -/
theorem traced_of_isShutdown {f : Failure} (h : f.toError.isShutdown = true) (trace : String) :
    f.traced trace = f.toError := by
  cases f with
  | error e => rfl
  | panic message => simp [toError, traced, Error.isShutdown] at h

theorem text_toError {f : Failure} {message : String} (h : f.shutdown? = some message) :
    f.toError.text = message := by
  rcases f with (_ | _ | _ | _ | _) | _ <;> simp_all [shutdown?, toError, traced, Error.text]

theorem ofError_toError {f : Failure} {message : String} (h : f.shutdown? = some message) :
    ErrorResponse.ofError f.toError = .generic := by
  rcases f with (_ | _ | _ | _ | _) | _ <;>
    simp_all [shutdown?, toError, traced, ErrorResponse.ofError]

end Failure

def ErrorResponse.response (r : ErrorResponse) : Response := Response.json r.status r.json.bytes

namespace Middleware

variable (inner : Handler) (req : Request) (env : Env) (c : Context)

theorem recoverPanics_apply : recoverPanics inner req env c =
    ⟨((inner req env c).outcome.mapError (Failure.traced env.telemetry.trace)).mapError .error,
      (inner req env c).context, (inner req env c).effects⟩ := by
  simp only [recoverPanics, Flow.bind_apply, Flow.attempt_apply]
  rcases (inner req env c).outcome with (e | message) | answer <;>
    simp [Failure.traced, Flow.bind_apply, Except.mapError]

/-- What is counted does not go by the trace. -/
theorem endingOf_traced (o : Except Failure Response) (trace : String) :
    endingOf ((o.mapError (Failure.traced trace)).mapError .error) =
      endingOf ((o.mapError Failure.toError).mapError .error) := by
  rcases o with (e | message) | answer <;> rfl

/-- Everything but a panic is counted and goes on. -/
theorem countRequest_apply {o : Except Error Response}
    (h : (inner req env c).outcome = o.mapError .error) : countRequest inner req env c =
      ⟨o.mapError .error, (inner req env c).context, (inner req env c).effects ++
        [.count (req.template.getD req.path) (endingOf (o.mapError .error))]⟩ := by
  simp only [countRequest, Flow.bind_apply, Flow.attempt_apply, h]
  cases o <;> simp [Except.mapError, Flow.bind_apply]

theorem answerErrors_of_ok {v : RequestValues} {a : Response} (hc : c.values = some v)
    (h : (inner req env c).outcome = .ok a) :
    answerErrors inner req env c =
      ⟨.ok a, (inner req env c).context, (inner req env c).effects⟩ := by
  simp [answerErrors, Flow.bind_apply, Flow.values_apply _ _ hc, h]

/-- An error is logged and answered, and passed on if it asks for a shutdown. -/
theorem answerErrors_of_error {v v' : RequestValues} {e : Error} (hc : c.values = some v)
    (hv : (inner req env c).context.values = some v')
    (h : (inner req env c).outcome = .error (.error e)) : answerErrors inner req env c =
      let answer := ErrorResponse.ofError e
      ⟨if e.isShutdown then .error (.error e) else .ok answer.response,
        { (inner req env c).context with values := some { v' with status := some answer.status } },
        (inner req env c).effects ++ [.event (failureEvent e answer.status)]⟩ := by
  simp only [answerErrors, Flow.bind_apply, Flow.values_apply _ _ hc, Flow.attempt_apply, h,
    Flow.log_apply, Flow.setStatus_apply _ _ hv]
  split_ifs <;> simp [ErrorResponse.response]

theorem logRequest_apply {v v' : RequestValues} (hc : c.values = some v)
    (hv : (inner req env c).context.values = some v')
    (hp : ∀ message, (inner req env c).outcome ≠ .error (.panic message)) :
    logRequest inner req env c = ⟨(inner req env c).outcome, (inner req env c).context,
      .event (.requestStarted req.method req.path req.remoteText) :: (inner req env c).effects ++
        [.event (.requestCompleted req.method req.path req.remoteText (v'.status.getD 0)
          env.telemetry.elapsed)]⟩ := by
  simp only [logRequest, Flow.bind_apply, Flow.values_apply _ _ hc, Flow.attempt_apply,
    Flow.log_apply]
  rcases ho : (inner req env c).outcome with (e | message) | answer
  · simp [hv]
  · exact absurd ho (hp message)
  · simp [hv]

/-- The rest of a chain behind the standard interceptors. -/
def shield (inner : Handler) : Handler :=
  logRequest (answerErrors (countRequest (recoverPanics inner)))

theorem run_standard (route : List Interceptor) (handler : Handler) :
    (Chain.new (standard.map intercept) route handler).run =
      shield (Chain.mk route handler).run := rfl

/-- What is given off around the effects of the rest: start, count, failure if any, and end. -/
def report (req : Request) (inside : List Effect) (ending : Ending) (failure : List Effect)
    (status elapsed : ℕ) : List Effect :=
  .event (.requestStarted req.method req.path req.remoteText) ::
    (inside ++ [.count (req.template.getD req.path) ending] ++ failure) ++
    [.event (.requestCompleted req.method req.path req.remoteText status elapsed)]

theorem events_report (inside : List Effect) (ending : Ending) (failure : List Effect)
    (status elapsed : ℕ) : Effect.events (report req inside ending failure status elapsed) =
      .requestStarted req.method req.path req.remoteText ::
        (Effect.events inside ++ Effect.events failure) ++
        [.requestCompleted req.method req.path req.remoteText status elapsed] := by
  simp [report, Effect.events, Effect.event?, List.filterMap_cons]

theorem notes_report (inside : List Effect) (ending : Ending) (failure : List Effect)
    (status elapsed : ℕ) : Effect.notes (report req inside ending failure status elapsed) =
      Effect.notes inside ++ Effect.notes failure := by
  simp [report, Effect.notes, Effect.note?, List.filterMap_cons]

variable {inner req env c}

theorem shield_of_ok {v v' : RequestValues} {answer : Response} (hc : c.values = some v)
    (hv : (inner req env c).context.values = some v')
    (ho : (inner req env c).outcome = .ok answer) : shield inner req env c =
      ⟨.ok answer, (inner req env c).context,
        report req (inner req env c).effects .answered [] (v'.status.getD 0)
          env.telemetry.elapsed⟩ := by
  have hrecover := recoverPanics_apply inner req env c
  rw [ho] at hrecover
  have hcount := countRequest_apply (recoverPanics inner) req env c (o := .ok answer)
    (by rw [hrecover]; rfl)
  have hanswer := answerErrors_of_ok (countRequest (recoverPanics inner)) req env c hc
    (a := answer) (by rw [hcount]; rfl)
  have hlog := logRequest_apply (answerErrors (countRequest (recoverPanics inner))) req env c hc
    (by rw [hanswer, hcount, hrecover]; exact hv) (by rw [hanswer]; simp)
  rw [shield, hlog, hanswer, hcount, hrecover]
  simp [report, endingOf, Except.mapError]

/-- An error, or a panic made one, is answered; one that asks for a shutdown gets out as well. -/
theorem shield_of_error {v v' : RequestValues} {f : Failure} (hc : c.values = some v)
    (hv : (inner req env c).context.values = some v')
    (ho : (inner req env c).outcome = .error f) : shield inner req env c =
      let answer := ErrorResponse.ofError f.toError
      ⟨if f.toError.isShutdown then .error (.error f.toError) else .ok answer.response,
        { (inner req env c).context with values := some { v' with status := some answer.status } },
        report req (inner req env c).effects (endingOf (.error (.error f.toError)))
          [.event (failureEvent (f.traced env.telemetry.trace) answer.status)] answer.status
          env.telemetry.elapsed⟩ := by
  have hrecover := recoverPanics_apply inner req env c
  rw [ho] at hrecover
  have hcount := countRequest_apply (recoverPanics inner) req env c
    (o := .error (f.traced env.telemetry.trace)) (by rw [hrecover]; rfl)
  have hanswer := answerErrors_of_error (countRequest (recoverPanics inner)) req env c hc
    (e := f.traced env.telemetry.trace) (by rw [hcount, hrecover]; exact hv)
    (by rw [hcount]; rfl)
  have hlog := logRequest_apply (answerErrors (countRequest (recoverPanics inner))) req env c hc
    (by rw [hanswer]) (by rw [hanswer]; intro message; simp only; split_ifs <;> simp)
  rw [shield, hlog, hanswer, hcount, hrecover]
  have hending : endingOf (.error (.error (f.traced env.telemetry.trace))) =
      endingOf (.error (.error f.toError)) := endingOf_traced (.error f) env.telemetry.trace
  cases hshutdown : f.toError.isShutdown with
  | true =>
    rw [f.traced_of_isShutdown hshutdown]
    simp [report, Except.mapError, hshutdown]
  | false => simp [report, Except.mapError, hshutdown, hending]

end Middleware

end Turnstile
