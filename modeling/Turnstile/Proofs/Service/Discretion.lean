import Turnstile.Flow.Probe
import Turnstile.Proofs.Flow.Discretion
import Turnstile.Proofs.Service.Routing

/-! What a client gets for a failure behind the standard interceptors, whether it is answered inside
of the chain or escapes from it. -/

namespace Turnstile

namespace Service

variable {s : Service} {req : Request} {path : String} {route : List Interceptor} {h : Handler}

/-- What comes out of a route and its handler, inside of the standard interceptors. -/
def routed (s : Service) (route : List Interceptor) (h : Handler) (req : Request) (id : String)
    (clock : Instant) : Result Response :=
  (Chain.mk route h).run req (s.env clock) (Context.new id clock s.cancelled)

/-- An error that escapes the chain is answered like one that does not. -/
theorem outcome_dispatch (s : Service) (route : List Interceptor) (h : Handler) (req : Request)
    (id : String) (clock : Instant) :
    (s.dispatch (Chain.new Api.global route h) req id clock).2.outcome =
      .ok (s.routed route h req id clock).settled := by
  have hshield : (Chain.run (Chain.new Api.global route h) req (s.env clock)
      (Context.new id clock s.cancelled)).outcome = Flow.Outcome.afterErrors
        (s.routed route h req id clock).context.values.isSome
        (Flow.Outcome.afterPanics (s.telemetry clock).trace
          (s.routed route h req id clock).outcome) := by
    have houtcome := Middleware.outcome_shield (Chain.mk route h).run req (s.env clock)
      (c := Context.new id clock s.cancelled) rfl
    rw [← Middleware.run_standard] at houtcome
    exact houtcome
  simp only [dispatch, hshield]
  generalize s.routed route h req id clock = r
  rcases r with ⟨f | answer, context, effects⟩
  case ok => rfl
  -- A failure escapes if its answer cannot be recorded, or if it calls for a shutdown.
  cases hv : context.values.isSome with
  | false =>
    simp [Flow.Outcome.afterPanics, Flow.Outcome.afterErrors, Result.settled,
      Flow.Outcome.settled, hv, ErrorResponse.response]
  | true =>
    cases hshutdown : f.shutdown? with
    | none =>
      have hcall : f.toError.isShutdown = false := by rw [f.isShutdown_toError, hshutdown]; rfl
      simp [Flow.Outcome.afterPanics, Flow.Outcome.afterErrors, Result.settled,
        Flow.Outcome.settled, hv, hcall]
    | some reason =>
      have hcall : f.toError.isShutdown = true := by rw [f.isShutdown_toError, hshutdown]; rfl
      simp [Flow.Outcome.afterPanics, Flow.Outcome.afterErrors, Result.settled,
        Flow.Outcome.settled, hv, hcall, signal, Failure.ofError_toError hshutdown,
        ErrorResponse.response]

/-- The response that leaves the application. -/
theorem outcome_serve (hc : s.app.chain? req = some (path, Chain.new Api.global route h))
    (clock : Instant) (fresh : String) : (s.serve req clock fresh).2.outcome =
      .ok (share (RequestId.adopt req fresh) (finish req.method (s.routed route h
        (req.entering path fresh) (RequestId.adopt req fresh) clock).settled)) := by
  rw [serve_of_chain? hc, Reply.map, outcome_dispatch]
  rfl

theorem outcome_eq_of_related {R : Flow.Outcome → Flow.Outcome → Prop}
    (hR : Flow.Outcome.Blurred R) {app' : App} {h' : Handler}
    (hc : s.app.chain? req = some (path, Chain.new Api.global route h))
    (hc' : app'.chain? req = some (path, Chain.new Api.global route h'))
    (hroute : ∀ i ∈ route, Interceptor.Discreet R i) (hh : h.Related R h') (clock : Instant)
    (fresh : String) : ∃ answer, (s.serve req clock fresh).2.outcome = .ok answer ∧
      ({ s with app := app' }.serve req clock fresh).2.outcome = .ok answer := by
  refine ⟨_, outcome_serve hc clock fresh, ?_⟩
  have hrelated :
      (s.routed route h (req.entering path fresh) (RequestId.adopt req fresh) clock).Related R
        ({ s with app := app' }.routed route h' (req.entering path fresh)
          (RequestId.adopt req fresh) clock) := Chain.related_run hroute hh _ _ _
  rw [outcome_serve (s := { s with app := app' }) hc' clock fresh, hrelated.settled_eq hR]

/-- One handler in the place of another, behind the standard interceptors and any route. If their
failures differ only in what is for the log, and no interceptor of the route makes a difference
between such failures, then the response is the same; so it is if both fail for faults of the
service, of whatever kind, and none makes a difference between faults. The interceptors of the
service make neither. -/
theorem answers_hide_details (s : Service) (app' : App) (req : Request) (clock : Instant)
    (fresh path : String) (route : List Interceptor) (h h' : Handler)
    (hc : s.app.chain? req = some (path, Chain.new Api.global route h))
    (hc' : app'.chain? req = some (path, Chain.new Api.global route h')) :
    ((∀ i ∈ route, Interceptor.Discreet Flow.Outcome.Alike i) →
      h.Related Flow.Outcome.Alike h' →
      ∃ answer, (s.serve req clock fresh).2.outcome = .ok answer ∧
        ({ s with app := app' }.serve req clock fresh).2.outcome = .ok answer) ∧
    ((∀ i ∈ route, Interceptor.Discreet Flow.Outcome.Indistinct i) →
      h.Related Flow.Outcome.Indistinct h' →
      ∃ answer, (s.serve req clock fresh).2.outcome = .ok answer ∧
        ({ s with app := app' }.serve req clock fresh).2.outcome = .ok answer) ∧
    (∀ m : Middleware, m.intercept.Discreet Flow.Outcome.Alike ∧
      m.intercept.Discreet Flow.Outcome.Indistinct) ∧
    ∀ e e' : AuthError, e.status = 500 → e'.status = 500 →
      Failure.Alike (.error (.ofAuth e)) (.error (.ofAuth e')) := by
  refine ⟨?_, ?_, ?_, ?_⟩
  · intro hroute hh
    exact outcome_eq_of_related Flow.Outcome.blurred_alike hc hc' hroute hh clock fresh
  · intro hroute hh
    exact outcome_eq_of_related Flow.Outcome.blurred_indistinct hc hc' hroute hh clock fresh
  · intro m
    exact ⟨m.discreet Flow.Outcome.blurred_alike, m.discreet Flow.Outcome.blurred_indistinct⟩
  · exact fun e e' he he' => Failure.alike_ofAuth_of_fault he he'

/-! A service of one route. -/

def oneRoute (route : List Interceptor) (h : Handler) : App :=
  ⟨Api.global, [⟨"/", [.byte 47], [(.get, .chain (Chain.new Api.global route h))]⟩]⟩

def oneService (route : List Interceptor) (h : Handler) : Service where
  app := oneRoute route h
  keys := .empty
  auth := ⟨"k"⟩
  users := .new "i" ⟨60, 0⟩ 1
  counters := .zero
  channel := .new
  cancelled := false
  hostname := none
  telemetry := default

def rootRequest : Request := ⟨"GET", "/", none, [], [], none, none⟩

theorem chain?_oneRoute (route : List Interceptor) (h : Handler) :
    (oneRoute route h).chain? rootRequest = some ("/", Chain.new Api.global route h) := rfl

def fails (f : Failure) : Handler := fun _ => Flow.raise f

theorem related_fails {R : Flow.Outcome → Flow.Outcome → Prop} {f f' : Failure}
    (h : R (.error f) (.error f')) : (fails f).Related R (fails f') := fun _ _ _ => ⟨h, rfl⟩

theorem answers_hide_details_faults :
    (∃ answer,
      ((oneService [Middleware.errors.intercept] (fails (.error (.internal "disk")))).serve
        rootRequest ⟨0, 0⟩ "id").2.outcome = .ok answer ∧
      ((oneService [Middleware.errors.intercept] (fails (.error (.internal "memory")))).serve
        rootRequest ⟨0, 0⟩ "id").2.outcome = .ok answer) ∧
    ∃ answer,
      ((oneService [Middleware.errors.intercept] (fails (.error (.shutdown "lost")))).serve
        rootRequest ⟨0, 0⟩ "id").2.outcome = .ok answer ∧
      ((oneService [Middleware.errors.intercept] (fails (.panic none))).serve
        rootRequest ⟨0, 0⟩ "id").2.outcome = .ok answer := by
  have hdiscreet {R : Flow.Outcome → Flow.Outcome → Prop} (hR : Flow.Outcome.Blurred R) :
      ∀ i ∈ [Middleware.errors.intercept], Interceptor.Discreet R i := by
    intro i hi
    rw [List.mem_singleton.1 hi]
    exact Middleware.discreet hR _
  refine ⟨?_, ?_⟩
  · refine (answers_hide_details (oneService _ _) (oneRoute _ _) rootRequest ⟨0, 0⟩ "id" "/" _ _ _
      (chain?_oneRoute _ _) (chain?_oneRoute _ _)).1 (hdiscreet Flow.Outcome.blurred_alike) ?_
    exact related_fails (.failures (.internal _ _))
  · refine (answers_hide_details (oneService _ _) (oneRoute _ _) rootRequest ⟨0, 0⟩ "id" "/" _ _ _
      (chain?_oneRoute _ _) (chain?_oneRoute _ _)).2.1
      (hdiscreet Flow.Outcome.blurred_indistinct) ?_
    exact related_fails (.faulty (.failure trivial) (.failure trivial))

/-- Answers an error with its text. -/
def spill : Interceptor := fun next req => do
  match ← (next req).attempt with
  | .error (.error e) => Flow.respond 500 (Json.Value.object [("error", .text e.text)]).bytes
  | outcome => Flow.ofOutcome outcome

/-- An interceptor of the route may look at a failure, and answer it. One that leaves panics to
others tells them apart from errors, and one that answers with the text lets the text out. -/
theorem answers_differ_behind_recover :
    (∃ answer answer',
      ((oneService [Probe.intercept (.recover 200 (.object []))]
        (fails (.error (.internal "disk")))).serve rootRequest ⟨0, 0⟩ "id").2.outcome =
          .ok answer ∧
      ((oneService [Probe.intercept (.recover 200 (.object []))] (fails (.panic none))).serve
        rootRequest ⟨0, 0⟩ "id").2.outcome = .ok answer' ∧
      answer.status = 200 ∧ answer'.status = 500) ∧
    ∃ answer answer',
      ((oneService [spill] (fails (.error (.internal "disk")))).serve
        rootRequest ⟨0, 0⟩ "id").2.outcome = .ok answer ∧
      ((oneService [spill] (fails (.error (.internal "memory")))).serve
        rootRequest ⟨0, 0⟩ "id").2.outcome = .ok answer' ∧
      answer.body ≠ answer'.body := by
  refine ⟨⟨_, _, rfl, rfl, rfl, rfl⟩, _, _, rfl, rfl, ?_⟩
  decide +kernel

end Service

end Turnstile
