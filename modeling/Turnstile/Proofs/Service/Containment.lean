import Turnstile.Proofs.Flow.Standard
import Turnstile.Proofs.Service.Routing

/-! Whatever a route does, its request is answered, and the listener hears of a failure exactly when
it asks for a shutdown. -/

namespace Turnstile

/-- The standard interceptors around a route and a handler that leave the request values in place. -/
def Chain.IsStandard (c : Chain) : Prop :=
  ∃ route handler, c = Chain.new Api.global route handler ∧
    (∀ i ∈ route, Interceptor.Keeps i) ∧ handler.Keeps

/-- All chains of the application are standard. -/
structure App.IsStandard (a : App) : Prop where
  global : a.global = Api.global
  chains : ∀ r ∈ a.routes, ∀ e ∈ r.endpoints, ∀ c, e.2 = .chain c → c.IsStandard

namespace App.IsStandard

theorem empty : App.IsStandard ⟨Api.global, []⟩ := ⟨rfl, by simp⟩

theorem mount {a a' : App} (ha : a.IsStandard) {method : Method} {path : String} {e : Endpoint}
    (he : ∀ c, e = .chain c → c.IsStandard) (h : a.mount method path e = some a') :
    a'.IsStandard := by
  unfold App.mount at h
  split at h
  · split_ifs at h
    obtain rfl := Option.some.inj h
    refine ⟨ha.global, ?_⟩
    intro r hr
    obtain ⟨r', hr', rfl⟩ := List.mem_map.1 hr
    intro e' he' c hc
    split_ifs at he'
    · rcases List.mem_append.1 he' with he' | he'
      · exact ha.chains r' hr' e' he' c hc
      · obtain rfl := List.mem_singleton.1 he'
        exact he c hc
    · exact ha.chains r' hr' e' he' c hc
  · split at h
    · simp at h
    · split_ifs at h
      obtain rfl := Option.some.inj h
      refine ⟨ha.global, ?_⟩
      intro r hr e' he' c hc
      rcases List.mem_append.1 hr with hr | hr
      · exact ha.chains r hr e' he' c hc
      · obtain rfl := List.mem_singleton.1 hr
        obtain rfl := List.mem_singleton.1 he'
        exact he c hc

/-- Mounting a handler behind its route keeps an application standard. -/
theorem handle {a a' : App} (ha : a.IsStandard) {method : Method} {group path : String}
    {handler : Handler} {route : List Interceptor} (hr : ∀ i ∈ route, Interceptor.Keeps i)
    (hh : handler.Keeps) (h : a.handle method group path handler route = some a') : a'.IsStandard := by
  refine ha.mount ?_ h
  intro c hc
  obtain rfl := Endpoint.chain.inj hc
  exact ⟨route, handler, by rw [ha.global], hr, hh⟩

theorem chain? {a : App} (ha : a.IsStandard) {req : Request} {path : String} {c : Chain}
    (h : a.chain? req = some (path, c)) : c.IsStandard := by
  obtain ⟨r, hr, method, he⟩ := App.mem_of_chain? h
  exact ha.chains r hr _ he c rfl

end App.IsStandard

/-- What is inside of the standard interceptors. -/
def Chain.inside (c : Chain) : Chain := ⟨c.interceptors.drop Api.global.length, c.handler⟩

theorem Chain.inside_new (route : List Interceptor) (handler : Handler) :
    (Chain.new Api.global route handler).inside = ⟨route, handler⟩ := by
  simp [inside, new]

theorem Chain.IsStandard.run_eq {c : Chain} (h : c.IsStandard) :
    c.run = Middleware.shield c.inside.run := by
  obtain ⟨route, handler, rfl, -⟩ := h
  rw [inside_new]
  exact Middleware.run_standard route handler

theorem Chain.IsStandard.keeps {c : Chain} (h : c.IsStandard) : Handler.Keeps c.inside.run := by
  obtain ⟨route, handler, rfl, hr, hh⟩ := h
  rw [inside_new]
  exact Chain.keeps_run hr hh

namespace Service

variable (s : Service) (req : Request) (id : String) (clock : Instant)

/-- What comes out of the inside of a chain. -/
def insideResult (c : Chain) : Result Response :=
  c.inside.run req (s.env clock) (Context.new id clock s.cancelled)

/-- All that a request gives off whose inside ended in the failure. -/
def failureReport (c : Chain) (f : Failure) : List Effect :=
  let answer := ErrorResponse.ofError f.toError
  Middleware.report req (s.insideResult req id clock c).effects
    (Middleware.endingOf (.error (.error f.toError)))
    [.event (Middleware.failureEvent (f.traced (s.telemetry clock).trace) answer.status)]
    answer.status (s.telemetry clock).elapsed

variable {s req id clock} {c : Chain}

/-- The status that an answer is logged with is the last one on record. -/
theorem dispatch_of_answer (hc : c.IsStandard) {v : RequestValues} {answer : Response}
    (hv : (s.insideResult req id clock c).context.values = some v)
    (h : (s.insideResult req id clock c).outcome = .ok answer) :
    let effects := Middleware.report req (s.insideResult req id clock c).effects .answered []
      (v.status.getD 0) (s.telemetry clock).elapsed
    s.dispatch c req id clock = ({ s with counters := s.counters.applyAll effects },
      ⟨.ok answer, (Effect.events effects).map (⟨·, some id⟩), Effect.notes effects⟩) := by
  have hrun := Middleware.shield_of_ok rfl hv h
  rw [← hc.run_eq] at hrun
  simp only [dispatch, hrun]
  rfl

theorem dispatch_of_ok (hc : c.IsStandard) {answer : Response}
    (h : (s.insideResult req id clock c).outcome = .ok answer) :
    ∃ status effects,
      effects = Middleware.report req (s.insideResult req id clock c).effects .answered [] status
        (s.telemetry clock).elapsed ∧
      s.dispatch c req id clock = ({ s with counters := s.counters.applyAll effects },
        ⟨.ok answer, (Effect.events effects).map (⟨·, some id⟩), Effect.notes effects⟩) := by
  obtain ⟨v, hv⟩ := Option.isSome_iff_exists.1
    (hc.keeps req (s.env clock) (Context.new id clock s.cancelled) rfl)
  exact ⟨_, _, rfl, dispatch_of_answer hc hv h⟩

/-- The answer of a failure. Only a shutdown gets out of the chain, is logged once more, and asks
for the shutdown. -/
theorem dispatch_of_error (hc : c.IsStandard) {f : Failure}
    (h : (s.insideResult req id clock c).outcome = .error f) :
    s.dispatch c req id clock =
      ({ s with
          counters := s.counters.applyAll (s.failureReport req id clock c f)
          channel := f.shutdown?.elim s.channel fun reason => (s.channel.signal reason).1 },
        ⟨.ok (ErrorResponse.ofError f.toError).response,
          (Effect.events (s.failureReport req id clock c f)).map (⟨·, some id⟩) ++
            f.shutdown?.elim [] fun reason =>
              [⟨.errorEscaped id reason, none⟩, ⟨.shutdownRequested reason, none⟩],
          Effect.notes (s.failureReport req id clock c f)⟩) := by
  obtain ⟨v, hv⟩ := Option.isSome_iff_exists.1
    (hc.keeps req (s.env clock) (Context.new id clock s.cancelled) rfl)
  have hrun := Middleware.shield_of_error rfl hv h
  rw [← hc.run_eq] at hrun
  have hreport : Middleware.report req
      (c.inside.run req (s.env clock) (Context.new id clock s.cancelled)).effects
      (Middleware.endingOf (.error (.error f.toError)))
      [.event (Middleware.failureEvent (f.traced (s.env clock).telemetry.trace)
        (ErrorResponse.ofError f.toError).status)]
      (ErrorResponse.ofError f.toError).status (s.env clock).telemetry.elapsed =
        s.failureReport req id clock c f := rfl
  simp only [dispatch, hrun, hreport]
  cases hf : f.shutdown? with
  | none =>
    have hcall : f.toError.isShutdown = false := by rw [f.isShutdown_toError, hf]; rfl
    simp [hcall]
  | some reason =>
    have hcall : f.toError.isShutdown = true := by rw [f.isShutdown_toError, hf]; rfl
    have htext := Failure.text_toError hf
    have hanswer := Failure.ofError_toError hf
    simp [hcall, htext, hanswer, signal, ErrorResponse.response]

/-! Runs. -/

/-- A request arrives, or the listener takes the oldest reason for a shutdown. -/
inductive Move
  | request (req : Request) (clock : Instant) (fresh : String)
  | receive

/-- What came of a move; `inside` is the outcome inside of the standard interceptors, if the request
has a chain. -/
inductive Entry
  | served (req : Request) (inside : Option (Except Failure Response)) (reply : Reply)
  | received (r : Shutdown.Received)

def inside? (s : Service) (req : Request) (clock : Instant) (fresh : String) :
    Option (Except Failure Response) :=
  (s.app.chain? req).map fun (path, c) =>
    (s.insideResult (req.entering path fresh) (RequestId.adopt req fresh) clock c).outcome

theorem inside?_of_chain? {s : Service} {req : Request} {path : String} {c : Chain}
    (h : s.app.chain? req = some (path, c)) (clock : Instant) (fresh : String) :
    s.inside? req clock fresh = some (s.insideResult (req.entering path fresh)
      (RequestId.adopt req fresh) clock c).outcome := by
  rw [inside?, h]
  rfl

theorem inside?_of_chain?_eq_none {s : Service} {req : Request} (h : s.app.chain? req = none)
    (clock : Instant) (fresh : String) : s.inside? req clock fresh = none := by
  rw [inside?, h]
  rfl

def step (s : Service) : Move → Service × Entry
  | .request req clock fresh =>
    ((s.serve req clock fresh).1,
      .served req (s.inside? req clock fresh) (s.serve req clock fresh).2)
  | .receive => ({ s with channel := s.channel.receive.1 }, .received s.channel.receive.2)

def run (s : Service) : List Move → Service
  | [] => s
  | m :: rest => run (s.step m).1 rest

def log (s : Service) : List Move → List Entry
  | [] => []
  | m :: rest => (s.step m).2 :: log (s.step m).1 rest

namespace Entry

end Entry

def lost : Handler := fun _ => Flow.fail (.shutdown "lost")

def broken : Handler := fun _ => Flow.panicWith none

/-- Tells of a panic that did not happen. -/
def told : Handler := fun _ => Flow.fail (.panicked "told" "")

def failingRoute (path : String) (h : Handler) : Route :=
  ⟨path, (Bytes.ofString path).map .byte, [(.get, .chain (Chain.new Api.global [] h))]⟩

def failingApp : App :=
  ⟨Api.global, [failingRoute "/lost" lost, failingRoute "/broken" broken]⟩

theorem keeps_raise (f : Failure) : Handler.Keeps fun _ => Flow.raise f := fun _ _ _ h => h

def failingService : Service where
  app := failingApp
  keys := .empty
  auth := ⟨"k"⟩
  users := .new "i" ⟨60, 0⟩ 1
  counters := .zero
  channel := .new
  cancelled := false
  hostname := none
  telemetry := default

def plainRequest (method path : String) : Request := ⟨method, path, none, [], [], none, none⟩

end Service

end Turnstile
