import Turnstile.Proofs.Service.Api
import Turnstile.Proofs.Service.Rejection

/-! Requests that follow each other. What one of them leaves behind is counts, reasons for a
shutdown, and on its thread the trace of a panic; none of it bears on the answer to another. -/

namespace Turnstile

/-! The trace of a panic goes into the log, and no handler of the service looks at it. -/

/-- The same, where a panic leaves this trace. -/
def Env.withTrace (env : Env) (trace : String) : Env :=
  { env with telemetry := ⟨trace, env.telemetry.elapsed⟩ }

/-- Whatever trace a panic would leave, it comes to the same. -/
def Flow.Untraced {α : Type} (m : Flow α) : Prop :=
  ∀ env c trace, m (env.withTrace trace) c = m env c

def Handler.Untraced (h : Handler) : Prop := ∀ req, (h req).Untraced

namespace Flow

variable {α β : Type}

theorem untraced_bind {m : Flow β} {f : β → Flow α} (hm : m.Untraced) (hf : ∀ b, (f b).Untraced) :
    (m >>= f).Untraced := by
  intro env c trace
  rw [bind_apply, bind_apply, hm env c trace]
  cases (m env c).outcome with
  | error e => rfl
  | ok b => simp only [hf b env (m env c).context trace]

/-- The environment may be asked for anything but the trace. -/
theorem untraced_bind_env {f : Env → Flow α} (hf : ∀ env, (f env).Untraced)
    (hsame : ∀ env trace, f (env.withTrace trace) = f env) : (Flow.env >>= f).Untraced := by
  intro env c trace
  rw [bind_apply, bind_apply, env_apply, env_apply]
  simp only [hsame, hf env env c trace]

theorem untraced_values : values.Untraced := by
  refine untraced_bind (fun _ _ _ => rfl) fun c => ?_
  cases c.requireValues with
  | error e => exact fun _ _ _ => rfl
  | ok v => exact fun _ _ _ => rfl

end Flow

namespace Handler

open Turnstile.Flow

theorem untraced_test : test.Untraced := fun _ _ _ _ => rfl

theorem untraced_me : me.Untraced := by
  intro req
  refine untraced_bind (fun _ _ _ => rfl) fun c => ?_
  cases c.claims with
  | none => exact fun _ _ _ => rfl
  | some claims => exact fun _ _ _ => rfl

theorem untraced_decode {α : Type} (read : Bytes → Option α) (req : Request) :
    (decode read req).Untraced := by
  unfold decode
  split_ifs
  · exact fun _ _ _ => rfl
  · cases read req.body with
    | none => exact fun _ _ _ => rfl
    | some a => exact fun _ _ _ => rfl

theorem untraced_token : token.Untraced := by
  intro req
  refine untraced_bind untraced_values fun v => untraced_bind (untraced_decode _ req) fun t => ?_
  split
  · refine untraced_bind_env (fun env => ?_) fun _ _ => rfl
    split
    · exact fun _ _ _ => rfl
    · refine untraced_bind (fun _ _ _ => rfl) fun c => ?_
      split_ifs
      · exact fun _ _ _ => rfl
      · split
        · exact fun _ _ _ => rfl
        · exact untraced_bind (fun _ _ _ => rfl) fun _ _ _ _ => rfl
  · exact fun _ _ _ => rfl

variable {next : Handler} (h : next.Untraced)
include h

theorem Untraced.requireToken : Untraced (Middleware.requireToken next) := by
  intro req
  unfold Middleware.requireToken
  split
  · exact fun _ _ _ => rfl
  · refine untraced_bind_env (fun env => ?_) fun _ _ => rfl
    split
    · exact untraced_bind (fun _ _ _ => rfl) fun _ _ _ _ => rfl
    · exact untraced_bind (fun _ _ _ => rfl) fun _ => h req

theorem Untraced.requireRole (roles : List String) :
    Untraced (Middleware.requireRole roles next) := by
  intro req
  refine untraced_bind (fun _ _ _ => rfl) fun c => ?_
  cases c.claims with
  | none => exact fun _ _ _ => rfl
  | some claims =>
    simp only
    split_ifs
    · exact h req
    · exact untraced_bind (fun _ _ _ => rfl) fun _ _ _ _ => rfl

end Handler

theorem Api.untraced_inside {req : Request} {path : String} {c : Chain}
    (h : app.chain? req = some (path, c)) : Handler.Untraced c.inside.run := by
  obtain ⟨route, handler, rfl, hroute, hhandler⟩ := exists_of_chain? h
  rw [Chain.inside_new]
  have hhandler : handler.Untraced := by
    rcases hhandler with rfl | rfl | rfl
    · exact Handler.untraced_test
    · exact Handler.untraced_me
    · exact Handler.untraced_token
  rcases hroute with rfl | ⟨roles, rfl⟩
  · exact hhandler
  · exact (hhandler.requireRole _).requireToken

namespace Service

/-! One request. -/

/-- The same but for what requests leave behind and for being cancelled. -/
structure Like (s t : Service) : Prop where
  app : t.app = s.app
  keys : t.keys = s.keys
  auth : t.auth = s.auth
  users : t.users = s.users
  hostname : t.hostname = s.hostname
  telemetry : t.telemetry = s.telemetry

theorem Like.refl (s : Service) : s.Like s := ⟨rfl, rfl, rfl, rfl, rfl, rfl⟩

theorem Like.trans {s t u : Service} (h : s.Like t) (h' : t.Like u) : s.Like u where
  app := h'.app.trans h.app
  keys := h'.keys.trans h.keys
  auth := h'.auth.trans h.auth
  users := h'.users.trans h.users
  hostname := h'.hostname.trans h.hostname
  telemetry := h'.telemetry.trans h.telemetry

theorem Like.env {s t : Service} (h : s.Like t) (clock : Instant) : t.env clock = s.env clock := by
  rw [Service.env, Service.env, h.keys, h.auth, h.users, h.hostname, h.telemetry]

/-- The service where a panic leaves this trace. -/
def withTrace (s : Service) (trace : String) : Service :=
  { s with telemetry := fun clock => ⟨trace, (s.telemetry clock).elapsed⟩ }

theorem Like.withTrace {s t : Service} (h : s.Like t) (trace : String) :
    (s.withTrace trace).Like (t.withTrace trace) where
  app := h.app
  keys := h.keys
  auth := h.auth
  users := h.users
  hostname := h.hostname
  telemetry := by rw [Service.withTrace, Service.withTrace, h.telemetry]

section Request

variable {s t : Service} {req : Request} {clock : Instant} {fresh path : String} {c : Chain}

/-- A dispatch looks at no counter and no reason. -/
theorem dispatch_snd_eq {id : String} (henv : t.env clock = s.env clock)
    (hcancelled : t.cancelled = s.cancelled) :
    (t.dispatch c req id clock).2 = (s.dispatch c req id clock).2 := by
  simp only [dispatch, henv, hcancelled]
  rcases (c.run req (s.env clock) (Context.new id clock s.cancelled)).outcome with (e | message) | a
  · rfl
  · rfl
  · rfl

theorem serve_like (s : Service) (req : Request) (clock : Instant) (fresh : String) :
    s.Like (s.serve req clock fresh).1 := by
  obtain ⟨counters, channel, h⟩ := serve_frame s req clock fresh
  rw [h]
  exact ⟨rfl, rfl, rfl, rfl, rfl, rfl⟩

/-- On a chain, a request gets what it gets from any service that is like this one. -/
theorem Like.serve_snd_eq (h : s.Like t) (hcancelled : t.cancelled = s.cancelled)
    (hc : s.app.chain? req = some (path, c)) :
    (t.serve req clock fresh).2 = (s.serve req clock fresh).2 := by
  have hc' : t.app.chain? req = some (path, c) := by rw [h.app, hc]
  rw [serve_of_chain? hc, serve_of_chain? hc', dispatch_snd_eq (h.env clock) hcancelled]

/-- The trace does not get into an answer. -/
theorem outcome_serve_withTrace (hs : s.app = Api.app) (hc : s.app.chain? req = some (path, c))
    (trace : String) : ((s.withTrace trace).serve req clock fresh).2.outcome =
      (s.serve req clock fresh).2.outcome := by
  have huntraced := Api.untraced_inside (hs ▸ hc)
  obtain ⟨route, handler, rfl, -⟩ := Api.exists_of_chain? (hs ▸ hc)
  rw [Chain.inside_new] at huntraced
  have hrouted : ∀ req id, (s.withTrace trace).routed route handler req id clock =
      s.routed route handler req id clock :=
    fun req id => huntraced req (s.env clock) (Context.new id clock s.cancelled) trace
  rw [outcome_serve (s := s.withTrace trace) hc, outcome_serve hc, hrouted]

end Request

/-! Claims. -/

section Claims

variable {s : Service} {req : Request} {clock : Instant} {fresh : String}

theorem me_apply {env : Env} {c : Context} {v : RequestValues} {claims : Claims}
    (hv : c.values = some v) (hc : c.claims = some claims) : Handler.me req env c =
      ⟨.ok (Response.json 200 claims.json.bytes),
        { c with values := some { v with status := some 200 } }, []⟩ := by
  rw [Handler.me, Flow.bind_apply, Flow.context_apply]
  simp only [hc]
  rw [Flow.respond_apply hv]
  simp [hc]

/-- No refusal for want of a token or a role looks like an answer. -/
theorem status_settled_ofAuth (e : AuthError) (c : Context) (effects : List Effect) :
    (Result.mk (.error (.error (.ofAuth e))) c effects : Result Response).settled.status ≠ 200 := by
  have hstatus : e.status ≠ 200 := by cases e <;> simp [AuthError.status]
  have hanswer : (ErrorResponse.ofError (.ofAuth e)).status ≠ 200 := by
    by_cases h500 : e.status = 500
    · rw [Error.ofAuth, if_pos h500]
      simp [ErrorResponse.ofError, ErrorResponse.generic]
    · rw [Guard.status_ofAuth h500]
      exact hstatus
  simp only [Result.settled, Flow.Outcome.settled, Failure.toError, Failure.traced]
  split_ifs
  · exact hanswer
  · decide

/-- Behind both guards the claims are those of the token that the request bears. -/
theorem claims_of_guarded {roles : List Role} {env : Env} {c : Context} {v : RequestValues}
    (hv : c.values = some v)
    (h : ((Chain.mk (Api.guarded roles) Handler.me).run req env c).settled.status = 200) :
    ∃ token claims, req.Bears token ∧
      env.auth.validate env.keys token env.clock.seconds = .ok claims ∧
      ((Chain.mk (Api.guarded roles) Handler.me).run req env c).settled.body =
        claims.json.bytes := by
  have hrun : (Chain.mk (Api.guarded roles) Handler.me).run req env c =
      Middleware.requireToken (Middleware.requireRole (roles.map Role.name) Handler.me) req env c :=
    rfl
  rw [hrun, Middleware.requireToken_apply] at h
  rw [hrun, Middleware.requireToken_apply]
  cases htoken : bearerToken? req.authorization with
  | none =>
    rw [htoken] at h
    exact absurd h (status_settled_ofAuth _ _ _)
  | some token =>
    rw [htoken] at h
    simp only at h ⊢
    cases hverdict : env.auth.validate env.keys token env.clock.seconds with
    | error e =>
      rw [hverdict] at h
      exact absurd h (status_settled_ofAuth _ _ _)
    | ok claims =>
      have hclaims : (c.setClaims claims).claims = some claims := rfl
      rw [hverdict] at h
      simp only [Middleware.requireRole_apply, hclaims] at h ⊢
      split_ifs at h ⊢
      · refine ⟨token, claims, (req.bears_iff token).2 htoken, hverdict, ?_⟩
        rw [me_apply (c := c.setClaims claims) hv hclaims]
        rfl
      · exact absurd h (status_settled_ofAuth _ _ _)

theorem chain?_me (hs : s.app = Api.app) (hmethod : req.method = "GET")
    (hpath : req.path = "/v1/users/me") : s.app.chain? req =
      some ("/v1/users/me", Chain.new Api.global (Api.guarded [.admin, .user]) Handler.me) := by
  unfold App.chain?
  rw [hs, hmethod, hpath]
  rfl

theorem claims_of_me (hs : s.app = Api.app) (hmethod : req.method = "GET")
    (hpath : req.path = "/v1/users/me") {answer : Response}
    (ho : (s.serve req clock fresh).2.outcome = .ok answer) (h200 : answer.status = 200) :
    ∃ token claims, req.Bears token ∧
      s.auth.validate s.keys token clock.seconds = .ok claims ∧
        answer.body = claims.json.bytes := by
  rw [outcome_serve (chain?_me hs hmethod hpath)] at ho
  obtain rfl := Except.ok.inj ho
  rw [status_share, status_finish] at h200
  obtain ⟨token, claims, hbears, hverdict, hbody⟩ := claims_of_guarded rfl h200
  refine ⟨token, claims, ?_, hverdict, ?_⟩
  · rw [Request.bears_iff] at hbears ⊢
    rwa [Request.authorization_entering] at hbears
  · have hget : req.method ≠ "HEAD" := by
      rw [hmethod]
      decide
    rw [body_share, body_finish hget]
    exact hbody

end Claims

/-! Many requests. -/

def noTrace : String := "backtrace unavailable"

/-- The inside of the chain panics. -/
def panics (s : Service) (req : Request) (clock : Instant) (fresh : String) : Bool :=
  match s.inside? req clock fresh with
  | some (.error (.panic _)) => true
  | _ => false

/-- A request is answered on one of the threads, where a panic leaves a trace if traces are taken.
In between a panic may happen elsewhere on a thread, the service may be cancelled, and the listener
may take a reason for a shutdown. -/
inductive Turn
  | request (thread : ℕ) (backtrace : Option String) (req : Request) (clock : Instant)
      (fresh : String)
  | panicked (thread : ℕ) (backtrace : String)
  | cancel
  | receive

/-- A request that was answered, with the trace that a panic of it would have left. -/
structure Visit where
  req : Request
  clock : Instant
  fresh : String
  cancelled : Bool
  trace : String
  reply : Reply

end Service

open Service

/-- The service, and what each thread keeps of its last panic. -/
structure Pool where
  service : Service
  slots : ℕ → Option String

namespace Pool

/-- A panic that is recovered from takes the trace of its thread along. -/
def step (p : Pool) : Turn → Pool × Option Visit
  | .request thread backtrace req clock fresh =>
    let trace := (backtrace.or (p.slots thread)).getD noTrace
    let r := (p.service.withTrace trace).serve req clock fresh
    let slots :=
      if p.service.panics req clock fresh then Function.update p.slots thread none else p.slots
    (⟨{ r.1 with telemetry := p.service.telemetry }, slots⟩,
      some ⟨req, clock, fresh, p.service.cancelled, trace, r.2⟩)
  | .panicked thread backtrace =>
    (⟨p.service, Function.update p.slots thread (some backtrace)⟩, none)
  | .cancel => (⟨{ p.service with cancelled := true }, p.slots⟩, none)
  | .receive => (⟨{ p.service with channel := p.service.channel.receive.1 }, p.slots⟩, none)

def run (p : Pool) : List Turn → Pool
  | [] => p
  | t :: rest => run (p.step t).1 rest

def log (p : Pool) : List Turn → List Visit
  | [] => []
  | t :: rest => (p.step t).2.toList ++ log (p.step t).1 rest

end Pool

namespace Service

/-- A request that has a chain gets what it would get as the first one, on a thread where a panic
leaves this trace. -/
def Visit.IsFirst (s : Service) (v : Visit) : Prop :=
  ∀ path c, s.app.chain? v.req = some (path, c) →
    v.reply =
      (({ s with cancelled := v.cancelled }.withTrace v.trace).serve v.req v.clock v.fresh).2

theorem Like.step {s : Service} {p : Pool} (h : s.Like p.service) (t : Turn) :
    s.Like (p.step t).1.service ∧ ∀ v ∈ (p.step t).2, v.IsFirst s := by
  cases t with
  | request thread backtrace req clock fresh =>
    have hserve := serve_like (p.service.withTrace ((backtrace.or (p.slots thread)).getD noTrace))
      req clock fresh
    refine ⟨h.trans ⟨hserve.app, hserve.keys, hserve.auth, hserve.users, hserve.hostname, rfl⟩, ?_⟩
    intro v hv path c hc
    obtain rfl := Option.some.inj hv
    have hlike : Like { s with cancelled := p.service.cancelled } p.service :=
      ⟨h.app, h.keys, h.auth, h.users, h.hostname, h.telemetry⟩
    exact (hlike.withTrace _).serve_snd_eq rfl hc
  | panicked thread backtrace =>
    exact ⟨h, by simp [Pool.step]⟩
  | cancel =>
    exact ⟨⟨h.app, h.keys, h.auth, h.users, h.hostname, h.telemetry⟩, by simp [Pool.step]⟩
  | receive =>
    exact ⟨⟨h.app, h.keys, h.auth, h.users, h.hostname, h.telemetry⟩, by simp [Pool.step]⟩

theorem Like.run {s : Service} {p : Pool} (h : s.Like p.service) (turns : List Turn) :
    s.Like (p.run turns).service ∧ ∀ v ∈ p.log turns, v.IsFirst s := by
  induction turns generalizing p with
  | nil => exact ⟨h, by simp [Pool.log]⟩
  | cons t rest ih =>
    obtain ⟨hlike, hvisit⟩ := h.step t
    obtain ⟨hrun, hrest⟩ := ih hlike
    refine ⟨hrun, ?_⟩
    intro v hv
    rcases List.mem_append.1 hv with hv | hv
    · apply hvisit v
      exact Option.mem_toList.1 hv
    · exact hrest v hv

/-- Over any run of the service, on any threads and with panics in between, neither the keys nor the
users change, and every request that has a chain is answered and logged as if it came first, but for
the trace that the log shows of a panic, which shows in no answer. Who asks for itself sees the
claims of the token that it sent. -/
theorem requests_are_isolated (s : Service) (hs : s.app = Api.app) (slots : ℕ → Option String)
    (turns : List Turn) :
    ((Pool.mk s slots).run turns).service.keys = s.keys ∧
    ((Pool.mk s slots).run turns).service.users = s.users ∧
    ∀ v ∈ (Pool.mk s slots).log turns, ∀ path c, s.app.chain? v.req = some (path, c) →
      v.reply =
        (({ s with cancelled := v.cancelled }.withTrace v.trace).serve v.req v.clock v.fresh).2 ∧
      v.reply.outcome =
        ({ s with cancelled := v.cancelled }.serve v.req v.clock v.fresh).2.outcome ∧
      ∃ answer, v.reply.outcome = .ok answer ∧
        (v.req.method = "GET" → v.req.path = "/v1/users/me" → answer.status = 200 →
          ∃ token claims, v.req.Bears token ∧
            s.auth.validate s.keys token v.clock.seconds = .ok claims ∧
            answer.body = claims.json.bytes) := by
  obtain ⟨hlike, hvisits⟩ := (Like.refl s).run (p := ⟨s, slots⟩) turns
  refine ⟨hlike.keys, hlike.users, ?_⟩
  intro v hv path c hc
  have hfirst := hvisits v hv path c hc
  have hsame : v.reply.outcome =
      ({ s with cancelled := v.cancelled }.serve v.req v.clock v.fresh).2.outcome := by
    rw [hfirst]
    exact outcome_serve_withTrace (s := { s with cancelled := v.cancelled }) hs hc v.trace
  have hstandard : s.app.IsStandard := by
    rw [hs]
    exact Api.isStandard_app
  obtain ⟨route, handler, rfl, -⟩ := hstandard.chain? hc
  have ho := outcome_serve (s := { s with cancelled := v.cancelled }) hc v.clock v.fresh
  refine ⟨hfirst, hsame, _, hsame.trans ho, ?_⟩
  intro hmethod hpath h200
  exact claims_of_me (s := { s with cancelled := v.cancelled }) hs hmethod hpath ho h200

def apiService : Service := { failingService with app := Api.app }

theorem requests_are_isolated_cancelled :
    apiService.app = Api.app ∧
      ∃ v ∈ (Pool.mk apiService fun _ => none).log
          [.panicked 0 "elsewhere", .request 0 none (plainRequest "GET" "/v1/users/me") ⟨0, 0⟩ "a",
            .cancel, .request 0 none (plainRequest "GET" "/v1/test") ⟨1, 0⟩ "b"],
        v.req.path = "/v1/test" ∧ v.cancelled = true ∧
        v.reply.outcome = ({ apiService with cancelled := true }.serve
          (plainRequest "GET" "/v1/test") ⟨1, 0⟩ "b").2.outcome := by
  refine ⟨rfl, _, List.mem_cons_of_mem _ List.mem_cons_self, rfl, rfl, ?_⟩
  obtain ⟨-, -, hvisits⟩ := requests_are_isolated apiService rfl (fun _ => none)
    [.panicked 0 "elsewhere", .request 0 none (plainRequest "GET" "/v1/users/me") ⟨0, 0⟩ "a",
      .cancel, .request 0 none (plainRequest "GET" "/v1/test") ⟨1, 0⟩ "b"]
  exact (hvisits _ (List.mem_cons_of_mem _ List.mem_cons_self) "/v1/test" _ rfl).2.1

end Service

end Turnstile
