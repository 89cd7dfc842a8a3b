import Turnstile.Flow.Probe
import Turnstile.Proofs.Service.Isolation

/-! The counters of the service over a run. The standard interceptors count every request of a chain
once, by the path of its route and by how the inside of the chain ended. -/

namespace Turnstile

inductive Counter
  | requests
  | errors
  | panics
  deriving DecidableEq, Repr

namespace Counter

/-- Panics and the errors that tell of one. -/
def isPanic : Failure → Bool
  | .panic _ | .error (.panicked _ _) => true
  | .error _ => false

/-- Whether the counter goes up for a request that ended so. -/
def counts : Counter → Except Failure Response → Bool
  | requests, _ => true
  | errors, .ok _ => false
  | errors, .error _ => true
  | panics, .ok _ => false
  | panics, .error f => isPanic f

theorem counts_errors_of_panics {o : Except Failure Response} (h : panics.counts o = true) :
    errors.counts o = true := by
  cases o with
  | ok a => exact h
  | error f => rfl

end Counter

namespace Counters

def series (c : Counters) : Counter → Std.TreeMap String ℕ
  | .requests => c.requests
  | .errors => c.errors
  | .panics => c.panics

def value (c : Counters) (k : Counter) (path : String) : ℕ := (c.series k).getD path 0

theorem value_zero (k : Counter) (path : String) : zero.value k path = 0 := by
  cases k <;> simp [value, series, zero]

theorem getD_bump (m : Std.TreeMap String ℕ) (path other : String) :
    (bump m path).getD other 0 = m.getD other 0 + if path = other then 1 else 0 := by
  simp only [bump, Std.TreeMap.getD_insert, Std.LawfulEqCmp.compare_eq_iff_eq]
  split_ifs with h
  · rw [h]
  · rfl

/-- One request is counted under its path alone, by the counters that count its end. -/
theorem value_record (c : Counters) (path other : String) (o : Except Failure Response)
    (k : Counter) :
    (c.record path (Middleware.endingOf ((o.mapError Failure.toError).mapError .error))).value k
        other =
      c.value k other + if path = other ∧ k.counts o = true then 1 else 0 := by
  rcases o with ((_ | _ | _ | _ | _) | _) | _ <;> cases k <;>
    simp [record, value, series, getD_bump, Counter.counts, Counter.isPanic, Except.mapError,
      Failure.toError, Failure.traced, Middleware.endingOf]

end Counters

/-! The counts among the effects. -/

namespace Effect

def count? : Effect → Option (String × Ending)
  | count path ending => some (path, ending)
  | _ => none

def counts (es : List Effect) : List (String × Ending) := es.filterMap count?

theorem counts_append (es es' : List Effect) : counts (es ++ es') = counts es ++ counts es' :=
  List.filterMap_append

end Effect

theorem Counters.applyAll_eq (c : Counters) (es : List Effect) :
    c.applyAll es = (Effect.counts es).foldl (fun c e => c.record e.1 e.2) c := by
  induction es generalizing c with
  | nil => rfl
  | cons e es ih => cases e <;> exact ih _

def Handler.CountsNothing (h : Handler) : Prop :=
  ∀ req env c, Effect.counts (h req env c).effects = []

def Interceptor.CountsNothing (i : Interceptor) : Prop :=
  ∀ next : Handler, next.CountsNothing → (i next).CountsNothing

theorem Chain.countsNothing_run {route : List Interceptor} {handler : Handler}
    (hr : ∀ i ∈ route, Interceptor.CountsNothing i) (hh : handler.CountsNothing) :
    Handler.CountsNothing (Chain.mk route handler).run := by
  induction route with
  | nil => exact hh
  | cons i route ih =>
    obtain ⟨hi, hroute⟩ := List.forall_mem_cons.1 hr
    exact hi _ (ih hroute)

/-- Everything but counts. -/
def Flow.uncounting : Flow.Rule where
  context _ := True
  effect e := e.count? = none
  answer _ _ := True
  status _ _ _ := trivial
  claims _ _ := trivial
  event _ := rfl
  respond _ _ := trivial

theorem Flow.plain_uncounting : uncounting.Plain where
  answer _ _ := trivial
  json _ _ _ := trivial

theorem Handler.countsNothing_iff {h : Handler} :
    h.CountsNothing ↔ h.Meets Flow.uncounting h := by
  constructor
  · intro hc req env c _
    exact ⟨rfl, trivial, List.filterMap_eq_nil_iff.1 (hc req env c), fun _ _ => trivial⟩
  · intro hm req env c
    exact List.filterMap_eq_nil_iff.2 (hm req env c trivial).2.effects

theorem Interceptor.Meets.countsNothing {i : Interceptor} (hi : i.Meets Flow.uncounting i) :
    i.CountsNothing := fun next hnext =>
  Handler.countsNothing_iff.2 (hi next next (Handler.countsNothing_iff.1 hnext))

/-- Of the interceptors of the service one counts. -/
theorem Middleware.countsNothing {m : Middleware} (h : m ≠ metrics) :
    Interceptor.CountsNothing m.intercept :=
  (Middleware.meets Flow.plain_uncounting m fun hm => absurd hm h).countsNothing

namespace Middleware

variable (inner : Handler) (req : Request) (env : Env) {c : Context}

theorem counts_answerErrors (hc : c.values.isSome = true) :
    Effect.counts (answerErrors inner req env c).effects =
      Effect.counts (inner req env c).effects := by
  obtain ⟨v, hv⟩ := Option.isSome_iff_exists.1 hc
  simp only [answerErrors, Flow.bind_apply, Flow.values_apply _ _ hv, Flow.attempt_apply]
  rcases (inner req env c).outcome with (e | message) | answer
  · cases hi : (inner req env c).context.values with
    | none =>
      simp [Flow.bind_apply, Flow.setStatus, Context.setStatus, hi, Effect.counts, Effect.count?]
    | some v' =>
      simp only [Flow.bind_apply, Flow.log_apply, Flow.setStatus_apply _ _ hi]
      split_ifs <;> simp [Effect.counts, Effect.count?]
  · simp
  · simp

theorem counts_logRequest (hc : c.values.isSome = true) :
    Effect.counts (logRequest inner req env c).effects =
      Effect.counts (inner req env c).effects := by
  obtain ⟨v, hv⟩ := Option.isSome_iff_exists.1 hc
  simp only [logRequest, Flow.bind_apply, Flow.values_apply _ _ hv, Flow.attempt_apply,
    Flow.log_apply]
  rcases (inner req env c).outcome with (e | message) | answer <;>
    simp [Flow.bind_apply, Effect.counts, Effect.count?, List.filterMap_cons]

/-- Of what the standard interceptors give off themselves there is one count. -/
theorem counts_shield (hc : c.values.isSome = true) :
    Effect.counts (shield inner req env c).effects =
      Effect.counts (inner req env c).effects ++ [(req.template.getD req.path,
        endingOf (((inner req env c).outcome.mapError Failure.toError).mapError .error))] := by
  have hrecover := recoverPanics_apply inner req env c
  have hcount := countRequest_apply (recoverPanics inner) req env c
    (o := (inner req env c).outcome.mapError (Failure.traced env.telemetry.trace))
    (by rw [hrecover])
  rw [shield, counts_logRequest _ _ _ hc, counts_answerErrors _ _ _ hc, hcount, hrecover,
    Effect.counts_append, endingOf_traced]
  rfl

end Middleware

/-- The standard interceptors around a route and a handler that count nothing themselves. -/
def Chain.CountsOnce (c : Chain) : Prop :=
  ∃ route handler, c = Chain.new Api.global route handler ∧
    (∀ i ∈ route, Interceptor.CountsNothing i) ∧ handler.CountsNothing

def App.CountsOnce (a : App) : Prop :=
  ∀ req path c, a.chain? req = some (path, c) → c.CountsOnce

theorem Chain.CountsOnce.counts {c : Chain} (h : c.CountsOnce) (req : Request) (env : Env)
    {context : Context} (hv : context.values.isSome = true) :
    Effect.counts (c.run req env context).effects = [(req.template.getD req.path,
      Middleware.endingOf
        (((c.inside.run req env context).outcome.mapError Failure.toError).mapError .error))] := by
  obtain ⟨route, handler, rfl, hr, hh⟩ := h
  have hinside := Chain.countsNothing_run hr hh req env context
  have hrun : (Chain.new Api.global route handler).run =
      Middleware.shield (Chain.mk route handler).run := Middleware.run_standard route handler
  rw [inside_new, hrun, Middleware.counts_shield _ req env hv, hinside, List.nil_append]

/-- The service itself counts every request once. -/
theorem Api.countsOnce_app : app.CountsOnce := by
  intro req path c h
  obtain ⟨route, handler, rfl, hroute, hhandler⟩ := exists_of_chain? h
  refine ⟨route, handler, rfl, ?_, ?_⟩
  · rcases hroute with rfl | ⟨roles, rfl⟩
    · simp
    · simp only [guarded, List.map_cons, List.map_nil, List.forall_mem_cons]
      exact ⟨Middleware.countsNothing (by simp), Middleware.countsNothing (by simp), by simp⟩
  · rw [Handler.countsNothing_iff]
    rcases hhandler with rfl | rfl | rfl
    · exact Handler.meets_test _
    · exact Handler.meets_me _
    · exact Handler.meets_token _

namespace Service

variable {s : Service}

/-- The request of the entry was dispatched to the path, and the counter counts how the inside of
its chain ended. -/
def Entry.counted (a : App) (k : Counter) (path : String) : Entry → Bool
  | .served req (some o) _ => (a.chain? req).any (·.1 == path) && k.counts o
  | .served _ none _ => false
  | .received _ => false

theorem counters_dispatch (s : Service) (c : Chain) (req : Request) (id : String)
    (clock : Instant) : (s.dispatch c req id clock).1.counters =
      s.counters.applyAll
        (c.run req (s.env clock) (Context.new id clock s.cancelled)).effects := by
  simp only [dispatch]
  split <;> rfl

/-- One request. -/
theorem value_serve (hs : s.app.CountsOnce) (req : Request) (clock : Instant) (fresh : String)
    (k : Counter) (path : String) :
    (s.serve req clock fresh).1.counters.value k path = s.counters.value k path +
      if Entry.counted s.app k path (.served req (s.inside? req clock fresh)
        (s.serve req clock fresh).2) = true then 1 else 0 := by
  cases h : s.app.chain? req with
  | none =>
    obtain ⟨answer, hserve⟩ := serve_of_chain?_eq_none h clock fresh
    rw [hserve, inside?_of_chain?_eq_none h]
    rfl
  | some found =>
    obtain ⟨p, c⟩ := found
    have hvalues :
        (Context.new (RequestId.adopt req fresh) clock s.cancelled).values.isSome = true := rfl
    have hcounts := (hs req p c h).counts (req.entering p fresh) (s.env clock) hvalues
    rw [serve_of_chain? h, inside?_of_chain? h, counters_dispatch, Counters.applyAll_eq, hcounts]
    simp only [List.foldl_cons, List.foldl_nil, Counters.value_record, Entry.counted, h,
      Option.any_some, Bool.and_eq_true, beq_iff_eq]
    rfl

theorem step_app (s : Service) (m : Move) : (s.step m).1.app = s.app := by
  cases m with
  | request req clock fresh =>
    obtain ⟨counters, channel, h⟩ := serve_frame s req clock fresh
    rw [step, h]
  | receive => rfl

theorem value_step (hs : s.app.CountsOnce) (m : Move) (k : Counter) (path : String) :
    (s.step m).1.counters.value k path = s.counters.value k path +
      if Entry.counted s.app k path (s.step m).2 = true then 1 else 0 := by
  cases m with
  | request req clock fresh => exact value_serve hs req clock fresh k path
  | receive => rfl

theorem value_run (hs : s.app.CountsOnce) (moves : List Move) (k : Counter) (path : String) :
    (s.run moves).counters.value k path =
      s.counters.value k path + (s.log moves).countP (Entry.counted s.app k path) := by
  induction moves generalizing s with
  | nil => rfl
  | cons m rest ih =>
    have happ := step_app s m
    calc (s.run (m :: rest)).counters.value k path
        = (s.step m).1.counters.value k path +
            ((s.step m).1.log rest).countP (Entry.counted s.app k path) := by
          rw [run, ih (happ ▸ hs), happ]
      _ = s.counters.value k path + (s.log (m :: rest)).countP (Entry.counted s.app k path) := by
          rw [value_step hs, log, List.countP_cons]
          omega

theorem Entry.counted_mono {k k' : Counter}
    (h : ∀ o : Except Failure Response, k.counts o = true → k'.counts o = true) (a : App)
    (path : String) {e : Entry} (he : counted a k path e = true) : counted a k' path e = true := by
  rcases e with ⟨req, _ | o, reply⟩ | r
  · exact he
  · simp only [counted, Bool.and_eq_true] at he ⊢
    exact ⟨he.1, h o he.2⟩
  · exact he

theorem Entry.dispatched_of_counted {a : App} {k : Counter} {path : String} {req : Request}
    {inside : Option (Except Failure Response)} {reply : Reply}
    (h : counted a k path (.served req inside reply) = true) :
    ∃ c, a.chain? req = some (path, c) := by
  cases inside with
  | none => exact absurd h Bool.false_ne_true
  | some o =>
    simp only [counted, Bool.and_eq_true, Option.any_eq_true, beq_iff_eq] at h
    obtain ⟨⟨⟨p, c⟩, hc, rfl⟩, -⟩ := h
    exact ⟨c, hc⟩

theorem run_app (s : Service) (moves : List Move) : (s.run moves).app = s.app := by
  induction moves generalizing s with
  | nil => rfl
  | cons m rest ih => rw [run, ih, step_app]

/-- The counters after any run of an application whose chains count nothing but in their standard
interceptors. Of each path they tell how many requests were dispatched to it, of how many the
inside of the chain failed, and of how many it panicked or failed for a panic. A request leaves the
counters of every path alone but that of its own route. -/
theorem counters_of_run (hs : s.app.CountsOnce) (hz : s.counters = .zero) (moves : List Move) :
    let counters := (s.run moves).counters
    (∀ k path, counters.value k path = (s.log moves).countP (Entry.counted s.app k path)) ∧
    (∀ path, counters.value .panics path ≤ counters.value .errors path ∧
      counters.value .errors path ≤ counters.value .requests path) ∧
    ∀ req clock fresh path, (∀ c, s.app.chain? req ≠ some (path, c)) →
      ∀ k, ((s.run moves).serve req clock fresh).1.counters.value k path =
        counters.value k path := by
  intro counters
  have hvalue : ∀ k path,
      counters.value k path = (s.log moves).countP (Entry.counted s.app k path) := by
    intro k path
    rw [value_run hs, hz, Counters.value_zero, Nat.zero_add]
  refine ⟨hvalue, ?_, ?_⟩
  · intro path
    rw [hvalue, hvalue, hvalue]
    constructor
    · apply List.countP_mono_left
      exact fun e _ => Entry.counted_mono (fun o => Counter.counts_errors_of_panics) s.app path
    · apply List.countP_mono_left
      exact fun e _ => Entry.counted_mono (fun o _ => rfl) s.app path
  · intro req clock fresh path hother k
    have happ := run_app s moves
    rw [value_serve (happ ▸ hs), happ, if_neg, Nat.add_zero]
    intro he
    obtain ⟨c, hc⟩ := Entry.dispatched_of_counted he
    exact hother c hc

/-- A request that is turned down, one that is answered, and one outside of any chain. -/
def mixedMoves : List Move :=
  [.request (plainRequest "GET" "/v1/testauth") ⟨0, 0⟩ "a",
    .request (plainRequest "GET" "/v1/test") ⟨0, 0⟩ "b",
    .request (plainRequest "GET" "/debug/liveness") ⟨0, 0⟩ "c"]

theorem counters_of_run_mixed :
    apiService.app.CountsOnce ∧ apiService.counters = .zero ∧
      (apiService.run mixedMoves).counters.value .requests "/v1/test" = 1 ∧
      (apiService.run mixedMoves).counters.value .errors "/v1/testauth" = 1 ∧
      (apiService.run mixedMoves).counters.value .panics "/v1/testauth" = 0 ∧
      (apiService.run mixedMoves).counters.value .requests "/debug/liveness" = 0 := by
  have honce : apiService.app.CountsOnce := Api.countsOnce_app
  obtain ⟨hvalue, -, -⟩ := counters_of_run honce rfl mixedMoves
  exact ⟨honce, rfl, hvalue .requests "/v1/test", hvalue .errors "/v1/testauth",
    hvalue .panics "/v1/testauth", hvalue .requests "/debug/liveness"⟩

def countingTwice : List Interceptor := [Middleware.metrics.intercept]

/-- Answers for what panics behind it. -/
def mending : List Interceptor := [(Probe.recover 200 .null).intercept, Middleware.panics.intercept]

def miscountingService : Service :=
  { failingService with app := ⟨Api.global, [("/twice", countingTwice, Handler.test),
      ("/told", [], told), ("/mended", mending, broken)].map fun (path, route, h) =>
        ⟨path, (Bytes.ofString path).map .byte, [(.get, .chain (Chain.new Api.global route h))]⟩⟩ }

/-- The value of a counter after one request for the path. -/
def afterOne (s : Service) (path : String) (k : Counter) : ℕ :=
  (s.run [.request (plainRequest "GET" path) ⟨0, 0⟩ "a"]).counters.value k path

/-- A route may count a second time, an error may tell of a panic where there is none, and a route
may answer for a handler that panics; then the counters do not tell what happened. -/
theorem counters_of_run_miscounting :
    (do
      let a ← App.handle ⟨Api.global, []⟩ .get "" "/twice" Handler.test countingTwice
      let a ← a.handle .get "" "/told" told []
      a.handle .get "" "/mended" broken mending) = some miscountingService.app ∧
    miscountingService.counters = .zero ∧
    miscountingService.afterOne "/twice" .requests = 2 ∧
    ((∀ req env c, (told req env c).outcome = .error (.error (.panicked "told" ""))) ∧
      miscountingService.afterOne "/told" .panics = 1) ∧
    (∀ req env c, (broken req env c).outcome = .error (.panic none)) ∧
      miscountingService.afterOne "/mended" .requests = 1 ∧
      miscountingService.afterOne "/mended" .panics = 0 :=
  ⟨rfl, rfl, rfl, ⟨fun _ _ _ => rfl, rfl⟩, fun _ _ _ => rfl, rfl, rfl⟩

end Service

end Turnstile
