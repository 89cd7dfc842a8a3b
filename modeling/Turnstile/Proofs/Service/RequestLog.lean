import Turnstile.Proofs.Service.Api

/-! The log of a request: its start, what happens inside, at most one report of a failure, and its
end, with the status that the client gets. -/

namespace Turnstile

/-- What a line of the log says, with the trace id of its span. -/
structure Line where
  level : Level
  message : String
  fields : List (String × FieldValue)
  span : Option String

def Logged.line (l : Logged) : Line := ⟨l.event.level, l.event.message, l.event.fields, l.span⟩

def Request.fields (req : Request) : List (String × FieldValue) :=
  [("method", .text req.method), ("path", .text req.path), ("remote_addr", .text req.remoteText)]

/-! What is told of the outcome inside of the standard interceptors. -/

section Outcome

variable (id trace : String)

/-- Of a failure there is one report: that of a panic with its trace, or of an error that tells of
one, that of a fault of the service, or that of a request that was turned down. -/
inductive Reported : Except Failure Response → List Line → Prop
  | answered (a : Response) : Reported (.ok a) []
  | panic (message : Option String) : Reported (.error (.panic message))
    [⟨.error, "Request panicked",
      [("error", .text (message.getD "unknown panic payload")), ("trace", .text trace)], some id⟩]
  | panicked (message own : String) : Reported (.error (.error (.panicked message own)))
    [⟨.error, "Request panicked", [("error", .text message), ("trace", .text own)], some id⟩]
  | failed {e : Error} (hpanic : ∀ message trace, e ≠ .panicked message trace)
    (h : 500 ≤ (ErrorResponse.ofError e).status ∧ (ErrorResponse.ofError e).status < 600) :
    Reported (.error (.error e))
      [⟨.error, "Request failed", [("error", .text e.text)], some id⟩]
  | rejected {e : Error} (hpanic : ∀ message trace, e ≠ .panicked message trace)
    (h : ¬ (500 ≤ (ErrorResponse.ofError e).status ∧ (ErrorResponse.ofError e).status < 600)) :
    Reported (.error (.error e))
      [⟨.warn, "Request rejected",
        [("error", .text e.text), ("status", .number (ErrorResponse.ofError e).status)], some id⟩]

/-- Only an error that calls for a shutdown escapes, and its two lines are in no span. -/
inductive Escaped : Except Failure Response → List Line → Prop
  | shutdown (reason : String) : Escaped (.error (.error (.shutdown reason)))
    [⟨.error, "Unhandled error escaped the chain",
      [("trace_id", .text id), ("error", .text reason)], none⟩,
     ⟨.warn, "Shutdown requested", [("reason", .text reason)], none⟩]
  | contained {o : Except Failure Response} (h : ∀ reason, o ≠ .error (.error (.shutdown reason))) :
    Escaped o []

variable {id trace}

theorem reported_error (e : Error) : Reported id trace (.error (.error e))
    [(Logged.mk (Middleware.failureEvent e (ErrorResponse.ofError e).status) (some id)).line] := by
  by_cases hpanic : ∃ message trace, e = .panicked message trace
  · obtain ⟨message, trace, rfl⟩ := hpanic
    exact .panicked message trace
  · have hother : ∀ message trace, e ≠ .panicked message trace :=
      fun message trace h => hpanic ⟨message, trace, h⟩
    have hevent : Middleware.failureEvent e (ErrorResponse.ofError e).status =
        if 500 ≤ (ErrorResponse.ofError e).status && (ErrorResponse.ofError e).status < 600 then
          .requestFailed e.text
        else .requestRejected e.text (ErrorResponse.ofError e).status := by
      cases e with
      | panicked message trace => exact absurd rfl (hother message trace)
      | _ => rfl
    rw [hevent]
    split_ifs with hstatus
    · exact .failed hother (by simpa using hstatus)
    · exact .rejected hother (by simpa using hstatus)

/-- A panic is reported as the error that it becomes. -/
theorem reported (f : Failure) : Reported id trace (.error f)
    [(Logged.mk (Middleware.failureEvent (f.traced trace) (ErrorResponse.ofError f.toError).status)
      (some id)).line] := by
  cases f with
  | error e => exact reported_error e
  | panic message => exact .panic message

theorem escaped (f : Failure) : Escaped id (.error f) ((f.shutdown?.elim [] fun reason =>
    [⟨.errorEscaped id reason, none⟩, ⟨.shutdownRequested reason, none⟩]).map Logged.line) := by
  by_cases h : ∃ reason, f = .error (.shutdown reason)
  · obtain ⟨reason, rfl⟩ := h
    exact .shutdown reason
  · have hother : ∀ reason, f ≠ .error (.shutdown reason) := fun reason hf => h ⟨reason, hf⟩
    have hnone : f.shutdown? = none := by
      rcases f with (_ | _ | reason | _ | _) | _
      case error.shutdown => exact absurd rfl (hother reason)
      all_goals rfl
    rw [hnone]
    exact .contained fun reason ho => hother reason (Except.error.inj ho)

end Outcome

/-! Handlers that answer through `respond`. -/

def Context.recorded? (c : Context) : Option ℕ := c.values.bind (·.status)

/-- The answer is one that a call of `respond` built, and no status was recorded after it. -/
def Flow.Responded (answer : Response) (c : Context) : Prop :=
  ∃ status body env c', (respond status body env c').outcome = .ok answer ∧
    c.recorded? = (respond status body env c').context.recorded?

/-- A response that the handler gives is the one of its last call of `respond`. -/
def Handler.Responds (h : Handler) : Prop := ∀ req env c, c.values.isSome = true → ∀ answer,
  (h req env c).outcome = .ok answer → Flow.Responded answer (h req env c).context

/-- What `respond` records is the status of the response. -/
theorem Flow.Responded.status {answer : Response} {c : Context} (h : Responded answer c) :
    c.recorded? = some answer.status := by
  obtain ⟨status, body, env, c', ho, hrecorded⟩ := h
  have hanswer := respond_eq_ok ho
  cases hv : c'.values with
  | none => simp [respond, bind_apply, setStatus, Context.setStatus, hv] at ho
  | some v =>
    rw [hrecorded, respond_apply hv, hanswer]
    split_ifs <;> rfl

/-- With request values, and answers from `respond` alone. -/
def Flow.responding : Flow.Rule :=
  { valued with
    answer := Responded
    respond := fun _ ho => ⟨_, _, _, _, ho, rfl⟩ }

theorem Handler.Meets.responds {h : Handler} (hm : h.Meets Flow.responding h) : h.Responds :=
  fun req env c hc => (hm req env c hc).2.answer

theorem Api.responds {req : Request} {path : String} {c : Chain}
    (h : app.chain? req = some (path, c)) : Handler.Responds c.inside.run :=
  (meets_inside Flow.responding h).responds

namespace Service

variable {s : Service} {req : Request} {path : String} {c : Chain}

/-- The lines of all that is reported around the inside of a chain. -/
theorem lines_report (req : Request) (path fresh id : String) (inside : List Effect)
    (ending : Ending) (failure : List Effect) (status elapsed : ℕ) :
    let lines := fun es => (Effect.events es).map fun e => Logged.line ⟨e, some id⟩
    lines (Middleware.report (req.entering path fresh) inside ending failure status elapsed) =
      ⟨.info, "Request started", req.fields, some id⟩ :: lines inside ++ lines failure ++
        [⟨.info, "Request completed",
          req.fields ++ [("status", .number status), ("elapsed_ms", .number elapsed)],
          some id⟩] := by
  intro lines
  simp only [lines, Middleware.events_report, Request.method_entering, Request.path_entering,
    Request.remoteText_entering, List.map_cons, List.map_append, List.map_nil, List.cons_append,
    List.append_assoc]
  rfl

/-- The log of a request behind the standard interceptors, line by line: the start, what is logged
inside, one report if the inside fails, and the end. The status at the end is that of the response,
whatever was recorded before, and an error that calls for a shutdown is told of once more. -/
theorem log_of_request (h : s.app.chain? req = some (path, c)) (hc : c.IsStandard)
    (hr : Handler.Responds c.inside.run) (clock : Instant) (fresh : String) :
    let id := RequestId.adopt req fresh
    let inside := s.insideResult (req.entering path fresh) id clock c
    let reply := (s.serve req clock fresh).2
    let told := s.telemetry clock
    ∃ answer reports escapes, reply.outcome = .ok answer ∧
      Reported id told.trace inside.outcome reports ∧ Escaped id inside.outcome escapes ∧
      reply.logged.map Logged.line =
        ⟨.info, "Request started", req.fields, some id⟩ ::
          (Effect.events inside.effects).map (fun e => Logged.line ⟨e, some id⟩) ++ reports ++
          [⟨.info, "Request completed",
            req.fields ++ [("status", .number answer.status), ("elapsed_ms", .number told.elapsed)],
            some id⟩] ++
          escapes := by
  intro id inside reply told
  have hserve := serve_of_chain? h clock fresh
  have hreply : reply = Reply.map (fun r => share id (finish req.method r))
    (s.dispatch c (req.entering path fresh) id clock).2 := congrArg Prod.snd hserve
  rw [hreply]
  cases ho : inside.outcome with
  | ok answer =>
    obtain ⟨v, hv⟩ := Option.isSome_iff_exists.1
      (hc.keeps (req.entering path fresh) (s.env clock) (Context.new id clock s.cancelled) rfl)
    have hrecorded := (hr _ _ _ rfl answer ho).status
    rw [Context.recorded?, hv, Option.bind_some] at hrecorded
    rw [dispatch_of_answer hc hv ho]
    refine ⟨_, [], [], rfl, .answered answer, .contained (by simp), ?_⟩
    have hlines := lines_report req path fresh id inside.effects .answered [] answer.status
      (s.telemetry clock).elapsed
    rw [status_share, status_finish, List.append_nil]
    simp only [Reply.map, List.map_map, hrecorded]
    exact hlines
  | error f =>
    rw [dispatch_of_error hc ho]
    refine ⟨_, _, _, rfl, reported f, escaped f, ?_⟩
    rw [status_share, status_finish]
    simp only [Reply.map, List.map_append, List.map_map]
    exact congrArg (· ++ _) (lines_report req path fresh id inside.effects _ _ _ _)

/-- Records that it created something, and fails then. -/
def halfway : Handler := fun _ => do
  let _ ← Flow.respond 201 []
  Flow.fail (.shutdown "lost")

theorem meets_halfway (ρ : Flow.Rule) : halfway.Meets ρ halfway := fun _ =>
  Flow.meets_bind (Q := fun _ => True) ((Flow.meets_respond _ _).mono fun _ _ _ => trivial)
    fun _ _ => Flow.meets_raise _

def halfwayService : Service :=
  { failingService with app := ⟨Api.global, [failingRoute "/halfway" halfway]⟩ }

theorem log_of_request_halfway :
    halfwayService.app.chain? (plainRequest "GET" "/halfway") =
        some ("/halfway", Chain.new Api.global [] halfway) ∧
      (Chain.new Api.global [] halfway).IsStandard ∧
      Handler.Responds (Chain.new Api.global [] halfway).inside.run ∧
      ((halfwayService.serve (plainRequest "GET" "/halfway") ⟨0, 0⟩ "a").2.logged.map
          Logged.line).map (·.message) =
        ["Request started", "Request failed", "Request completed",
          "Unhandled error escaped the chain", "Shutdown requested"] ∧
      ⟨.info, "Request completed", (plainRequest "GET" "/halfway").fields ++
          [("status", .number 500), ("elapsed_ms", .number 0)], some "a"⟩ ∈
        (halfwayService.serve (plainRequest "GET" "/halfway") ⟨0, 0⟩ "a").2.logged.map
          Logged.line := by
  have hchain : halfwayService.app.chain? (plainRequest "GET" "/halfway") =
      some ("/halfway", Chain.new Api.global [] halfway) := rfl
  have hkeeps : halfway.Keeps := Handler.keeps_iff.2 (meets_halfway _)
  have hstandard : (Chain.new Api.global [] halfway).IsStandard :=
    ⟨[], halfway, rfl, by simp, hkeeps⟩
  have hresponds : Handler.Responds (Chain.new Api.global [] halfway).inside.run :=
    (meets_halfway Flow.responding).responds
  refine ⟨hchain, hstandard, hresponds, rfl, ?_⟩
  obtain ⟨answer, reports, escapes, ho, -, -, hlog⟩ :=
    log_of_request hchain hstandard hresponds ⟨0, 0⟩ "a"
  have hstatus : answer.status = 500 := by
    obtain rfl := Except.ok.inj ho
    rfl
  rw [hlog, ← hstatus]
  exact List.mem_append_left _ (List.mem_append_right _ (List.mem_singleton_self _))

/-- Answers, and records another status afterwards. -/
def afterthought : Handler := fun _ => do
  let answer ← Flow.respond 200 []
  Flow.setStatus 418
  pure answer

def misleadingService : Service :=
  { failingService with app :=
    ⟨Api.global, [failingRoute "/afterthought" afterthought, failingRoute "/told" told]⟩ }

theorem keeps_afterthought : afterthought.Keeps := by
  intro req env c hc
  obtain ⟨v, hv⟩ := Option.isSome_iff_exists.1 hc
  simp only [afterthought, Flow.bind_apply, Flow.respond_apply hv]
  rfl

/-- What comes out is what `respond` built. -/
theorem outcome_afterthought (req : Request) (env : Env) (c : Context) :
    (afterthought req env c).outcome = (Flow.respond 200 [] env c).outcome := by
  cases hv : c.values with
  | none =>
    have hset : ∀ n, Flow.setStatus n env c = ⟨.error (.error Context.valuesMissing), c, []⟩ := by
      simp [Flow.setStatus, Context.setStatus, hv]
    simp only [afterthought, Flow.respond, Flow.bind_apply, hset]
  | some v =>
    simp only [afterthought, Flow.bind_apply, Flow.respond_apply hv]
    rfl

theorem isStandard_misleading : misleadingService.app.IsStandard := by
  have hnone : ∀ i ∈ ([] : List Interceptor), Interceptor.Keeps i := by simp
  have hafterthought : App.handle ⟨Api.global, []⟩ .get "" "/afterthought" afterthought [] =
      some ⟨Api.global, [failingRoute "/afterthought" afterthought]⟩ := rfl
  have htold : App.handle ⟨Api.global, [failingRoute "/afterthought" afterthought]⟩ .get "" "/told"
      told [] = some misleadingService.app := rfl
  exact (App.IsStandard.empty.handle hnone keeps_afterthought hafterthought).handle hnone
    (keeps_raise _) htold

/-- The log has the status that was recorded last, which need not be that of the response where one
is recorded after it was built; and an error that tells of a panic is reported as one, where nothing
panicked. -/
theorem log_of_request_misleading :
    misleadingService.app.IsStandard ∧
    (∀ req env c, (afterthought req env c).outcome = (Flow.respond 200 [] env c).outcome) ∧
    (∃ answer,
      (misleadingService.serve (plainRequest "GET" "/afterthought") ⟨0, 0⟩ "a").2.outcome =
        .ok answer ∧ answer.status = 200 ∧
      ⟨.info, "Request completed", (plainRequest "GET" "/afterthought").fields ++
          [("status", .number 418), ("elapsed_ms", .number 0)], some "a"⟩ ∈
        (misleadingService.serve (plainRequest "GET" "/afterthought") ⟨0, 0⟩ "a").2.logged.map
          Logged.line) ∧
    (∀ req env c, (told req env c).outcome = .error (.error (.panicked "told" ""))) ∧
    ((misleadingService.serve (plainRequest "GET" "/told") ⟨0, 0⟩ "a").2.logged.map
        Logged.line).map (·.message) =
      ["Request started", "Request panicked", "Request completed"] := by
  refine ⟨isStandard_misleading, outcome_afterthought, ⟨_, rfl, rfl, ?_⟩, fun _ _ _ => rfl, rfl⟩
  exact List.mem_cons_of_mem _ (List.mem_singleton_self _)

end Service

end Turnstile
