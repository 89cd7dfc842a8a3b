import Turnstile.Flow.Handler
import Turnstile.Proofs.Flow.Standard

/-! What holds all along a flow. A rule is about the contexts that a flow is in, the effects that it
gives off and its answers; what is made of parts that meet a rule meets it as well. Two flows meet a
rule together if they also do the same under it, so that neither shows what it does elsewhere. -/

namespace Turnstile

/-- No rule is broken by a status or claims that are recorded, by an event, or by a response. -/
structure Flow.Rule where
  context : Context → Prop
  effect : Effect → Prop
  answer : Response → Context → Prop
  status {c : Context} {v : RequestValues} (n : ℕ) : context c → c.values = some v →
    context { c with values := some { v with status := some n } }
  claims {c : Context} (claims : Claims) : context c → context (c.setClaims claims)
  event (e : Event) : effect (.event e)
  respond {env : Env} {c : Context} {status : ℕ} {body : Bytes} {a : Response} : context c →
    (Flow.respond status body env c).outcome = .ok a →
    answer a (Flow.respond status body env c).context

open Turnstile.Flow (Rule)

structure Result.Meets {α : Type} (ρ : Rule) (P : α → Context → Prop) (r : Result α) : Prop where
  context : ρ.context r.context
  effects : ∀ e ∈ r.effects, ρ.effect e
  answer : ∀ a, r.outcome = .ok a → P a r.context

/-- From a context of the rule, both flows do the same and meet it. -/
def Flow.Meets {α : Type} (ρ : Rule) (P : α → Context → Prop) (m m' : Flow α) : Prop :=
  ∀ env c, ρ.context c → m env c = m' env c ∧ (m env c).Meets ρ P

namespace Flow

variable {α β : Type} {ρ : Rule} {P : α → Context → Prop}

theorem meets_of {m : Flow α} (h : ∀ env c, ρ.context c → (m env c).Meets ρ P) : Meets ρ P m m :=
  fun env c hc => ⟨rfl, h env c hc⟩

theorem Meets.mono {P' : α → Context → Prop} {m m' : Flow α} (h : Meets ρ P m m')
    (hP : ∀ a c, P a c → P' a c) : Meets ρ P' m m' := by
  intro env c hc
  obtain ⟨hsame, hcontext, heffects, hanswer⟩ := h env c hc
  exact ⟨hsame, hcontext, heffects, fun a ha => hP a _ (hanswer a ha)⟩

theorem meets_pure {a : α} (h : ∀ c, ρ.context c → P a c) : Meets ρ P (pure a) (pure a) := by
  refine meets_of fun env c hc => ⟨hc, by simp, ?_⟩
  intro b hb
  obtain rfl := Except.ok.inj hb
  exact h c hc

theorem meets_raise (f : Failure) : Meets ρ P (raise f) (raise f) :=
  meets_of fun _ _ hc => ⟨hc, by simp, by simp⟩

theorem meets_ofOutcome {o : Except Failure α} (h : ∀ a, o = .ok a → ∀ c, ρ.context c → P a c) :
    Meets ρ P (ofOutcome o) (ofOutcome o) := by
  cases o with
  | error f => exact meets_raise f
  | ok a => exact meets_pure (h a rfl)

/-- What is told of the value of the first flow goes into the second. -/
theorem meets_bind {Q : β → Prop} {m m' : Flow β} {f f' : β → Flow α}
    (hm : Meets ρ (fun b _ => Q b) m m') (hf : ∀ b, Q b → Meets ρ P (f b) (f' b)) :
    Meets ρ P (m >>= f) (m' >>= f') := by
  intro env c hc
  obtain ⟨hsame, hcontext, heffects, hvalue⟩ := hm env c hc
  rw [bind_apply, bind_apply, ← hsame]
  cases ho : (m env c).outcome with
  | error e => exact ⟨rfl, hcontext, heffects, by simp⟩
  | ok b =>
    obtain ⟨hsame', hcontext', heffects', hanswer⟩ := hf b (hvalue b ho) env _ hcontext
    refine ⟨by simp only [hsame'], hcontext', ?_, hanswer⟩
    intro e he
    rcases List.mem_append.1 he with he | he
    · exact heffects e he
    · exact heffects' e he

theorem meets_attempt {Q : α → Prop} {m m' : Flow α} (hm : Meets ρ (fun a _ => Q a) m m') :
    Meets ρ (fun o _ => ∀ a, o = .ok a → Q a) m.attempt m'.attempt := by
  intro env c hc
  obtain ⟨hsame, hcontext, heffects, hvalue⟩ := hm env c hc
  rw [attempt_apply, attempt_apply, ← hsame]
  refine ⟨rfl, hcontext, heffects, ?_⟩
  intro o ho
  obtain rfl := Except.ok.inj ho
  exact hvalue

section Steps

theorem meets_context : Meets ρ (fun _ _ => True) context context :=
  meets_of fun _ _ hc => ⟨hc, by simp, fun _ _ => trivial⟩

theorem meets_env : Meets ρ (fun _ _ => True) env env :=
  meets_of fun _ _ hc => ⟨hc, by simp, fun _ _ => trivial⟩

theorem meets_values : Meets ρ (fun _ _ => True) values values := by
  refine meets_bind (Q := fun _ => True) meets_context fun c _ => ?_
  cases c.requireValues with
  | error e => exact meets_raise _
  | ok v => exact meets_pure fun _ _ => trivial

theorem meets_emit {e : Effect} (he : ρ.effect e) : Meets ρ (fun _ _ => True) (emit e) (emit e) :=
  meets_of fun _ _ hc => ⟨hc, by simpa [emit] using he, fun _ _ => trivial⟩

theorem meets_log (e : Event) : Meets ρ (fun _ _ => True) (log e) (log e) :=
  meets_emit (ρ.event e)

theorem meets_setClaims (claims : Claims) :
    Meets ρ (fun _ _ => True) (setClaims claims) (setClaims claims) :=
  meets_of fun _ _ hc => ⟨ρ.claims claims hc, by simp [setClaims], fun _ _ => trivial⟩

theorem meets_setStatus (status : ℕ) :
    Meets ρ (fun _ _ => True) (setStatus status) (setStatus status) := by
  refine meets_of fun env c hc => ?_
  cases hv : c.values with
  | none =>
    have hresult : setStatus status env c = ⟨.error (.error Context.valuesMissing), c, []⟩ := by
      simp [setStatus, Context.setStatus, hv]
    rw [hresult]
    exact ⟨hc, by simp, by simp⟩
  | some v =>
    rw [setStatus_apply env c hv]
    exact ⟨ρ.status status hc hv, by simp, fun _ _ => trivial⟩

theorem meets_respond (status : ℕ) (body : Bytes) :
    Meets ρ ρ.answer (respond status body) (respond status body) := by
  have hparts : Meets ρ (fun _ _ => True) (respond status body) (respond status body) :=
    meets_bind (Q := fun _ => True) (meets_setStatus status) fun _ _ => meets_pure fun _ _ => trivial
  refine meets_of fun env c hc => ?_
  obtain ⟨-, hcontext, heffects, -⟩ := hparts env c hc
  exact ⟨hcontext, heffects, fun a ha => ρ.respond hc ha⟩

end Steps

end Flow

/-- With request values, a response records its status. -/
theorem Flow.respond_eq_ok {env : Env} {c : Context} {status : ℕ} {body : Bytes} {a : Response}
    (h : (respond status body env c).outcome = .ok a) :
    a = (if status = 204 then Response.empty status else Response.json status body) := by
  cases hv : c.values with
  | none => simp [respond, bind_apply, setStatus, Context.setStatus, hv] at h
  | some v =>
    rw [respond_apply hv] at h
    exact (Except.ok.inj h).symm

/-! Handlers, interceptors and chains. -/

section Parts

variable (ρ : Rule)

def Handler.Meets (h h' : Handler) : Prop := ∀ req, Flow.Meets ρ ρ.answer (h req) (h' req)

def Interceptor.Meets (i i' : Interceptor) : Prop :=
  ∀ next next' : Handler, next.Meets ρ next' → (i next).Meets ρ (i' next')

variable {ρ}

theorem Chain.meets_run {is is' : List Interceptor} {h h' : Handler}
    (hi : List.Forall₂ (Interceptor.Meets ρ) is is') (hh : h.Meets ρ h') :
    Handler.Meets ρ (Chain.mk is h).run (Chain.mk is' h').run := by
  induction hi with
  | nil => exact hh
  | cons hi _ ih => exact hi _ _ ih

end Parts

open Turnstile.Flow

/-- Answers go by the response alone, and any JSON is one. -/
structure Flow.Rule.Plain (ρ : Rule) : Prop where
  answer {a : Response} {c : Context} (c' : Context) : ρ.answer a c → ρ.answer a c'
  json (status : ℕ) (body : Bytes) (c : Context) : ρ.answer (Response.json status body) c

theorem Flow.Rule.Plain.meets {ρ : Rule} (hρ : ρ.Plain) {m m' : Flow Response}
    (h : Meets ρ ρ.answer m m') : Meets ρ (fun a _ => ∀ c, ρ.answer a c) m m' :=
  h.mono fun _ _ ha c => hρ.answer c ha

namespace Handler

variable (ρ : Rule)

theorem meets_test : Meets ρ test test := fun _ => meets_respond _ _

theorem meets_me : Meets ρ me me := by
  intro req
  refine meets_bind meets_context fun c _ => ?_
  cases c.claims with
  | none => exact meets_raise _
  | some claims => exact meets_respond _ _

theorem meets_decode {α : Type} (read : Bytes → Option α) (req : Request) :
    Flow.Meets ρ (fun _ _ => True) (decode read req) (decode read req) := by
  unfold decode
  split_ifs
  · exact meets_raise _
  · cases read req.body with
    | none => exact meets_raise _
    | some a => exact meets_pure fun _ _ => trivial

theorem meets_token : Meets ρ token token := by
  intro req
  refine meets_bind meets_values fun v _ => meets_bind (meets_decode ρ _ req) fun t _ => ?_
  split
  · refine meets_bind meets_env fun env _ => ?_
    split
    · exact meets_raise _
    · refine meets_bind meets_context fun c _ => ?_
      split_ifs
      · exact meets_raise _
      · split
        · exact meets_raise _
        · exact meets_bind (meets_log _) fun _ _ => meets_respond _ _
  · exact meets_raise _

end Handler

namespace Middleware

variable (ρ : Rule)

theorem meets_requireToken : Interceptor.Meets ρ requireToken requireToken := by
  intro next next' hnext req
  unfold requireToken
  split
  · exact meets_raise _
  · refine meets_bind meets_env fun env _ => ?_
    split
    · exact meets_bind (meets_log _) fun _ _ => meets_raise _
    · exact meets_bind (meets_setClaims _) fun _ _ => hnext req

theorem meets_requireRole (roles : List String) :
    Interceptor.Meets ρ (requireRole roles) (requireRole roles) := by
  intro next next' hnext req
  refine meets_bind meets_context fun c _ => ?_
  split
  · exact meets_raise _
  · split_ifs
    · exact hnext req
    · exact meets_bind (meets_log _) fun _ _ => meets_raise _

variable {ρ}

theorem meets_recoverPanics (hρ : ρ.Plain) : Interceptor.Meets ρ recoverPanics recoverPanics := by
  intro next next' hnext req
  refine meets_bind (meets_attempt (hρ.meets (hnext req))) fun o ho => ?_
  rcases o with (e | message) | answer
  · exact meets_raise _
  · exact meets_bind meets_env fun _ _ => meets_raise _
  · exact meets_pure fun c _ => ho answer rfl c

theorem meets_countRequest (hρ : ρ.Plain)
    (hcount : ∀ path ending, ρ.effect (.count path ending)) :
    Interceptor.Meets ρ countRequest countRequest := by
  intro next next' hnext req
  refine meets_bind (meets_attempt (hρ.meets (hnext req))) fun o ho => ?_
  rcases o with (e | message) | answer
  · exact meets_bind (meets_emit (hcount _ _)) fun _ _ => meets_raise _
  · exact meets_raise _
  · exact meets_bind (meets_emit (hcount _ _)) fun _ _ => meets_pure fun c _ => ho answer rfl c

theorem meets_answerErrors (hρ : ρ.Plain) : Interceptor.Meets ρ answerErrors answerErrors := by
  intro next next' hnext req
  refine meets_bind meets_values fun v _ => ?_
  refine meets_bind (meets_attempt (hρ.meets (hnext req))) fun o ho => ?_
  rcases o with (e | message) | answer
  · refine meets_bind (meets_log _) fun _ _ => meets_bind (meets_setStatus _) fun _ _ => ?_
    split_ifs
    · exact meets_raise _
    · exact meets_pure fun c _ => hρ.json _ _ c
  · exact meets_raise _
  · exact meets_pure fun c _ => ho answer rfl c

theorem meets_logRequest (hρ : ρ.Plain) : Interceptor.Meets ρ logRequest logRequest := by
  intro next next' hnext req
  refine meets_bind meets_values fun v _ => meets_bind (meets_log _) fun _ _ => ?_
  refine meets_bind (meets_attempt (hρ.meets (hnext req))) fun o ho => ?_
  have hend : ∀ outcome : Except Failure Response, (∀ a, outcome = .ok a → ∀ c, ρ.answer a c) →
      let rest := do
        let context ← Flow.context
        let status := (context.values.bind (·.status)).getD 0
        let elapsed := (← Flow.env).telemetry.elapsed
        Flow.log (.requestCompleted req.method req.path req.remoteText status elapsed)
        Flow.ofOutcome outcome
      Flow.Meets ρ ρ.answer rest rest := by
    intro outcome h rest
    refine meets_bind meets_context fun _ _ => meets_bind meets_env fun _ _ => ?_
    refine meets_bind (meets_log _) fun _ _ => ?_
    exact meets_ofOutcome fun a ha c _ => h a ha c
  rcases o with (e | message) | answer
  · exact hend _ (by simp)
  · exact meets_raise _
  · exact hend _ ho

/-- The interceptors of the service meet every plain rule, the one that counts if it may. -/
theorem meets (hρ : ρ.Plain) (m : Middleware)
    (hcount : m = metrics → ∀ path ending, ρ.effect (.count path ending)) :
    m.intercept.Meets ρ m.intercept := by
  cases m with
  | logger => exact meets_logRequest hρ
  | errors => exact meets_answerErrors hρ
  | metrics => exact meets_countRequest hρ (hcount rfl)
  | panics => exact meets_recoverPanics hρ
  | authenticate => exact meets_requireToken ρ
  | authorize roles => exact meets_requireRole ρ roles

end Middleware

/-! The rule that request values stay in place. -/

def Flow.valued : Rule where
  context c := c.values.isSome = true
  effect _ := True
  answer _ _ := True
  status _ _ _ := rfl
  claims _ h := h
  event _ := trivial
  respond _ _ := trivial

theorem Flow.plain_valued : valued.Plain where
  answer _ _ := trivial
  json _ _ _ := trivial

theorem Handler.keeps_iff {h : Handler} : h.Keeps ↔ h.Meets Flow.valued h := by
  constructor
  · intro hk req env c hc
    exact ⟨rfl, hk req env c hc, fun _ _ => trivial, fun _ _ => trivial⟩
  · intro hm req env c hc
    exact (hm req env c hc).2.context

theorem Interceptor.Meets.keeps {i : Interceptor} (hi : i.Meets Flow.valued i) : i.Keeps :=
  fun next hnext => Handler.keeps_iff.2 (hi next next (Handler.keeps_iff.1 hnext))

theorem Middleware.keeps (m : Middleware) : Interceptor.Keeps m.intercept :=
  (Middleware.meets Flow.plain_valued m fun _ _ _ => trivial).keeps

namespace Handler

theorem keeps_test : test.Keeps := keeps_iff.2 (meets_test _)

theorem keeps_me : me.Keeps := keeps_iff.2 (meets_me _)

theorem keeps_token : token.Keeps := keeps_iff.2 (meets_token _)

end Handler

end Turnstile
