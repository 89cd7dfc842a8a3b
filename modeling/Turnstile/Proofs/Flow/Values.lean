import Turnstile.Flow.Probe
import Turnstile.Proofs.Flow.Discretion
import Turnstile.Proofs.Flow.Order
import Turnstile.Proofs.Flow.Rule

/-! What a context holds after any steps, and how a chain fails where request values are missing. -/

namespace Turnstile

namespace ScopeStep

def status? : ScopeStep → Option ℕ
  | setStatus n => some n
  | _ => none

def claims? : ScopeStep → Option Claims
  | setClaims claims => some claims
  | _ => none

/-- The last status and the last claims among the steps. -/
def lastStatus (steps : List ScopeStep) : Option ℕ := (steps.filterMap status?).getLast?

def lastClaims (steps : List ScopeStep) : Option Claims := (steps.filterMap claims?).getLast?

theorem lastStatus_concat (steps : List ScopeStep) (a : ScopeStep) :
    lastStatus (steps ++ [a]) = a.status?.or (lastStatus steps) := by
  cases a <;> simp [lastStatus, status?]

theorem lastClaims_concat (steps : List ScopeStep) (a : ScopeStep) :
    lastClaims (steps ++ [a]) = a.claims?.or (lastClaims steps) := by
  cases a <;> simp [lastClaims, claims?]

end ScopeStep

namespace Scope

open ScopeStep

def run (s : Scope) (steps : List ScopeStep) : Scope := steps.foldl (fun s a => (s.step a).1) s

/-- The scope that the steps lead to. A status is kept only beside request values, and a parent
reaches only the context that is linked to it. -/
def after (s : Scope) (steps : List ScopeStep) : Scope where
  context :=
    { values := s.context.values.map fun v => { v with status := (lastStatus steps).or v.status }
      claims := (lastClaims steps).or s.context.claims
      cancelled := s.context.cancelled || decide (cancel ∈ steps) ||
        s.context.linked && decide (cancelParent ∈ steps)
      linked := s.context.linked }
  parentCancelled := s.parentCancelled || decide (cancelParent ∈ steps)

theorem after_concat (s : Scope) (steps : List ScopeStep) (a : ScopeStep) :
    s.after (steps ++ [a]) = ((s.after steps).step a).1 := by
  obtain ⟨⟨values, claims, cancelled, linked⟩, parentCancelled⟩ := s
  simp only [after, lastStatus_concat, lastClaims_concat]
  cases a with
  | setStatus n => cases values <;> simp [step, Context.setStatus, status?, claims?]
  | setClaims c => simp [step, Context.setClaims, status?, claims?]
  | cancel => simp [step, Context.cancel, status?, claims?]
  | cancelParent => cases linked <;> simp [step, Context.cancel, status?, claims?]

theorem run_eq_after (s : Scope) (steps : List ScopeStep) : s.run steps = s.after steps := by
  induction steps using List.reverseRecOn with
  | nil =>
    obtain ⟨⟨_ | v, claims, cancelled, linked⟩, parentCancelled⟩ := s <;>
      simp [run, after, lastStatus, lastClaims]
  | append_singleton steps a ih =>
    rw [after_concat, ← ih, run, List.foldl_append]
    rfl

/-- Only a status that there is no place for is an error, and then nothing is done. -/
theorem step_of_missing {s : Scope} (hs : s.context.values = none) (n : ℕ) :
    s.step (.setStatus n) = (s, some Context.valuesMissing) := by
  simp [step, Context.setStatus, hs]

theorem step_of_values {s : Scope} {v : RequestValues} (hs : s.context.values = some v)
    (a : ScopeStep) : (s.step a).2 = none := by
  cases a <;> simp [step, Context.setStatus, hs]

end Scope

/-! The rule that no request values appear. -/

def Flow.valueless : Flow.Rule where
  context c := c.values = none
  effect _ := True
  answer _ _ := True
  status _ hc hv := absurd (hc.symm.trans hv) (by simp)
  claims _ hc := hc
  event _ := trivial
  respond _ _ := trivial

theorem Flow.plain_valueless : valueless.Plain where
  answer _ _ := trivial
  json _ _ _ := trivial

/-- From a context without request values, the interceptor hands none to the rest and leaves none,
and what it does there goes by what the rest does there. -/
def Interceptor.AddsNoValues (i : Interceptor) : Prop := i.Meets Flow.valueless i

theorem Middleware.addsNoValues (m : Middleware) : Interceptor.AddsNoValues m.intercept :=
  Middleware.meets Flow.plain_valueless m fun _ _ _ => trivial

open Turnstile.Flow

theorem Probe.meets {ρ : Rule} (hρ : ρ.Plain) (hnote : ∀ line, ρ.effect (.note line)) (p : Probe) :
    p.intercept.Meets ρ p.intercept := by
  intro next next' hnext req
  have hrest := meets_attempt (hρ.meets (hnext req))
  cases p with
  | record name =>
    refine meets_bind (meets_emit (hnote _)) fun _ _ => meets_bind hrest fun o ho => ?_
    rcases o with (e | message) | answer
    · exact meets_bind (meets_emit (hnote _)) fun _ _ => meets_raise _
    · exact meets_raise _
    · exact meets_bind (meets_emit (hnote _)) fun _ _ => meets_pure fun c _ => ho answer rfl c
  | reject e => exact meets_raise _
  | short status data => exact meets_respond _ _
  | panic message => exact meets_raise _
  | claims c => exact meets_bind (meets_setClaims c) fun _ _ => hnext req
  | failAfter e =>
    refine meets_bind hrest fun o _ => ?_
    rcases o with (e' | message) | answer <;> exact meets_raise _
  | recover status data =>
    refine meets_bind hrest fun o ho => ?_
    rcases o with (e | message) | answer
    · exact meets_respond _ _
    · exact meets_raise _
    · exact meets_pure fun c _ => ho answer rfl c

theorem Probe.addsNoValues (p : Probe) : Interceptor.AddsNoValues p.intercept :=
  p.meets plain_valueless fun _ => trivial

/-- Without request values the interceptor fails at once, and the rest is not run. -/
def Interceptor.NeedsValues (i : Interceptor) : Prop :=
  ∀ next req env c, c.values = none → i next req env c = Flow.fail Context.valuesMissing env c

/-- The interceptor runs the rest only on contexts with request values. -/
def Interceptor.RunsValued (i : Interceptor) : Prop :=
  ∀ next next' : Handler,
    (∀ req env c v, c.values = some v → next req env c = next' req env c) → i next = i next'

namespace Middleware

theorem needsValues_logger : Interceptor.NeedsValues logger.intercept :=
  fun next req env _ hc => logRequest_of_missing next req env hc

theorem needsValues_errors : Interceptor.NeedsValues errors.intercept :=
  fun next req env _ hc => answerErrors_of_missing next req env hc

theorem runsValued_logger : Interceptor.RunsValued logger.intercept := by
  intro next next' hnext
  funext req env c
  cases hc : c.values with
  | none => rw [needsValues_logger _ _ _ _ hc, needsValues_logger _ _ _ _ hc]
  | some v =>
    simp only [intercept, logRequest, bind_apply, values_apply env c hc, log_apply, attempt_apply,
      hnext req env c v hc]

theorem runsValued_errors : Interceptor.RunsValued errors.intercept := by
  intro next next' hnext
  funext req env c
  cases hc : c.values with
  | none => rw [needsValues_errors _ _ _ _ hc, needsValues_errors _ _ _ _ hc]
  | some v =>
    simp only [intercept, answerErrors, bind_apply, values_apply env c hc, attempt_apply,
      hnext req env c v hc]

end Middleware

theorem Flow.respond_of_missing {c : Context} (hc : c.values = none) (status : ℕ) (body : Bytes)
    (env : Env) : respond status body env c = Flow.fail Context.valuesMissing env c := by
  simp [respond, bind_apply, setStatus, Context.setStatus, hc]

namespace Chain

variable {before : List Interceptor} {i : Interceptor}

theorem run_of_missing (hbefore : ∀ i ∈ before, i.AddsNoValues) (hi : i.NeedsValues)
    (after : List Interceptor) (h : Handler) (req : Request) (env : Env) {c : Context}
    (hc : c.values = none) :
    (Chain.mk (before ++ i :: after) h).run req env c =
        (Chain.mk before fun _ => Flow.fail Context.valuesMissing).run req env c ∧
      ((Chain.mk (before ++ i :: after) h).run req env c).context.values = none := by
  -- without values, the rest from `i` on does what the failing handler does
  have hfails : Handler.Meets valueless (i (Chain.mk after h).run)
      fun _ => Flow.fail Context.valuesMissing := by
    intro req env c hc
    rw [hi _ req env c hc]
    exact ⟨rfl, hc, by simp, by simp⟩
  have hsame : List.Forall₂ (Interceptor.Meets valueless) before before :=
    List.forall₂_same.2 hbefore
  obtain ⟨hrun, hmeets⟩ := meets_run hsame hfails req env c hc
  rw [run_append, run_cons]
  exact ⟨hrun, hmeets.context⟩

theorem run_eq_of_valued (hi : i.RunsValued) (before : List Interceptor)
    {after after' : List Interceptor} {h h' : Handler}
    (hafter : ∀ req env c v, c.values = some v →
      (Chain.mk after h).run req env c = (Chain.mk after' h').run req env c) :
    (Chain.mk (before ++ i :: after) h).run = (Chain.mk (before ++ i :: after') h').run := by
  rw [run_append, run_append, run_cons, run_cons, hi _ _ hafter]

end Chain

namespace Context

open ScopeStep

/-- A context keeps the values it was made with, and one made without gets none, nor does it take a
status. Where logging or the answering of errors is reached without values, the run goes on as if
that failed and nothing were behind; it is reached so in a detached context if no interceptor before
it puts values into the context, as none of those here does. -/
theorem values_kept_or_missing :
    (∀ traceId now parent steps, let s := Scope.run ⟨new traceId now parent, parent⟩ steps
      s.context.requireValues = .ok ⟨traceId, now, lastStatus steps⟩ ∧
        s.context.traceId = traceId ∧ s.context.claims = lastClaims steps ∧
        (s.context.cancelled = true ↔
          parent = true ∨ ScopeStep.cancel ∈ steps ∨ ScopeStep.cancelParent ∈ steps) ∧
        (s.parentCancelled = true ↔ parent = true ∨ ScopeStep.cancelParent ∈ steps) ∧
        ∀ a, (s.step a).2 = none) ∧
    (∀ parent steps, let s := Scope.run ⟨detached, parent⟩ steps
      s.context.values = none ∧ s.context.traceId = zeroTraceId ∧
        s.context.requireValues = .error valuesMissing ∧
        (∀ n, s.context.setStatus n = .error valuesMissing ∧
          s.step (.setStatus n) = (s, some valuesMissing)) ∧
        s.context.claims = lastClaims steps ∧
        (s.context.cancelled = true ↔ ScopeStep.cancel ∈ steps) ∧
        (s.parentCancelled = true ↔ parent = true ∨ ScopeStep.cancelParent ∈ steps)) ∧
    valuesMissing.isShutdown = true ∧
    (∀ m, m = Middleware.logger ∨ m = Middleware.errors →
      (∀ next req env c, c.values = none →
        m.intercept next req env c = Flow.fail valuesMissing env c) ∧
      (∀ before after h, (∀ i ∈ before, Interceptor.AddsNoValues i) →
        ∀ req env c, c.values = none →
          let r := (Chain.mk (before ++ m.intercept :: after) h).run req env c
          r = (Chain.mk before fun _ => Flow.fail valuesMissing).run req env c ∧
            r.context.values = none) ∧
      ∀ before after after' h h',
        (∀ req env c v, c.values = some v →
          (Chain.mk after h).run req env c = (Chain.mk after' h').run req env c) →
        (Chain.mk (before ++ m.intercept :: after) h).run =
          (Chain.mk (before ++ m.intercept :: after') h').run) ∧
    (∀ m : Middleware, Interceptor.AddsNoValues m.intercept) ∧
    (∀ p : Probe, Interceptor.AddsNoValues p.intercept) ∧
    ∀ status body env c, c.values = none →
      Flow.respond status body env c = Flow.fail valuesMissing env c := by
  refine ⟨?_, ?_, rfl, ?_, Middleware.addsNoValues, Probe.addsNoValues, ?_⟩
  · intro traceId now parent steps s
    have hs : s = _ := Scope.run_eq_after _ steps
    have hvalues : s.context.values = some ⟨traceId, now, lastStatus steps⟩ := by
      rw [hs]
      simp [Scope.after, new]
    refine ⟨by simp [requireValues, hvalues], by simp [Context.traceId, hvalues], ?_, ?_, ?_,
      Scope.step_of_values hvalues⟩
    · simp [hs, Scope.after, new]
    · simp [hs, Scope.after, new, or_assoc]
    · simp [hs, Scope.after]
  · intro parent steps s
    have hs : s = _ := Scope.run_eq_after _ steps
    have hvalues : s.context.values = none := by
      rw [hs]
      rfl
    refine ⟨hvalues, by simp [Context.traceId, hvalues], by simp [requireValues, hvalues], ?_, ?_,
      ?_, ?_⟩
    · intro n
      exact ⟨by simp [Context.setStatus, hvalues], Scope.step_of_missing hvalues n⟩
    · simp [hs, Scope.after, detached]
    · simp [hs, Scope.after, detached]
    · simp [hs, Scope.after]
  · intro m hm
    have hneeds : Interceptor.NeedsValues m.intercept := by
      rcases hm with rfl | rfl
      · exact Middleware.needsValues_logger
      · exact Middleware.needsValues_errors
    have hruns : Interceptor.RunsValued m.intercept := by
      rcases hm with rfl | rfl
      · exact Middleware.runsValued_logger
      · exact Middleware.runsValued_errors
    refine ⟨hneeds, ?_, ?_⟩
    · intro before after h hbefore req env c hc
      exact Chain.run_of_missing hbefore hneeds after h req env hc
    · intro before after after' h h' hafter
      exact Chain.run_eq_of_valued hruns before hafter
  · intro status body env c hc
    exact Flow.respond_of_missing hc status body env

/-- A layer outside the log is left with the error, and what stands behind the log gives off
nothing. A handler behind it cannot answer for a context without values. -/
theorem values_kept_or_missing_recorded :
    let s := Scope.run ⟨detached, true⟩ [.setStatus 200, .setClaims Token.mersenneClaims]
    let outer := (Probe.record "outer").intercept
    let inner := (Probe.record "inner").intercept
    let echo := ProbeHandler.handle .echo
    let answers : Handler := fun req env c =>
      if c.values = none then ⟨.ok (Response.empty 204), c, []⟩ else echo req env c
    let r := (Chain.mk [outer, Middleware.logger.intercept, inner] echo).run Guard.mersenneRequest
      Guard.mersenneEnv s.context
    s.context = ⟨none, some Token.mersenneClaims, false, false⟩ ∧
      r.context.values = none ∧ r.effects = [.note "outer before", .note "outer after err"] ∧
      (Chain.mk [outer, Middleware.logger.intercept] echo).run =
        (Chain.mk [outer, Middleware.logger.intercept] answers).run := by
  intro s outer inner echo answers r
  obtain ⟨-, hdetached, -, hneeds, -, hprobe, -⟩ := values_kept_or_missing
  obtain ⟨-, hruns, hvalued⟩ := hneeds .logger (.inl rfl)
  obtain ⟨hr, hcontext⟩ := hruns [outer] [inner] echo (by simpa using hprobe (.record "outer"))
    Guard.mersenneRequest Guard.mersenneEnv s.context (hdetached true _).1
  refine ⟨rfl, hcontext, ?_, ?_⟩
  · calc r.effects
        = ((Chain.mk [outer] fun _ => Flow.fail valuesMissing).run Guard.mersenneRequest
            Guard.mersenneEnv s.context).effects := congrArg Result.effects hr
      _ = [.note "outer before", .note "outer after err"] := rfl
  · apply hvalued [outer] [] [] echo answers
    intro req env c v hc
    change echo req env c = answers req env c
    simp [answers, hc]

end Context

end Turnstile
