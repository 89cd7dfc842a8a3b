import Turnstile.Proofs.Service.Discretion

/-! Requests whose bearer token does not hold. A client cannot tell why, and what stands behind the
interceptor that asks for the token is not run. -/

namespace Turnstile

open Middleware

namespace Service

/-- The request runs a chain that asks for a token before all else of its route, and the token that
it bears does not hold. -/
structure Rejects (s : Service) (req : Request) (clock : Instant) (path : String)
    (rest : List Interceptor) (h : Handler) : Prop where
  chain : s.app.chain? req =
    some (path, Chain.new Api.global (Middleware.authenticate.intercept :: rest) h)
  rejected : ∃ token e, req.Bears token ∧ s.auth.validate s.keys token clock.seconds = .error e

/-- The answer to a token that does not hold. -/
def rejection : ErrorResponse := ⟨401, "authentication failed", none⟩

theorem ofError_ofAuth {e : AuthError} (h : Token.IsRejection e) :
    ErrorResponse.ofError (.ofAuth e) = rejection := by
  rw [Error.ofAuth, if_neg (by rw [h.status]; decide), h.status, h.publicMessage]
  rfl

section Finish

variable {method : String} (hm : method ≠ "HEAD")
include hm

end Finish

variable {s s' : Service} {req req' : Request} {clock clock' : Instant} {path path' : String}
  {rest rest' : List Interceptor} {h h' : Handler}

/-- The rest of the route and the handler do not show in what comes out of the route. -/
theorem exists_run_of_rejected (rejected : ∃ token e,
      req.Bears token ∧ s.auth.validate s.keys token clock.seconds = .error e)
    (path fresh : String) (c : Context) : ∃ e, Token.IsRejection e ∧
      ∀ (rest : List Interceptor) (h : Handler),
        (Chain.mk (Middleware.authenticate.intercept :: rest) h).run (req.entering path fresh)
            (s.env clock) c =
          ⟨.error (.error (.ofAuth e)), c, [.event (.tokenRejected e.message)]⟩ := by
  obtain ⟨token, e, hbears, hvalidate⟩ := rejected
  refine ⟨e, Token.isRejection_of_validate_error hvalidate, ?_⟩
  intro rest h
  have htoken : bearerToken? (req.entering path fresh).authorization = some token := by
    rw [Request.authorization_entering]
    exact (req.bears_iff token).1 hbears
  have hverdict : (s.env clock).auth.validate (s.env clock).keys token (s.env clock).clock.seconds =
      .error e := hvalidate
  have hrun := requireToken_apply (Chain.mk rest h).run (req.entering path fresh) (s.env clock) c
  rw [htoken] at hrun
  simp only [hverdict] at hrun
  exact hrun

theorem Rejects.outcome_serve (hr : s.Rejects req clock path rest h) (fresh : String) :
    (s.serve req clock fresh).2.outcome =
      .ok (share (RequestId.adopt req fresh) (finish req.method rejection.response)) := by
  obtain ⟨e, he, hrun⟩ := exists_run_of_rejected hr.rejected path fresh
    (Context.new (RequestId.adopt req fresh) clock s.cancelled)
  rw [Service.outcome_serve hr.chain, routed, hrun]
  simp only [Result.settled, Flow.Outcome.settled, Failure.toError, Failure.traced, ofError_ofAuth he]
  rfl

end Service

end Turnstile
