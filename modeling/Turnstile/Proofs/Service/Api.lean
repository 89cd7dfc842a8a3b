import Turnstile.Proofs.Flow.Login
import Turnstile.Proofs.Flow.Rule
import Turnstile.Proofs.Service.Containment

/-! The routes of the service are standard, and the one for tokens is found. -/

namespace Turnstile

open Turnstile.Flow

namespace Api

theorem keeps_of_mem_guarded {roles : List Role} : ∀ i ∈ guarded roles, Interceptor.Keeps i := by
  intro i hi
  obtain ⟨m, -, rfl⟩ := List.mem_map.1 hi
  exact m.keeps

/-- The application of the service is one to which the containment of failures applies. -/
theorem isStandard_app : app.IsStandard where
  global := rfl
  chains := by
    have hnone : ∀ i ∈ ([] : List Interceptor), Interceptor.Keeps i := by simp
    intro r hr e he c hc
    obtain ⟨⟨method, path, endpoint⟩, hmem, rfl⟩ := List.mem_map.1 hr
    obtain rfl := List.mem_singleton.1 he
    subst hc
    simp only [endpoints, List.mem_cons, List.not_mem_nil, or_false, Prod.mk.injEq] at hmem
    obtain ⟨-, -, h⟩ | ⟨-, -, h⟩ | ⟨-, -, h⟩ | ⟨-, -, h⟩ | ⟨-, -, h⟩ | ⟨-, -, h⟩ | ⟨-, -, h⟩ := hmem
    · exact ⟨_, _, Endpoint.chain.inj h, hnone, Handler.keeps_test⟩
    · exact ⟨_, _, Endpoint.chain.inj h, keeps_of_mem_guarded, Handler.keeps_test⟩
    · exact ⟨_, _, Endpoint.chain.inj h, hnone, Handler.keeps_token⟩
    · exact ⟨_, _, Endpoint.chain.inj h, keeps_of_mem_guarded, Handler.keeps_me⟩
    all_goals cases h

/-- What a request of the service runs: one of three handlers, with or without a guard. -/
theorem exists_of_chain? {req : Request} {path : String} {c : Chain}
    (h : app.chain? req = some (path, c)) :
    ∃ route handler, c = Chain.new global route handler ∧
      (route = [] ∨ ∃ roles, route = guarded roles) ∧
      (handler = Handler.test ∨ handler = Handler.me ∨ handler = Handler.token) := by
  obtain ⟨r, hr, method, he⟩ := App.mem_of_chain? h
  obtain ⟨⟨m, p, endpoint⟩, hmem, rfl⟩ := List.mem_map.1 hr
  obtain ⟨rfl, rfl⟩ := Prod.mk.inj (List.mem_singleton.1 he)
  simp only [endpoints, List.mem_cons, List.not_mem_nil, or_false, Prod.mk.injEq] at hmem
  obtain ⟨-, -, h⟩ | ⟨-, -, h⟩ | ⟨-, -, h⟩ | ⟨-, -, h⟩ | ⟨-, -, h⟩ | ⟨-, -, h⟩ | ⟨-, -, h⟩ := hmem
  · exact ⟨_, _, Endpoint.chain.inj h, .inl rfl, .inl rfl⟩
  · exact ⟨_, _, Endpoint.chain.inj h, .inr ⟨_, rfl⟩, .inl rfl⟩
  · exact ⟨_, _, Endpoint.chain.inj h, .inl rfl, .inr (.inr rfl)⟩
  · exact ⟨_, _, Endpoint.chain.inj h, .inr ⟨_, rfl⟩, .inr (.inl rfl)⟩
  all_goals cases h

theorem meets_inside (ρ : Rule) {req : Request} {path : String} {c : Chain}
    (h : app.chain? req = some (path, c)) : Handler.Meets ρ c.inside.run c.inside.run := by
  obtain ⟨route, handler, rfl, hroute, hhandler⟩ := exists_of_chain? h
  rw [Chain.inside_new]
  apply Chain.meets_run
  · rcases hroute with rfl | ⟨roles, rfl⟩
    · exact .nil
    · exact .cons (Middleware.meets_requireToken ρ) (.cons (Middleware.meets_requireRole ρ _) .nil)
  · rcases hhandler with rfl | rfl | rfl
    · exact Handler.meets_test ρ
    · exact Handler.meets_me ρ
    · exact Handler.meets_token ρ

theorem chain?_token {req : Request} (hmethod : req.method = "POST")
    (hpath : req.path = "/v1/users/token") :
    app.chain? req = some ("/v1/users/token", Chain.new global [] Handler.token) := by
  unfold App.chain?
  rw [hmethod, hpath]
  rfl

end Api

namespace Service

/-- Serving leaves all of the service alone but its counters and its channel. -/
theorem serve_frame (s : Service) (req : Request) (clock : Instant) (fresh : String) :
    ∃ counters channel,
      (s.serve req clock fresh).1 = { s with counters := counters, channel := channel } := by
  cases h : s.app.chain? req with
  | none =>
    obtain ⟨answer, hserve⟩ := serve_of_chain?_eq_none h clock fresh
    exact ⟨s.counters, s.channel, by rw [hserve]⟩
  | some found =>
    obtain ⟨path, c⟩ := found
    rw [serve_of_chain? h, dispatch]
    split
    · exact ⟨_, _, rfl⟩
    · exact ⟨_, _, rfl⟩
    · exact ⟨_, _, rfl⟩

end Service

end Turnstile
