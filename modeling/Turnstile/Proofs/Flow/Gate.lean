import Turnstile.Flow.Middleware
import Turnstile.Proofs.Bytes
import Turnstile.Proofs.Token.Acceptance

/-! Routes guarded by tokens and roles: the handler runs exactly when every guard lets the request
through, and otherwise the first guard that does not gives the error. -/

namespace Turnstile

/-! The bearer header. -/

/-- The bytes are the letters of `bearer`, each in either case. -/
def IsBearer (scheme : Bytes) : Prop :=
  List.Forall₂ (fun b c => b = c ∨ b + 32 = c) scheme (Bytes.ofString "bearer")

theorem either_case_iff {c : UInt8} (hc : c ∈ Bytes.ofString "bearer") (b : UInt8) :
    (b = c ∨ b + 32 = c) ↔ (if 65 ≤ b && b ≤ 90 then b + 32 else b) = c := by
  apply Bytes.of_forall_ofNat (n := 256) (P := fun b => ∀ c ∈ Bytes.ofString "bearer",
    (b = c ∨ b + 32 = c) ↔ (if 65 ≤ b && b ≤ 90 then b + 32 else b) = c) ?_ b.toNat_lt c hc
  decide +kernel

theorem isBearer_iff (scheme : Bytes) : IsBearer scheme ↔
    (scheme.map fun b => if 65 ≤ b && b ≤ 90 then b + 32 else b) = Bytes.ofString "bearer" := by
  have hletter : ∀ c ∈ Bytes.ofString "bearer", ∀ b : UInt8,
      (b = c ∨ b + 32 = c) ↔ (if 65 ≤ b && b ≤ 90 then b + 32 else b) = c := by
    intro c hc
    exact either_case_iff hc
  unfold IsBearer
  generalize Bytes.ofString "bearer" = letters at hletter
  induction scheme generalizing letters with
  | nil => cases letters <;> simp
  | cons b scheme ih =>
    cases letters with
    | nil => simp
    | cons c letters =>
      have hrest := ih letters fun c hc => hletter c (List.mem_cons_of_mem _ hc)
      rw [List.forall₂_cons, List.map_cons, List.cons.injEq]
      exact and_congr (hletter c List.mem_cons_self b) hrest

theorem bearerToken?_eq_some_iff (value token : Bytes) : bearerToken? value = some token ↔
    ∃ scheme, IsBearer scheme ∧ value = scheme ++ 32 :: token ∧ 32 ∉ scheme ∧ 32 ∉ token := by
  simp only [← Bytes.splitOn_eq_pair_iff, isBearer_iff]
  unfold bearerToken?
  refine ⟨?_, ?_⟩
  · intro h
    split at h
    · rename_i scheme token' hs
      split_ifs at h with hb
      obtain rfl := Option.some.inj h
      exact ⟨scheme, hb, hs⟩
    · simp at h
  · intro h
    rcases h with ⟨scheme, hb, hs⟩
    rw [hs]
    simp only [hb, if_true]

/-- The first authorization header is text: a scheme of `bearer`, one blank, and the token. -/
def Request.Bears (req : Request) (token : Bytes) : Prop :=
  ∃ value scheme, req.header? "authorization" = some value ∧ isHeaderText value = true ∧
    IsBearer scheme ∧ value = scheme ++ 32 :: token ∧ 32 ∉ scheme ∧ 32 ∉ token

theorem Request.bears_iff (req : Request) (token : Bytes) :
    req.Bears token ↔ bearerToken? req.authorization = some token := by
  have hempty : bearerToken? [] ≠ some token := by
    rw [Ne, bearerToken?_eq_some_iff]
    intro h
    rcases h with ⟨scheme, -, h, -⟩
    simp at h
  unfold Bears authorization
  refine ⟨?_, ?_⟩
  · intro h
    rcases h with ⟨value, scheme, hv, ht, hrest⟩
    rw [hv]
    simp only [ht, if_true]
    exact (bearerToken?_eq_some_iff _ _).2 ⟨scheme, hrest⟩
  · intro h
    split at h
    · rename_i value hv
      split_ifs at h with ht
      · obtain ⟨scheme, hrest⟩ := (bearerToken?_eq_some_iff _ _).1 h
        exact ⟨value, scheme, hv, ht, hrest⟩
      · exact absurd h hempty
    · exact absurd h hempty

namespace Middleware

variable (next : Handler) (req : Request) (env : Env) (c : Context)

theorem requireToken_apply : requireToken next req env c =
    match bearerToken? req.authorization with
    | none => ⟨.error (.error (.ofAuth .invalidAuthHeader)), c, []⟩
    | some token =>
      match env.auth.validate env.keys token env.clock.seconds with
      | .error e => ⟨.error (.error (.ofAuth e)), c, [.event (.tokenRejected e.message)]⟩
      | .ok claims => next req env (c.setClaims claims) := by
  unfold requireToken
  cases bearerToken? req.authorization with
  | none => rfl
  | some token =>
    simp only [Flow.bind_apply, Flow.env]
    cases env.auth.validate env.keys token env.clock.seconds with
    | error e => rfl
    | ok claims => simp [Flow.bind_apply, Flow.setClaims]

theorem requireRole_apply (roles : List String) : requireRole roles next req env c =
    match c.claims with
    | none => ⟨.error (.error (.request noClaims)), c, []⟩
    | some claims =>
      if claims.authorize roles = true then next req env c
      else ⟨.error (.error (.ofAuth (.insufficientPermissions claims.roles roles))), c,
        [.event (.authorizationDenied claims.subject claims.roles roles)]⟩ := by
  simp only [requireRole, Flow.bind_apply, Flow.context]
  cases c.claims with
  | none => rfl
  | some claims =>
    simp only
    split_ifs with hs
    · simp
    · rfl

end Middleware

/-! Guards. -/

/-- An interceptor that asks for a token or for a role. -/
inductive Guard
  | authenticate
  | authorize (roles : List String)
  deriving DecidableEq, Repr

namespace Guard

def middleware : Guard → Middleware
  | authenticate => .authenticate
  | authorize roles => .authorize roles

def intercept (g : Guard) : Interceptor := g.middleware.intercept

/-- The chain of a guarded route. -/
def chain (route : List Guard) (handler : Handler) : Handler :=
  (Chain.new [] (route.map intercept) handler).run

/-- The bearer token of the request is valid now and carries the claims. -/
def Identifies (env : Env) (req : Request) (claims : Claims) : Prop :=
  ∃ token, req.Bears token ∧ env.auth.validate env.keys token env.clock.seconds = .ok claims

def Shares (claims : Claims) (roles : List String) : Prop := ∃ role ∈ claims.roles, role ∈ roles

/-- Why a guard refuses a request that arrives with these claims. -/
inductive Refuses (env : Env) (req : Request) : Option Claims → Guard → Error → Prop
  | header {carried : Option Claims} (h : ∀ token, ¬ req.Bears token) :
    Refuses env req carried .authenticate (.ofAuth .invalidAuthHeader)
  | token {carried : Option Claims} {token : Bytes} {e : AuthError} (h : req.Bears token)
    (he : env.auth.validate env.keys token env.clock.seconds = .error e) :
    Refuses env req carried .authenticate (.ofAuth e)
  | anonymous {roles : List String} :
    Refuses env req none (.authorize roles) (.request Middleware.noClaims)
  | roles {claims : Claims} {roles : List String} (h : ¬ Shares claims roles) :
    Refuses env req (some claims) (.authorize roles)
      (.ofAuth (.insufficientPermissions claims.roles roles))

/-- The status of a refusal. -/
def status : Guard → ℕ
  | authenticate => 401
  | authorize _ => 403

/-- What a guard leaves in the context of a request that it lets through. -/
inductive Passes (env : Env) (req : Request) : Context → Guard → Context → Prop
  | authenticate {c : Context} {claims : Claims} (h : Identifies env req claims) :
    Passes env req c .authenticate (c.setClaims claims)
  | authorize {c : Context} {claims : Claims} {roles : List String} (h : c.claims = some claims)
    (hs : Shares claims roles) : Passes env req c (.authorize roles) c

variable {env : Env} {req : Request}

theorem authorize_iff (claims : Claims) (roles : List String) :
    claims.authorize roles = true ↔ Shares claims roles := by
  simp [Claims.authorize, Shares]

theorem status_ofAuth {e : AuthError} (h : e.status ≠ 500) :
    (ErrorResponse.ofError (.ofAuth e)).status = e.status := by
  rw [Error.ofAuth, if_neg h]
  rfl

theorem Refuses.status_eq {carried : Option Claims} {g : Guard} {e : Error}
    (h : Refuses env req carried g e) : (ErrorResponse.ofError e).status = g.status := by
  cases h with
  | header h => rfl
  | token h he =>
    have h401 := (Token.isRejection_of_validate_error he).status
    rw [status_ofAuth (by rw [h401]; decide)]
    exact h401
  | anonymous => rfl
  | roles h => rfl

theorem Identifies.unique {claims claims' : Claims} (h : Identifies env req claims)
    (h' : Identifies env req claims') : claims = claims' := by
  obtain ⟨token, hb, hv⟩ := h
  obtain ⟨token', hb', hv'⟩ := h'
  rw [Request.bears_iff] at hb hb'
  obtain rfl := Option.some.inj (hb.symm.trans hb')
  exact Except.ok.inj (hv.symm.trans hv')

/-- The rest of the chain runs in the context that the guard leaves, or not at all. -/
theorem intercept_cases (env : Env) (req : Request) (g : Guard) (c : Context) :
    (∃ c', Passes env req c g c' ∧ ∀ next, g.intercept next req env c = next req env c') ∨
    ∃ e effects, Refuses env req c.claims g e ∧
      ∀ next, g.intercept next req env c = ⟨.error (.error e), c, effects⟩ := by
  cases g with
  | authenticate =>
    simp only [intercept, middleware, Middleware.intercept, Middleware.requireToken_apply]
    cases hb : bearerToken? req.authorization with
    | none =>
      refine Or.inr ⟨_, _, .header ?_, fun next => rfl⟩
      intro token h
      rw [Request.bears_iff, hb] at h
      simp at h
    | some token =>
      have hbears := (req.bears_iff token).2 hb
      simp only
      cases hv : env.auth.validate env.keys token env.clock.seconds with
      | ok claims => exact Or.inl ⟨_, .authenticate ⟨token, hbears, hv⟩, fun next => rfl⟩
      | error e => exact Or.inr ⟨_, _, .token hbears hv, fun next => rfl⟩
  | authorize roles =>
    simp only [intercept, middleware, Middleware.intercept, Middleware.requireRole_apply]
    cases hc : c.claims with
    | none => exact Or.inr ⟨_, _, .anonymous, fun next => rfl⟩
    | some claims =>
      by_cases hs : Shares claims roles
      · refine Or.inl ⟨c, .authorize hc hs, ?_⟩
        intro next
        exact if_pos ((authorize_iff claims roles).2 hs)
      · refine Or.inr ⟨_, [.event (.authorizationDenied claims.subject claims.roles roles)],
          .roles hs, ?_⟩
        intro next
        exact if_neg (mt (authorize_iff claims roles).1 hs)

/-! Routes. -/

theorem chain_concat (route : List Guard) (g : Guard) (handler : Handler) :
    chain (route ++ [g]) handler = chain route (g.intercept handler) := by
  simp [chain, Chain.new, Chain.run]

/-- The route ends in the handler, which finds the context `c'`. -/
def Reaches (route : List Guard) (env : Env) (req : Request) (c c' : Context) : Prop :=
  ∀ handler, chain route handler req env c = handler req env c'

/-- The route ends in an error, whatever the handler. -/
def Fails (route : List Guard) (env : Env) (req : Request) (c c' : Context) (e : Error) : Prop :=
  ∃ effects, ∀ handler, chain route handler req env c = ⟨.error (.error e), c', effects⟩

/-- A route that asks for a token gets one that holds, and each role that it asks for is asked for
behind a token that shares it. -/
structure Admits (env : Env) (req : Request) (route : List Guard) : Prop where
  identified : .authenticate ∈ route → ∃ claims, Identifies env req claims
  authorized : ∀ before roles after, route = before ++ .authorize roles :: after →
    .authenticate ∈ before ∧ ∃ claims, Identifies env req claims ∧ Shares claims roles

/-- The context that an admitting route leaves: the claims are in it once they were asked for. -/
structure Leaves (env : Env) (req : Request) (route : List Guard) (c c' : Context) : Prop where
  identified : .authenticate ∈ route → ∃ claims, Identifies env req claims ∧ c' = c.setClaims claims
  untouched : .authenticate ∉ route → c' = c

variable {route : List Guard} {g : Guard} {c c' c'' : Context}

theorem Reaches.unique (h : Reaches route env req c c') (h' : Reaches route env req c c'') :
    c' = c'' := by
  have hresult := (h fun _ _ c => ⟨.error (.panic none), c, []⟩).symm.trans (h' _)
  exact congrArg Result.context hresult

theorem Fails.not_reaches {e : Error} (h : Fails route env req c c' e) :
    ¬ Reaches route env req c c'' := by
  obtain ⟨effects, hf⟩ := h
  intro hr
  have hresult := (hf fun _ _ c => ⟨.error (.panic none), c, []⟩).symm.trans (hr _)
  have := congrArg Result.outcome hresult
  simp at this

/-- What the next guard of an admitting route asks for. -/
def Clears (env : Env) (req : Request) (before : List Guard) : Guard → Prop
  | .authenticate => ∃ claims, Identifies env req claims
  | .authorize roles => .authenticate ∈ before ∧ ∃ claims, Identifies env req claims ∧ Shares claims roles

theorem admits_nil : Admits env req [] := by
  refine ⟨?_, ?_⟩
  · intro hm
    exact absurd hm List.not_mem_nil
  · intro before roles after heq
    exact absurd heq (by simp)

theorem admits_concat_iff :
    Admits env req (route ++ [g]) ↔ Admits env req route ∧ Clears env req route g := by
  refine ⟨?_, ?_⟩
  · intro h
    refine ⟨⟨?_, ?_⟩, ?_⟩
    · intro hm
      exact h.identified (List.mem_append_left _ hm)
    · intro before roles after heq
      apply h.authorized before roles (after ++ [g])
      rw [heq, List.append_assoc, List.cons_append]
    · cases g with
      | authenticate => exact h.identified (by simp)
      | authorize roles => exact h.authorized route roles [] rfl
  · intro h
    rcases h with ⟨h, hg⟩
    refine ⟨?_, ?_⟩
    · intro hm
      rcases List.mem_append.1 hm with hm | hm
      · exact h.identified hm
      · rw [← List.mem_singleton.1 hm] at hg
        exact hg
    · intro before roles after heq
      rcases List.eq_nil_or_concat after with rfl | ⟨after', g', rfl⟩
      · obtain ⟨rfl, hlast⟩ := List.append_inj' heq rfl
        rw [(List.cons.inj hlast).1] at hg
        exact hg
      · rw [List.concat_eq_append, ← List.cons_append, ← List.append_assoc] at heq
        exact h.authorized before roles after' (List.append_inj' heq rfl).1

theorem Leaves.claims (h : Leaves env req route c c') (hc : c.claims = none) {claims : Claims}
    (hclaims : c'.claims = some claims) : .authenticate ∈ route ∧ Identifies env req claims := by
  by_cases hm : .authenticate ∈ route
  · obtain ⟨claims', hid, rfl⟩ := h.identified hm
    obtain rfl := Option.some.inj hclaims
    exact ⟨hm, hid⟩
  · rw [h.untouched hm, hc] at hclaims
    exact absurd hclaims (by simp)

theorem Passes.clears (h : Passes env req c' g c'') (hc : c.claims = none)
    (hl : Leaves env req route c c') : Clears env req route g := by
  cases h with
  | authenticate h => exact ⟨_, h⟩
  | authorize h hs =>
    obtain ⟨hm, hid⟩ := hl.claims hc h
    exact ⟨hm, _, hid, hs⟩

theorem Refuses.not_clears {e : Error} (h : Refuses env req c'.claims g e)
    (hl : Leaves env req route c c') : ¬ Clears env req route g := by
  intro hg
  generalize hcarried : c'.claims = carried at h
  cases h with
  | header h =>
    obtain ⟨_, token, hb, -⟩ := hg
    exact h token hb
  | token h he =>
    obtain ⟨_, token', hb, hv⟩ := hg
    rw [Request.bears_iff] at h hb
    obtain rfl := Option.some.inj (h.symm.trans hb)
    rw [he] at hv
    cases hv
  | anonymous =>
    obtain ⟨_, _, rfl⟩ := hl.identified hg.1
    cases hcarried
  | roles h =>
    obtain ⟨claims, hid, rfl⟩ := hl.identified hg.1
    obtain ⟨claims', hid', hs⟩ := hg.2
    obtain rfl := hid.unique hid'
    obtain rfl := Option.some.inj hcarried
    exact h hs

/-- The claims that a later guard finds are those of the token, also when it was asked for twice. -/
theorem Passes.leaves (h : Passes env req c' g c'') (hl : Leaves env req route c c') :
    Leaves env req (route ++ [g]) c c'' := by
  cases h with
  | authenticate h =>
    refine ⟨fun _ => ⟨_, h, ?_⟩, fun hm => absurd (List.mem_append_right _ (by simp)) hm⟩
    by_cases hm : .authenticate ∈ route
    · obtain ⟨claims', _, rfl⟩ := hl.identified hm
      rfl
    · rw [hl.untouched hm]
  | authorize h hs =>
    refine ⟨fun hm => hl.identified ?_, fun hm => hl.untouched fun h => hm ?_⟩
    · simpa using hm
    · exact List.mem_append_left _ h

/-- A route runs its handler or fails at its first guard that refuses. -/
theorem chain_cases (env : Env) (req : Request) {c : Context} (hc : c.claims = none)
    (route : List Guard) :
    (Admits env req route ∧ ∃ c', Reaches route env req c c' ∧ Leaves env req route c c') ∨
    (¬ Admits env req route ∧ ∃ before g after c' e, route = before ++ g :: after ∧
      Reaches before env req c c' ∧ Refuses env req c'.claims g e ∧ Fails route env req c c' e) := by
  induction route using List.reverseRecOn with
  | nil =>
    refine Or.inl ⟨admits_nil, c, fun _ => rfl, ?_⟩
    exact ⟨fun hm => absurd hm List.not_mem_nil, fun _ => rfl⟩
  | append_singleton route g ih =>
    rcases ih with ⟨ha, c', hr, hl⟩ | ⟨ha, before, g', after, c', e, rfl, hr, href, effects, hf⟩
    · rcases intercept_cases env req g c' with ⟨c'', hp, hnext⟩ | ⟨e, effects, href, hnext⟩
      · refine Or.inl ⟨admits_concat_iff.2 ⟨ha, hp.clears hc hl⟩, c'', ?_, hp.leaves hl⟩
        intro handler
        rw [chain_concat, hr, hnext]
      · have hno : ¬ Admits env req (route ++ [g]) := by
          intro h
          exact href.not_clears hl (admits_concat_iff.1 h).2
        refine Or.inr ⟨hno, route, g, [], c', e, rfl, hr, href, effects, ?_⟩
        intro handler
        rw [chain_concat, hr, hnext]
    · have hno : ¬ Admits env req (before ++ g' :: after ++ [g]) := by
        intro h
        exact ha (admits_concat_iff.1 h).1
      refine Or.inr ⟨hno, before, g', after ++ [g], c', e, ?_, hr, href, effects, ?_⟩
      · rw [List.append_assoc, List.cons_append]
      · intro handler
        rw [chain_concat, hf]

/-- The handler of a guarded route runs exactly when the route admits the request, and it finds the
claims of the token if the route asked for one. Otherwise no handler runs, and the answer is the
refusal of the first guard behind those that let the request through. -/
theorem chain_reaches_iff (route : List Guard) (env : Env) (req : Request) (c : Context)
    (hc : c.claims = none) :
    ((∃ c', Reaches route env req c c') ↔ Admits env req route) ∧
    (∀ c', Reaches route env req c c' → Leaves env req route c c') ∧
    (¬ Admits env req route → ∃ before g after c' e, route = before ++ g :: after ∧
      Reaches before env req c c' ∧ Refuses env req c'.claims g e ∧
      Fails route env req c c' e ∧ (ErrorResponse.ofError e).status = g.status) := by
  rcases chain_cases env req hc route with
    ⟨ha, c', hr, hl⟩ | ⟨ha, before, g, after, c', e, heq, hr, href, hf⟩
  · refine ⟨⟨fun _ => ha, fun _ => ⟨c', hr⟩⟩, ?_, fun h => absurd ha h⟩
    intro c'' hr'
    rw [← hr.unique hr']
    exact hl
  · have hno : ∀ c'', ¬ Reaches route env req c c'' := fun c'' => hf.not_reaches
    refine ⟨⟨?_, fun h => absurd h ha⟩, ?_, ?_⟩
    · intro h
      rcases h with ⟨c'', h⟩
      exact absurd h (hno c'')
    · intro c'' h
      exact absurd h (hno c'')
    · intro _
      exact ⟨before, g, after, c', e, heq, hr, href, hf, href.status_eq⟩

/-- An environment at second 1 that knows one key. -/
def mersenneEnv : Env where
  keys := KeyStore.mersenne
  auth := ⟨"k"⟩
  users := ⟨∅, "i", ⟨60, 0⟩, 1⟩
  clock := ⟨1, 0⟩
  hostname := none
  telemetry := default

def mersenneRequest : Request where
  method := "GET"
  path := "/"
  query := none
  headers := [("authorization", Bytes.ofString "bEARER " ++ Token.typedToken)]
  body := []
  remote := none
  template := none

theorem identifies_mersenne : Identifies mersenneEnv mersenneRequest Token.mersenneClaims := by
  obtain ⟨a, ha, hp, ht⟩ := Token.exists_anatomy_typedToken
  exact ⟨Token.typedToken, (Request.bears_iff _ _).2 (by decide +kernel), ha.validate hp ht⟩

/-- The token gets past a guard that asks for one, and without roles past no more. -/
theorem chain_reaches_mersenne : Context.detached.claims = none ∧
    (∃ c', Reaches [.authenticate] mersenneEnv mersenneRequest .detached c' ∧
      c'.claims = some Token.mersenneClaims) ∧
    ∃ before g after c' e,
      [.authenticate, .authenticate, .authorize ["ADMIN"], .authenticate] = before ++ g :: after ∧
      Refuses mersenneEnv mersenneRequest c'.claims g e ∧
      Fails [.authenticate, .authenticate, .authorize ["ADMIN"], .authenticate] mersenneEnv
        mersenneRequest .detached c' e ∧
      (ErrorResponse.ofError e).status = g.status := by
  have hclears : Clears mersenneEnv mersenneRequest [] .authenticate := ⟨_, identifies_mersenne⟩
  have hone : Admits mersenneEnv mersenneRequest ([] ++ [.authenticate]) :=
    admits_concat_iff.2 ⟨admits_nil, hclears⟩
  have hno : ¬ Admits mersenneEnv mersenneRequest
      [.authenticate, .authenticate, .authorize ["ADMIN"], .authenticate] := by
    intro h
    obtain ⟨-, claims, hid, role, hrole, -⟩ := h.authorized [.authenticate, .authenticate] _ _ rfl
    obtain rfl := hid.unique identifies_mersenne
    exact absurd hrole List.not_mem_nil
  obtain ⟨hiff, hleaves, -⟩ := chain_reaches_iff [.authenticate] mersenneEnv mersenneRequest .detached rfl
  obtain ⟨c', hr⟩ := hiff.2 hone
  obtain ⟨claims, hid, hc'⟩ := (hleaves c' hr).identified (by simp)
  obtain rfl := hid.unique identifies_mersenne
  obtain ⟨before, g, after, c'', e, heq, -, href, hf, hstatus⟩ :=
    (chain_reaches_iff _ mersenneEnv mersenneRequest .detached rfl).2.2 hno
  exact ⟨rfl, ⟨c', hr, by rw [hc']; rfl⟩, before, g, after, c'', e, heq, href, hf, hstatus⟩

end Guard

end Turnstile
