import Turnstile.Proofs.KeyStore.Rotation
import Turnstile.Proofs.Rsa.Written
import Turnstile.Proofs.Service.Login

/-! The readiness of the service tells whether the active key is in the store. Without it nothing is
minted; with it, what is minted depends on the key. -/

namespace Turnstile

namespace Authenticator

variable {keys : KeyStore} {auth : Authenticator} {key : Rsa.PrivateKey}

theorem generate_of_privateKey? (h : keys.privateKey? auth.activeKid = some key) (claims : Claims) :
    auth.generate keys claims =
      (Token.sign key auth.activeKid claims).mapError .fault := by
  simp only [generate, h]
  cases Token.sign key auth.activeKid claims <;> rfl

theorem generate_of_absent (h : keys.privateKey? auth.activeKid = none) (claims : Claims) :
    auth.generate keys claims = .error (.refused .privateKeyLookup) := by
  simp only [generate, h]

theorem activeKid_of_new {kid : String} (h : Authenticator.new keys kid = .ok auth) :
    auth.activeKid = kid := by
  unfold Authenticator.new at h
  split_ifs at h
  obtain rfl := Except.ok.inj h
  rfl

theorem isReady_iff :
    auth.isReady keys = true ↔ ∃ key, keys.privateKey? auth.activeKid = some key :=
  Option.isSome_iff_exists

/-- Only an absent key is a refusal. -/
theorem not_isReady_iff : auth.isReady keys = false ↔
    ∀ claims, auth.generate keys claims = .error (.refused .privateKeyLookup) := by
  rw [isReady, Option.isSome_eq_false_iff, Option.isNone_iff_eq_none]
  refine ⟨generate_of_absent, ?_⟩
  intro h
  rw [Option.eq_none_iff_forall_ne_some]
  intro key hkey
  have hrefused := h ⟨"", "", 0, 0, []⟩
  rw [generate_of_privateKey? hkey] at hrefused
  cases hsign : Token.sign key auth.activeKid ⟨"", "", 0, 0, []⟩ <;>
    simp [hsign, Except.mapError] at hrefused

/-- What a key that is there mints. -/
structure Mints (auth : Authenticator) (keys : KeyStore) (key : Rsa.PrivateKey) : Prop where
  each : ∀ claims, (∃ token, auth.generate keys claims = .ok token) ↔
    key.GivesBack (Token.signingInput auth.activeKid claims)
  sound : key.CanSign → ∀ claims, ∃ token, auth.generate keys claims = .ok token
  short : key.public.size < 62 → ∀ claims,
    auth.generate keys claims = .error (.fault .messageTooLong)

theorem mints (h : keys.privateKey? auth.activeKid = some key) : auth.Mints keys key where
  each claims := by
    rw [generate_of_privateKey? h, ← Rsa.exists_sign_iff, Token.sign]
    cases Rsa.sign key (Token.signingInput auth.activeKid claims) <;>
      simp [Except.map, Except.mapError]
  sound hkey claims := by
    obtain ⟨text, hsign⟩ := Token.exists_sign hkey auth.activeKid claims
    exact ⟨_, by rw [generate_of_privateKey? h, hsign]; rfl⟩
  short hsize claims := by
    rw [generate_of_privateKey? h, Token.sign_of_short hsize]
    rfl

end Authenticator

namespace Service

theorem serve_readiness {s : Service} {req : Request} (happ : s.app = Api.app)
    (hmethod : req.method = "GET") (hpath : req.path = "/debug/readiness") (clock : Instant)
    (fresh : String) : ∃ answer, s.serve req clock fresh = (s, answered answer) ∧
      answer.status = if s.auth.isReady s.keys then 200 else 503 := by
  have hmethod' : req.method ≠ "OPTIONS" := by rw [hmethod]; decide
  obtain ⟨route, hroute, hplain⟩ : ∃ route, s.app.route? req.path = some route ∧
      route.endpoint? req.method = some (.plain Health.readiness) := by
    rw [happ, hpath, hmethod]
    exact ⟨_, rfl, rfl⟩
  refine ⟨_, serve_of_plain hmethod' hroute hplain clock fresh, ?_⟩
  rw [status_share, status_finish]
  rfl

/-- After any operations on the store, the service is ready as long as the key that it was built on
is there, whatever that key is. Not ready, it refuses every token; ready, it mints what the key can
sign: everything with room and two primes, nothing without room. -/
theorem readiness_of_run {ops later : List KeyStore.Op} {kid : String} {auth : Authenticator}
    {s : Service} {req : Request} (hread : ∀ op ∈ ops ++ later, op.IsRead)
    (hauth : Authenticator.new (KeyStore.empty.run ops) kid = .ok auth)
    (hkeys : s.keys = KeyStore.empty.run (ops ++ later)) (hs : s.auth = auth)
    (happ : s.app = Api.app) (hmethod : req.method = "GET") (hpath : req.path = "/debug/readiness")
    (clock : Instant) (fresh : String) :
    ∃ answer, s.serve req clock fresh = (s, answered answer) ∧
      (answer.status = 200 ∨ answer.status = 503) ∧
      (answer.status = 200 ↔ ∃ key, s.keys.privateKey? kid = some key) ∧
      (answer.status = 503 ↔ ∀ claims,
        auth.generate s.keys claims = .error (.refused .privateKeyLookup)) ∧
      ∀ key, s.keys.privateKey? kid = some key →
        (∃ pem, Rsa.PrivateKey.ofPem pem = .ok key) ∧ auth.Mints s.keys key := by
  subst hs
  have hactive : s.auth.activeKid = kid := Authenticator.activeKid_of_new hauth
  obtain ⟨answer, hserve, hstatus⟩ := serve_readiness happ hmethod hpath clock fresh
  refine ⟨answer, hserve, ?_, ?_, ?_, ?_⟩
  · rw [hstatus]
    split_ifs
    · exact Or.inl rfl
    · exact Or.inr rfl
  · rw [hstatus, ← hactive, ← Authenticator.isReady_iff]
    split_ifs with h <;> simp [h]
  · rw [hstatus, ← Authenticator.not_isReady_iff]
    split_ifs with h <;> simp [h]
  · intro key hkey
    have hrun := KeyStore.isRead_empty.run hread
    rw [← hkeys] at hrun
    exact ⟨hrun kid key hkey, Authenticator.mints (hactive ▸ hkey)⟩

/-! A key of fifteen, which has no room for a signature. -/

def shortKey : Rsa.PrivateKey := ⟨15, 3, 3, 3, 5⟩

def shortPem : Bytes := Pem.bytes ⟨Rsa.Container.pkcs1Label, Rsa.Container.pkcs1 shortKey 2⟩

theorem ofPem_shortPem : Rsa.PrivateKey.ofPem shortPem = .ok shortKey :=
  Rsa.PrivateKey.ofPem_pkcs1 (by decide) (by decide +kernel)

/-- The service after the key of the two Mersenne primes and what came later. -/
def rotatedService (later : List KeyStore.Op) : Service :=
  { someService with keys := KeyStore.empty.run ([.add "k" Rsa.mersennePem] ++ later) }

theorem keys_rotatedService (later : List KeyStore.Op) :
    (rotatedService later).keys = (KeyStore.empty.run [.add "k" Rsa.mersennePem]).run later := by
  rw [rotatedService, KeyStore.run_append]

theorem privateKey?_run_add {pem : Bytes} {key : Rsa.PrivateKey}
    (h : Rsa.PrivateKey.ofPem pem = .ok key) (s : KeyStore) :
    (s.run [.add "k" pem]).privateKey? "k" = some key := by
  simp [KeyStore.run, KeyStore.step, KeyStore.add, h, Except.map, KeyStore.privateKey?_insert]

theorem privateKey?_run_remove (s : KeyStore) :
    (s.run [.remove "k"]).privateKey? "k" = none := by
  simp [KeyStore.run, KeyStore.step, KeyStore.privateKey?_remove]

theorem readiness_of_run_short :
    (∃ answer, (rotatedService [.add "k" shortPem]).serve (plainRequest "GET" "/debug/readiness")
          ⟨0, 0⟩ "id" = (rotatedService [.add "k" shortPem], answered answer) ∧
        answer.status = 200 ∧ ∀ claims, (Authenticator.mk "k").generate
          (rotatedService [.add "k" shortPem]).keys claims = .error (.fault .messageTooLong)) ∧
      ∃ answer, (rotatedService [.remove "k"]).serve (plainRequest "GET" "/debug/readiness")
          ⟨0, 0⟩ "id" = (rotatedService [.remove "k"], answered answer) ∧
        answer.status = 503 := by
  have hnew : Authenticator.new (KeyStore.empty.run [.add "k" Rsa.mersennePem]) "k" =
      .ok ⟨"k"⟩ := by
    simp [Authenticator.new, privateKey?_run_add Rsa.ofPem_mersennePem]
  have hmethod : (plainRequest "GET" "/debug/readiness").method = "GET" := rfl
  have hready (later : List KeyStore.Op) (hlater : ∀ op ∈ later, op.IsRead) := by
    have hread : ∀ op ∈ [.add "k" Rsa.mersennePem] ++ later, op.IsRead :=
      List.forall_mem_cons.2 ⟨trivial, hlater⟩
    have hkeys := (keys_rotatedService later).trans (KeyStore.run_append _ _ later).symm
    exact readiness_of_run hread hnew hkeys rfl rfl hmethod rfl ⟨0, 0⟩ "id"
  refine ⟨?_, ?_⟩
  · obtain ⟨answer, hserve, -, hstatus, -, hmints⟩ :=
      hready [.add "k" shortPem] (List.forall_mem_cons.2 ⟨trivial, by simp⟩)
    have hkey : (rotatedService [.add "k" shortPem]).keys.privateKey? "k" = some shortKey := by
      rw [keys_rotatedService]
      exact privateKey?_run_add ofPem_shortPem _
    obtain ⟨-, hmints⟩ := hmints shortKey hkey
    exact ⟨answer, hserve, hstatus.2 ⟨shortKey, hkey⟩, hmints.short (by decide)⟩
  · obtain ⟨answer, hserve, hstatus, hfound, -, -⟩ :=
      hready [.remove "k"] (List.forall_mem_cons.2 ⟨trivial, by simp⟩)
    have hnone : (rotatedService [.remove "k"]).keys.privateKey? "k" = none := by
      rw [keys_rotatedService]
      exact privateKey?_run_remove _
    refine ⟨answer, hserve, hstatus.resolve_left ?_⟩
    rw [hfound, hnone]
    simp

end Service

end Turnstile
