import Turnstile.Flow.Handler
import Turnstile.Proofs.Flow.Standard

/-! What a request for a token comes to. Its conditions are met one after the other, and the first
that is not decides the refusal; when all are, a token is signed for the account. -/

namespace Turnstile

namespace Login

/-- The body is a request for a token that breaks no rule. -/
structure Asks (body : Bytes) (t : TokenRequest) : Prop where
  short : body.length ≤ 65536
  reads : TokenRequest.ofJson? body = some t
  valid : t.check = []

/-- The password of the request derives the hash of the account. -/
def Matches (t : TokenRequest) (a : Account) : Prop :=
  Pbkdf2.derive (Bytes.ofString t.password) a.credential.salt a.credential.iterations =
    a.credential.hash

/-- The account under the email of the request, with its password. -/
structure Opens (users : Users) (t : TokenRequest) (a : Account) : Prop where
  found : users.accounts[Users.emailKey t.email]? = some a
  matched : Matches t a

section Conditions

variable (users : Users) (keys : KeyStore) (kid : String) (cancelled : Bool) (now : Instant)
  (body : Bytes)

/-- Nothing stands against a token for the account under the key. -/
structure Granted (a : Account) (key : Rsa.PrivateKey) : Prop where
  opens : ∃ t, Asks body t ∧ Opens users t a
  enabled : a.user.enabled = true
  ends : (now.addSeconds? users.ttl).isSome = true
  live : cancelled = false
  key : keys.privateKey? kid = some key

/-- The first condition that does not hold, with the failure that it is and the answer for it. -/
inductive Refused : Failure → ErrorResponse → Prop
  | long (h : 65536 < body.length) :
    Refused (.error (.request Handler.bodyTooLong)) ⟨400, "unable to read request body", none⟩
  | unreadable (hshort : body.length ≤ 65536) (h : TokenRequest.ofJson? body = none) :
    Refused (.error (.request Handler.undecodable)) ⟨400, "unable to decode payload", none⟩
  | invalid {t : TokenRequest} (hshort : body.length ≤ 65536)
    (hreads : TokenRequest.ofJson? body = some t) (h : t.check ≠ []) :
    Refused (.error (.validation t.check)) ⟨400, "data validation error", some t.check⟩
  | unknown {t : TokenRequest} (ht : Asks body t)
    (h : users.accounts[Users.emailKey t.email]? = none) :
    Refused (Handler.usersFailure .notFound) ⟨401, "authentication failed", none⟩
  | mismatched {t : TokenRequest} {a : Account} (ht : Asks body t)
    (hfound : users.accounts[Users.emailKey t.email]? = some a) (h : ¬ Matches t a) :
    Refused (Handler.usersFailure .authenticationFailed) ⟨401, "authentication failed", none⟩
  | disabled {t : TokenRequest} {a : Account} (ht : Asks body t) (ha : Opens users t a)
    (h : a.user.enabled = false) :
    Refused (Handler.usersFailure .forbidden) ⟨403, "you are not authorized for that action", none⟩
  | endless {t : TokenRequest} {a : Account} (ht : Asks body t) (ha : Opens users t a)
    (henabled : a.user.enabled = true) (h : now.addSeconds? users.ttl = none) :
    Refused (Handler.usersFailure .overflow) ⟨500, "Internal Server Error", none⟩
  | cancelled {t : TokenRequest} {a : Account} (ht : Asks body t) (ha : Opens users t a)
    (henabled : a.user.enabled = true) (hends : (now.addSeconds? users.ttl).isSome = true)
    (h : cancelled = true) :
    Refused (.error (.request Handler.shuttingDown)) ⟨503, "server is shutting down", none⟩
  | keyless {t : TokenRequest} {a : Account} (ht : Asks body t) (ha : Opens users t a)
    (henabled : a.user.enabled = true) (hends : (now.addSeconds? users.ttl).isSome = true)
    (hlive : cancelled = false) (h : keys.privateKey? kid = none) :
    Refused (Handler.mintFailure (.refused .privateKeyLookup)) ⟨500, "Internal Server Error", none⟩

variable {users keys kid cancelled now body}

theorem Refused.ofError {f : Failure} {r : ErrorResponse}
    (h : Refused users keys kid cancelled now body f r) : ErrorResponse.ofError f.toError = r := by
  cases h <;> rfl

theorem Refused.status_ne {f : Failure} {r : ErrorResponse}
    (h : Refused users keys kid cancelled now body f r) : r.status ≠ 200 := by
  cases h <;> simp

/-- No refusal of a login asks for a shutdown. -/
theorem Refused.shutdown? {f : Failure} {r : ErrorResponse}
    (h : Refused users keys kid cancelled now body f r) : f.shutdown? = none := by
  cases h <;> rfl

theorem Asks.unique {t t' : TokenRequest} (h : Asks body t) (h' : Asks body t') : t = t' :=
  Option.some.inj (h.reads.symm.trans h'.reads)

theorem Opens.unique {t : TokenRequest} {a a' : Account} (h : Opens users t a)
    (h' : Opens users t a') : a = a' :=
  Option.some.inj (h.found.symm.trans h'.found)

theorem Granted.unique {a a' : Account} {key key' : Rsa.PrivateKey}
    (h : Granted users keys kid cancelled now body a key)
    (h' : Granted users keys kid cancelled now body a' key') : a = a' ∧ key = key' := by
  obtain ⟨t, ht, ha⟩ := h.opens
  obtain ⟨t', ht', ha'⟩ := h'.opens
  obtain rfl := ht.unique ht'
  exact ⟨ha.unique ha', Option.some.inj (h.key.symm.trans h'.key)⟩

theorem Refused.not_granted {f : Failure} {r : ErrorResponse} {a : Account} {key : Rsa.PrivateKey}
    (h : Refused users keys kid cancelled now body f r) :
    ¬ Granted users keys kid cancelled now body a key := by
  intro hg
  obtain ⟨t, ht, ha⟩ := hg.opens
  cases h with
  | long h => exact absurd ht.short (not_le.2 h)
  | unreadable _ h => simp [ht.reads] at h
  | invalid _ hreads h =>
    obtain rfl := Option.some.inj (hreads.symm.trans ht.reads)
    exact h ht.valid
  | unknown ht' h =>
    obtain rfl := ht.unique ht'
    simp [ha.found] at h
  | mismatched ht' hfound h =>
    obtain rfl := ht.unique ht'
    obtain rfl := Option.some.inj (hfound.symm.trans ha.found)
    exact h ha.matched
  | disabled ht' ha' h =>
    obtain rfl := ht.unique ht'
    obtain rfl := ha.unique ha'
    simp [hg.enabled] at h
  | endless _ _ _ h => simpa [h] using hg.ends
  | cancelled _ _ _ _ h => simp [hg.live] at h
  | keyless _ _ _ _ _ h => simp [hg.key] at h

theorem refused_or_granted (users : Users) (keys : KeyStore) (kid : String) (cancelled : Bool)
    (now : Instant) (body : Bytes) : (∃ f r, Refused users keys kid cancelled now body f r) ∨
      ∃ a key, Granted users keys kid cancelled now body a key := by
  by_cases hshort : body.length ≤ 65536
  case neg => exact Or.inl ⟨_, _, .long (not_le.1 hshort)⟩
  rcases hreads : TokenRequest.ofJson? body with _ | t
  · exact Or.inl ⟨_, _, .unreadable hshort hreads⟩
  by_cases hvalid : t.check = []
  case neg => exact Or.inl ⟨_, _, .invalid hshort hreads hvalid⟩
  have ht : Asks body t := ⟨hshort, hreads, hvalid⟩
  rcases hfound : users.accounts[Users.emailKey t.email]? with _ | a
  · exact Or.inl ⟨_, _, .unknown ht hfound⟩
  by_cases hmatch : Matches t a
  case neg => exact Or.inl ⟨_, _, .mismatched ht hfound hmatch⟩
  have ha : Opens users t a := ⟨hfound, hmatch⟩
  cases henabled : a.user.enabled with
  | false => exact Or.inl ⟨_, _, .disabled ht ha henabled⟩
  | true =>
    rcases hends : now.addSeconds? users.ttl with _ | expires
    · exact Or.inl ⟨_, _, .endless ht ha henabled hends⟩
    have hsome : (now.addSeconds? users.ttl).isSome = true := by simp [hends]
    cases hlive : cancelled with
    | true => exact Or.inl ⟨_, _, .cancelled ht ha henabled hsome rfl⟩
    | false =>
      cases hkey : keys.privateKey? kid with
      | none => exact Or.inl ⟨_, _, .keyless ht ha henabled hsome rfl hkey⟩
      | some key => exact Or.inr ⟨a, key, ⟨t, ht, ha⟩, henabled, hsome, rfl, hkey⟩

end Conditions

end Login

namespace Users

open Login

variable {users : Users} {t : TokenRequest} {a : Account}

theorem verify_iff (t : TokenRequest) (a : Account) :
    a.credential.verify t.password = true ↔ Matches t a := by
  rw [Credential.verify, beq_iff_eq, Matches]

theorem authenticate_of_unknown (h : users.accounts[emailKey t.email]? = none) (now : Instant) :
    users.authenticate t.email t.password now = .error .notFound := by
  simp only [authenticate, account?, h, verdict]

theorem authenticate_of_mismatched (hfound : users.accounts[emailKey t.email]? = some a)
    (h : ¬ Matches t a) (now : Instant) :
    users.authenticate t.email t.password now = .error .authenticationFailed := by
  rw [← verify_iff, Bool.not_eq_true] at h
  simp [authenticate, account?, hfound, verdict, h]

theorem authenticate_of_disabled (ha : Opens users t a) (h : a.user.enabled = false)
    (now : Instant) : users.authenticate t.email t.password now = .error .forbidden := by
  have hverify := (verify_iff t a).2 ha.matched
  simp [authenticate, account?, ha.found, verdict, hverify, h]

theorem authenticate_of_endless (ha : Opens users t a) (h : a.user.enabled = true) {now : Instant}
    (hends : now.addSeconds? users.ttl = none) :
    users.authenticate t.email t.password now = .error .overflow := by
  have hverify := (verify_iff t a).2 ha.matched
  simp [authenticate, account?, ha.found, verdict, hverify, h, Claims.issue?, hends]

theorem authenticate_of_opens (ha : Opens users t a) (h : a.user.enabled = true) {now : Instant}
    {expires : ℤ} (hexpires : now.addSeconds? users.ttl = some expires) :
    users.authenticate t.email t.password now =
      .ok ⟨users.issuer, a.user.id, now.seconds, expires, a.user.roles⟩ := by
  have hverify := (verify_iff t a).2 ha.matched
  simp [authenticate, account?, ha.found, verdict, hverify, h, Claims.issue?, hexpires]

end Users

namespace Handler

open Login

variable {req : Request} {e : Env} {c : Context} {v : RequestValues}

theorem decode_of_reads {α : Type} {read : Bytes → Option α} {a : α}
    (hshort : req.body.length ≤ 65536) (hreads : read req.body = some a) :
    decode read req e c = ⟨.ok a, c, []⟩ := by
  simp [decode, maxBodySize, not_lt.2 hshort, hreads]

/-- A request for a token gets to the check of its password. -/
theorem token_of_asks {t : TokenRequest} (hv : c.values = some v) (ht : Asks req.body t) :
    token req e c =
      match e.users.authenticate t.email t.password v.now with
      | .error f => ⟨.error (usersFailure f), c, []⟩
      | .ok claims =>
        if c.cancelled then ⟨.error (.error (.request shuttingDown)), c, []⟩
        else match e.auth.generate e.keys claims with
          | .error f => ⟨.error (mintFailure f), c, []⟩
          | .ok token => ⟨.ok (Response.json 200 (tokenJson token).bytes),
              { c with values := some { v with status := some 200 } },
              [.event (.tokenIssued claims.subject e.auth.activeKid)]⟩ := by
  simp only [token, Flow.bind_apply, Flow.values_apply _ _ hv, decode_of_reads ht.short ht.reads,
    ht.valid, Flow.env_apply]
  rcases e.users.authenticate t.email t.password v.now with f | claims
  · simp
  · simp only [Flow.context_apply, Flow.bind_apply]
    split_ifs
    · simp
    · rcases e.auth.generate e.keys claims with f | token
      · simp
      · simp [Flow.bind_apply, Flow.respond_apply hv]

theorem token_of_refused (hv : c.values = some v) {f : Failure} {r : ErrorResponse}
    (h : Refused e.users e.keys e.auth.activeKid c.cancelled v.now req.body f r) :
    token req e c = ⟨.error f, c, []⟩ := by
  cases h with
  | long h =>
    have hlong : decode TokenRequest.ofJson? req e c = ⟨.error (.error (.request bodyTooLong)), c, []⟩ := by
      simp [decode, maxBodySize, h]
    simp [token, Flow.bind_apply, Flow.values_apply _ _ hv, hlong]
  | unreadable hshort h =>
    have hfail : decode TokenRequest.ofJson? req e c = ⟨.error (.error (.request undecodable)), c, []⟩ := by
      simp [decode, maxBodySize, not_lt.2 hshort, h]
    simp [token, Flow.bind_apply, Flow.values_apply _ _ hv, hfail]
  | @invalid t hshort hreads h =>
    simp only [token, Flow.bind_apply, Flow.values_apply _ _ hv, decode_of_reads hshort hreads]
    cases hcheck : t.check with
    | nil => exact absurd hcheck h
    | cons fault faults => simp
  | unknown ht h => rw [token_of_asks hv ht, Users.authenticate_of_unknown h]
  | mismatched ht hfound h => rw [token_of_asks hv ht, Users.authenticate_of_mismatched hfound h]
  | disabled ht ha h => rw [token_of_asks hv ht, Users.authenticate_of_disabled ha h]
  | endless ht ha henabled h =>
    rw [token_of_asks hv ht, Users.authenticate_of_endless ha henabled h]
  | cancelled ht ha henabled hends h =>
    obtain ⟨expires, hexpires⟩ := Option.isSome_iff_exists.1 hends
    rw [token_of_asks hv ht, Users.authenticate_of_opens ha henabled hexpires]
    simp [h]
  | keyless ht ha henabled hends hlive h =>
    obtain ⟨expires, hexpires⟩ := Option.isSome_iff_exists.1 hends
    rw [token_of_asks hv ht, Users.authenticate_of_opens ha henabled hexpires]
    simp [hlive, Authenticator.generate, h]

theorem token_of_granted (hv : c.values = some v) {expires : ℤ}
    (hexpires : v.now.addSeconds? e.users.ttl = some expires) {a : Account}
    {key : Rsa.PrivateKey}
    (h : Granted e.users e.keys e.auth.activeKid c.cancelled v.now req.body a key) {text : Bytes}
    (hsign : Token.sign key e.auth.activeKid
      ⟨e.users.issuer, a.user.id, v.now.seconds, expires, a.user.roles⟩ = .ok text) :
    token req e c = ⟨.ok (Response.json 200 (tokenJson text).bytes),
      { c with values := some { v with status := some 200 } },
      [.event (.tokenIssued a.user.id e.auth.activeKid)]⟩ := by
  obtain ⟨t, ht, ha⟩ := h.opens
  rw [token_of_asks hv ht, Users.authenticate_of_opens ha h.enabled hexpires]
  simp [h.live, Authenticator.generate, h.key, hsign]

end Handler

end Turnstile
