import Turnstile.Proofs.Rsa.Signature
import Turnstile.Proofs.Token.Reading

/-! Validation cut in two: the header picks a key of the store, and under one key the verdict
depends on nothing else of the store. -/

namespace Turnstile.Token

/-- The verdict under one key on a token whose header is settled. -/
def Parts.verdict (p : Parts) (key : Rsa.PublicKey) (now : ℤ) : Except AuthError Claims :=
  match decodePart? p.signature with
  | none => .error .malformedToken
  | some signature =>
    if !Rsa.verify key p.signed signature then .error .invalidSignature
    else match (decodePart? p.payload).bind claimsOf? with
    | none => .error .malformedToken
    | some claims => if claims.expires ≤ now then .error .tokenExpired else .ok claims

/-- A client hears that it is not authenticated, and no more. -/
structure IsRejection (e : AuthError) : Prop where
  status : e.status = 401
  publicMessage : e.publicMessage = AuthError.authenticationFailed

theorem isRejection_of_refused {e e' : AuthError}
    (h : (.error e' : Except AuthError Claims) = .error e) (he : IsRejection e') :
    IsRejection e := by
  rw [← Except.error.inj h]
  exact he

theorem Parts.isRejection_of_verdict_error {p : Parts} {key : Rsa.PublicKey} {now : ℤ}
    {e : AuthError} (h : p.verdict key now = .error e) : IsRejection e := by
  unfold Parts.verdict at h
  split at h
  · exact isRejection_of_refused h ⟨rfl, rfl⟩
  · split_ifs at h
    · exact isRejection_of_refused h ⟨rfl, rfl⟩
    · split at h
      · exact isRejection_of_refused h ⟨rfl, rfl⟩
      · split_ifs at h
        exact isRejection_of_refused h ⟨rfl, rfl⟩

/-- The header of the token, at its cut, asks for RS256 under `kid`. -/
def NamesKey (token : Bytes) (p : Parts) (kid : String) : Prop :=
  p.CutOf token ∧ headerOf? p = some ⟨.rs256, some kid⟩

section

variable {keys : KeyStore} {token : Bytes} {now : ℤ} {p : Parts} {kid : String}

theorem validate_of_namesKey (h : NamesKey token p kid) : validate keys token now =
    match keys.publicKey? kid with
    | none => .error (.keyNotFound kid)
    | some key => p.verdict key now := by
  obtain ⟨hc, hh⟩ := h
  have hread : (Parts.ofBytes? token).bind (fun p => (headerOf? p).map (p, ·)) =
      some (p, ⟨.rs256, some kid⟩) := by
    rw [(Parts.ofBytes?_eq_some_iff token p).2 hc, Option.bind_some, hh, Option.map_some]
  unfold validate
  rw [hread]
  rfl

theorem validate_of_publicKey? {key : Rsa.PublicKey} (h : NamesKey token p kid)
    (hk : keys.publicKey? kid = some key) : validate keys token now = p.verdict key now := by
  rw [validate_of_namesKey h, hk]

theorem validate_of_absent (auth : Authenticator) (h : NamesKey token p kid)
    (hk : keys.privateKey? kid = none) :
    auth.validate keys token now = .error (.keyNotFound kid) := by
  have hpublic : keys.publicKey? kid = none := by rw [KeyStore.publicKey?, hk]; rfl
  rw [Authenticator.validate, validate_of_namesKey h, hpublic]

/-- Whatever the reason, a refused token looks the same from outside. -/
theorem isRejection_of_validate_error {e : AuthError} (h : validate keys token now = .error e) :
    IsRejection e := by
  unfold validate at h
  split at h
  · exact isRejection_of_refused h ⟨rfl, rfl⟩
  · split_ifs at h
    · exact isRejection_of_refused h ⟨rfl, rfl⟩
    · split at h
      · exact isRejection_of_refused h ⟨rfl, rfl⟩
      · split at h
        · exact isRejection_of_refused h ⟨rfl, rfl⟩
        · exact Parts.isRejection_of_verdict_error h

/-- Stores that agree on the named key agree on the token. -/
theorem validate_congr (auth : Authenticator) {keys' : KeyStore} (h : NamesKey token p kid)
    (hk : keys.publicKey? kid = keys'.publicKey? kid) :
    auth.validate keys token now = auth.validate keys' token now := by
  rw [Authenticator.validate, Authenticator.validate, validate_of_namesKey h,
    validate_of_namesKey h, hk]

/-- What is accepted names a key of the store, and is accepted under that key. -/
theorem validate_eq_ok_iff {claims : Claims} : validate keys token now = .ok claims ↔
    ∃ p kid key, NamesKey token p kid ∧ keys.publicKey? kid = some key ∧
      p.verdict key now = .ok claims := by
  refine ⟨?_, ?_⟩
  · intro h
    unfold validate at h
    split at h
    · simp at h
    · rename_i p header hread
      obtain ⟨q, hq, hmap⟩ := Option.bind_eq_some_iff.1 hread
      obtain ⟨header', hh, heq⟩ := Option.map_eq_some_iff.1 hmap
      obtain ⟨rfl, rfl⟩ := Prod.mk.inj heq
      split_ifs at h with halg
      split at h
      · simp at h
      · rename_i kid hkid
        split at h
        · simp at h
        · rename_i key hkey
          have hn : NamesKey token q kid := by
            refine ⟨(Parts.ofBytes?_eq_some_iff _ _).1 hq, ?_⟩
            obtain ⟨algorithm, kid'⟩ := header'
            obtain rfl : kid' = some kid := hkid
            obtain rfl : algorithm = .rs256 := not_not.1 halg
            exact hh
          exact ⟨q, kid, key, hn, hkey, h⟩
  · intro h
    rcases h with ⟨p, kid, key, hn, hk, h⟩
    rw [validate_of_publicKey? hn hk, h]

/-- A signed token with readable claims is decided by its end alone. -/
theorem verdict_of_signed {key : Rsa.PublicKey} {signature payload : Bytes} {claims : Claims}
    (hs : p.signature = encodePart signature) (hv : Rsa.verify key p.signed signature = true)
    (hp : p.payload = encodePart payload) (hc : claimsOf? payload = some claims) :
    p.verdict key now = if claims.expires ≤ now then .error .tokenExpired else .ok claims := by
  unfold Parts.verdict
  rw [hs, decodePart?_encodePart]
  simp only [hv, Bool.not_true, Bool.false_eq_true, if_false, hp, decodePart?_encodePart,
    Option.bind_some, hc]

theorem verdict_eq_ok_iff {key : Rsa.PublicKey} {claims : Claims} :
    p.verdict key now = .ok claims ↔
      (∃ signature, p.signature = encodePart signature ∧
        Rsa.verify key p.signed signature = true) ∧
      (∃ payload, p.payload = encodePart payload ∧ claimsOf? payload = some claims) ∧
      now < claims.expires := by
  refine ⟨?_, ?_⟩
  · intro h
    unfold Parts.verdict at h
    split at h
    · simp at h
    · rename_i signature hs
      split_ifs at h with hv
      split at h
      · simp at h
      · rename_i claims' hc
        split_ifs at h with he
        obtain rfl := Except.ok.inj h
        obtain ⟨payload, hp, hc⟩ := Option.bind_eq_some_iff.1 hc
        exact ⟨⟨signature, (decodePart?_eq_some_iff _ _).1 hs, by simpa using hv⟩,
          ⟨payload, (decodePart?_eq_some_iff _ _).1 hp, hc⟩, not_le.1 he⟩
  · intro h
    rcases h with ⟨⟨signature, hs, hv⟩, ⟨payload, hp, hc⟩, hlt⟩
    rw [verdict_of_signed hs hv hp hc, if_neg (not_le.2 hlt)]

end

end Turnstile.Token
