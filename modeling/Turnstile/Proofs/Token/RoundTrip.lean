import Turnstile.Proofs.KeyStore.Lookup
import Turnstile.Proofs.Token.Printed
import Turnstile.Proofs.Token.Verdict

/-! What a key mints, every authenticator over the store takes back, with the same claims, until
they expire. -/

namespace Turnstile

open Json

namespace Token

/-- The parts of a minted token. -/
def Parts.minted : String → Claims → Bytes → Parts := Parts.printed (.text "JWT")

theorem sign_eq_ok_iff {key : Rsa.PrivateKey} {kid : String} {claims : Claims} {token : Bytes} :
    sign key kid claims = .ok token ↔ ∃ signature,
      Rsa.sign key (signingInput kid claims) = .ok signature ∧
      token = (Parts.minted kid claims signature).joined := by
  have hjoined : ∀ s, (Parts.minted kid claims s).joined =
      signingInput kid claims ++ 46 :: encodePart s := fun _ => rfl
  simp only [hjoined, sign]
  cases Rsa.sign key (signingInput kid claims) with
  | error e => simp [Except.map]
  | ok s => simp [Except.map, eq_comm]

/-- A token is ASCII, and so a text. -/
theorem exists_text_of_sign {key : Rsa.PrivateKey} {kid : String} {claims : Claims} {token : Bytes}
    (h : sign key kid claims = .ok token) : ∃ text, token = Bytes.ofString text := by
  obtain ⟨signature, -, rfl⟩ := sign_eq_ok_iff.1 h
  have hpart : ∀ part, ∀ b ∈ encodePart part, b < 128 := fun _ _ => Base64.lt_of_mem_encode
  have hascii : ∀ b ∈ (Parts.minted kid claims signature).joined, b < 128 := by
    intro b hb
    simp only [Parts.joined, Parts.signed, List.mem_append, List.mem_cons] at hb
    rcases hb with (hb | rfl | hb) | rfl | hb
    · exact hpart _ b hb
    · decide
    · exact hpart _ b hb
    · decide
    · exact hpart _ b hb
  exact ⟨_, (Bytes.ofString_ascii hascii).symm⟩

theorem namesKey_minted (kid : String) (claims : Claims) (signature : Bytes) :
    NamesKey (Parts.minted kid claims signature).joined (Parts.minted kid claims signature) kid := by
  refine ⟨Parts.cutOf_printed _ kid claims signature, (headerOf?_eq_some_iff _ _).2 ?_⟩
  refine ⟨_, Header.printed (.text "JWT") kid, rfl, Header.objectText_printed kid trivial, ?_⟩
  exact Header.ofMembers?_eq_some_of_plain (Header.names_printed _ kid)
    (Header.isPlain_printed _ kid) (Header.isTyped_printed kid "JWT")

/-- A minted token is judged by its end alone. -/
theorem validate_of_sign {key : Rsa.PrivateKey} {keys : KeyStore} {kid : String} {claims : Claims}
    {token : Bytes} (hs : sign key kid claims = .ok token) (hk : keys.privateKey? kid = some key)
    (hsize : key.public.size ≤ Rsa.maxVerifySize) (hiat : Word.isSigned64 claims.issuedAt = true)
    (hexp : Word.isSigned64 claims.expires = true) (h0 : 0 ≤ claims.expires) (now : ℤ) :
    validate keys token now =
      if claims.expires ≤ now then .error .tokenExpired else .ok claims := by
  obtain ⟨signature, hsig, rfl⟩ := sign_eq_ok_iff.1 hs
  have hpublic : keys.publicKey? kid = some key.public := by rw [KeyStore.publicKey?, hk]; rfl
  have hverify := (Rsa.verify_eq_true_iff _ _ _).2 ⟨hsize, Rsa.signs_of_sign hsig⟩
  rw [validate_of_publicKey? (namesKey_minted kid claims signature) hpublic]
  exact verdict_of_signed rfl hverify rfl (claimsOf?_of_isPlain claims.objectText_json
    claims.isPlain_printed (Claims.in_printed hiat hexp) h0)

theorem exists_sign {key : Rsa.PrivateKey} (hkey : key.CanSign) (kid : String) (claims : Claims) :
    ∃ text, sign key kid claims = .ok (Bytes.ofString text) := by
  obtain ⟨pem, hpem⟩ := hkey.read
  obtain ⟨p, q, hp, hq, hne, hn⟩ := hkey.factors
  obtain ⟨signature, hs⟩ := (Rsa.PrivateKey.isConsistent_of_ofPem hpem).exists_sign hp hq hne hn
    hkey.long (signingInput kid claims)
  have hsign := sign_eq_ok_iff.2 ⟨signature, hs, rfl⟩
  obtain ⟨text, htext⟩ := exists_text_of_sign hsign
  exact ⟨text, htext ▸ hsign⟩

/-- A sound key signs a token that is good for the claims until they expire. -/
theorem exists_token {keys : KeyStore} {kid : String} {key : Rsa.PrivateKey} (hkey : key.IsSound)
    (hfound : keys.privateKey? kid = some key) (claims : Claims)
    (hiat : Word.isSigned64 claims.issuedAt = true) (hexp : Word.isSigned64 claims.expires = true)
    (h0 : 0 ≤ claims.expires) : ∃ token, sign key kid claims = .ok token ∧
      ∀ now < claims.expires, validate keys token now = .ok claims := by
  obtain ⟨text, hsign⟩ := exists_sign hkey.canSign kid claims
  refine ⟨_, hsign, ?_⟩
  intro now hnow
  have hjudged := validate_of_sign hsign hfound hkey.short hiat hexp h0 now
  exact hjudged.trans (if_neg (not_le.2 hnow))

/-- The modulus has no room for the padded digest. -/
theorem sign_of_short {key : Rsa.PrivateKey} (h : key.public.size < Rsa.minSize) (kid : String)
    (claims : Claims) : sign key kid claims = .error .messageTooLong := by
  rw [sign, Rsa.sign, Rsa.encodeDigest?, if_pos h]
  rfl

/-- A key that is too long to verify with signs tokens that are never accepted. -/
theorem validate_of_sign_of_long {key : Rsa.PrivateKey} {keys : KeyStore} {kid : String}
    {claims : Claims} {token : Bytes} (hs : sign key kid claims = .ok token)
    (hk : keys.privateKey? kid = some key) (hsize : Rsa.maxVerifySize < key.public.size) (now : ℤ) :
    validate keys token now = .error .invalidSignature := by
  obtain ⟨signature, -, rfl⟩ := sign_eq_ok_iff.1 hs
  have hpublic : keys.publicKey? kid = some key.public := by rw [KeyStore.publicKey?, hk]; rfl
  have hverify : Rsa.verify key.public (Parts.minted kid claims signature).signed signature =
      false := by
    rw [← Bool.not_eq_true, Rsa.verify_eq_true_iff]
    exact fun h => absurd h.1 (not_le.2 hsize)
  have hpart : (Parts.minted kid claims signature).signature = encodePart signature := rfl
  rw [validate_of_publicKey? (namesKey_minted kid claims signature) hpublic, Parts.verdict, hpart,
    decodePart?_encodePart]
  simp only [hverify, Bool.not_false, if_true]

end Token

namespace Authenticator

/-- A key of two distinct primes, neither too short to sign nor too long to verify, mints for every
claims; each authenticator over the store takes the token up to its end. -/
theorem validate_generate {pem : Bytes} {key : Rsa.PrivateKey} {keys : KeyStore} {kid : String}
    {claims : Claims} {p q : ℕ} (hpem : Rsa.PrivateKey.ofPem pem = .ok key)
    (hkey : keys.privateKey? kid = some key) (hp : p.Prime) (hq : q.Prime) (hne : p ≠ q)
    (hn : key.modulus = p * q) (hmin : 62 ≤ key.public.size) (hmax : key.modulus < 2 ^ 4096)
    (hiat : Word.isSigned64 claims.issuedAt = true) (hexp : Word.isSigned64 claims.expires = true)
    (h0 : 0 ≤ claims.expires) :
    Authenticator.new keys kid = .ok ⟨kid⟩ ∧
      ∃ token, (Authenticator.mk kid).generate keys claims = .ok token ∧
        ∀ (other : Authenticator) (now : ℤ),
          (now < claims.expires → other.validate keys token now = .ok claims) ∧
          (claims.expires ≤ now → other.validate keys token now = .error .tokenExpired) := by
  have hconsistent := Rsa.PrivateKey.isConsistent_of_ofPem hpem
  obtain ⟨signature, hs⟩ :=
    hconsistent.exists_sign hp hq hne hn hmin (Token.signingInput kid claims)
  have htoken := Token.sign_eq_ok_iff.2 ⟨signature, hs, rfl⟩
  have hnew : Authenticator.new keys kid = .ok ⟨kid⟩ := by simp [Authenticator.new, hkey]
  have hsize := (Rsa.PublicKey.size_le_maxVerifySize_iff key.public).2 hmax
  have hgenerate : (Authenticator.mk kid).generate keys claims =
      .ok (Token.Parts.minted kid claims signature).joined := by
    simp only [generate, hkey, htoken]
  refine ⟨hnew, _, hgenerate, ?_⟩
  intro other now
  have hjudged := Token.validate_of_sign htoken hkey hsize hiat hexp h0 now
  refine ⟨?_, ?_⟩
  · intro h
    exact hjudged.trans (if_neg (not_le.2 h))
  · intro h
    exact hjudged.trans (if_pos h)

theorem validate_generate_mersenne :
    Rsa.PrivateKey.ofPem Rsa.mersennePem = .ok Rsa.mersenneKey ∧
      Authenticator.new KeyStore.mersenne "k" = .ok ⟨"k"⟩ ∧
      ∃ token, (Authenticator.mk "k").generate KeyStore.mersenne
          ⟨"\u00e9\n", "\"", -1, 2, ["ADMIN", ""]⟩ = .ok token ∧
        (Authenticator.mk "other").validate KeyStore.mersenne token 1 =
          .ok ⟨"\u00e9\n", "\"", -1, 2, ["ADMIN", ""]⟩ ∧
        (Authenticator.mk "other").validate KeyStore.mersenne token 2 = .error .tokenExpired := by
  have hne : 2 ^ 521 - 1 ≠ 2 ^ 127 - 1 := by decide +kernel
  have hmin : 62 ≤ Rsa.mersenneKey.public.size := by decide +kernel
  have hmax : Rsa.mersenneKey.modulus < 2 ^ 4096 := by decide +kernel
  have h0 : 0 ≤ (Claims.mk "\u00e9\n" "\"" (-1) 2 ["ADMIN", ""]).expires := by decide
  obtain ⟨hnew, token, htoken, hv⟩ := validate_generate Rsa.ofPem_mersennePem
    KeyStore.privateKey?_mersenne Rsa.prime_mersenne_521 Rsa.prime_mersenne_127 hne rfl hmin hmax
    (by decide) (by decide) h0
  exact ⟨Rsa.ofPem_mersennePem, hnew, token, htoken, (hv _ 1).1 (by decide), (hv _ 2).2 (by decide)⟩

end Authenticator

end Turnstile
