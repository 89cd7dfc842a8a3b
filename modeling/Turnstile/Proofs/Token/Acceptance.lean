import Turnstile.Proofs.KeyStore.Lookup
import Turnstile.Proofs.Token.Printed
import Turnstile.Proofs.Token.Verdict

/-! Which tokens are accepted: those that a key of the store signed, over an object that holds the
claims and has not expired. -/

namespace Turnstile

open Json

namespace Token

/-- What a token is made of: its parts, the members and bytes that they encode, and the key that the
header names. -/
structure Anatomy where
  parts : Parts
  header : List (String × Node)
  kid : String
  key : Rsa.PublicKey
  signature : Bytes
  payload : List (String × Node)

namespace Anatomy

/-- The token has this anatomy, is signed by the named key of the store, and carries the claims up to
their end. -/
structure Holds (a : Anatomy) (keys : KeyStore) (token : Bytes) (now : ℤ) (claims : Claims) :
    Prop where
  cut : a.parts.CutOf token
  header : ∃ text, a.parts.header = encodePart text ∧ ObjectText text a.header
  names : Header.Names a.header a.kid
  key : keys.publicKey? a.kid = some a.key
  signature : a.parts.signature = encodePart a.signature
  signed : a.key.Signs a.parts.signed a.signature
  payload : ∃ text, a.parts.payload = encodePart text ∧ ObjectText text a.payload
  held : claims.In a.payload
  ends : 0 ≤ claims.expires
  fresh : now < claims.expires

/-- No members beyond the usual ones, and a modulus of at most 4096 bits. -/
structure IsPlain (a : Anatomy) : Prop where
  header : Header.IsPlain a.header
  payload : Claims.IsPlain a.payload
  modulus : a.key.modulus < 2 ^ 4096

def IsTyped (a : Anatomy) : Prop := Header.IsTyped a.header

variable {a : Anatomy} {keys : KeyStore} {token : Bytes} {now : ℤ} {claims : Claims}

theorem Holds.of_validate (h : validate keys token now = .ok claims) :
    ∃ a : Anatomy, a.Holds keys token now claims ∧ a.IsTyped := by
  obtain ⟨p, kid, key, ⟨hc, hh⟩, hk, hv⟩ := validate_eq_ok_iff.1 h
  obtain ⟨⟨signature, hs, hsig⟩, ⟨payload, hp, hclaims⟩, hlt⟩ := verdict_eq_ok_iff.1 hv
  obtain ⟨header, hms, hht, hho, hread⟩ := (headerOf?_eq_some_iff p _).1 hh
  obtain ⟨pms, hpo, hin, h0, -, -⟩ := (claimsOf?_eq_some_iff payload claims).1 hclaims
  obtain ⟨hnames, htyped⟩ := Header.names_of_ofMembers? hread
  refine ⟨⟨p, hms, kid, key, signature, pms⟩, ?_, htyped⟩
  exact {
    cut := hc
    header := ⟨header, hht, hho⟩
    names := hnames
    key := hk
    signature := hs
    signed := ((Rsa.verify_eq_true_iff _ _ _).1 hsig).2
    payload := ⟨payload, hp, hpo⟩
    held := hin
    ends := h0
    fresh := hlt }

theorem Holds.verdict (h : a.Holds keys token now claims) (hp : a.IsPlain) :
    a.parts.verdict a.key now = .ok claims := by
  obtain ⟨payload, hpay, hobj⟩ := h.payload
  have hclaims := claimsOf?_of_isPlain hobj hp.payload h.held h.ends
  have hverify : Rsa.verify a.key a.parts.signed a.signature = true :=
    (Rsa.verify_eq_true_iff _ _ _).2 ⟨(Rsa.PublicKey.size_le_maxVerifySize_iff _).2 hp.modulus, h.signed⟩
  exact verdict_eq_ok_iff.2 ⟨⟨_, h.signature, hverify⟩, ⟨payload, hpay, hclaims⟩, h.fresh⟩

theorem Holds.namesKey (h : a.Holds keys token now claims) (hp : a.IsPlain) (ht : a.IsTyped) :
    NamesKey token a.parts a.kid := by
  obtain ⟨text, htext, hobj⟩ := h.header
  exact ⟨h.cut, (headerOf?_eq_some_iff _ _).2
    ⟨text, a.header, htext, hobj, Header.ofMembers?_eq_some_of_plain h.names hp.header ht⟩⟩

theorem Holds.validate (h : a.Holds keys token now claims) (hp : a.IsPlain) (ht : a.IsTyped) :
    validate keys token now = .ok claims := by
  rw [validate_of_publicKey? (h.namesKey hp ht) h.key, h.verdict hp]

/-- The cut and what the parts encode are determined by the token. -/
theorem Holds.header_eq {b : Anatomy} {keys' : KeyStore} {now' : ℤ} {claims' : Claims}
    (ha : a.Holds keys token now claims) (hb : b.Holds keys' token now' claims') :
    a.header = b.header := by
  have hparts : a.parts = b.parts := by
    have h := (Parts.ofBytes?_eq_some_iff _ _).2 ha.cut
    rw [(Parts.ofBytes?_eq_some_iff _ _).2 hb.cut] at h
    exact (Option.some.inj h).symm
  obtain ⟨text, htext, hobj⟩ := ha.header
  obtain ⟨text', htext', hobj'⟩ := hb.header
  have htexts : some text = some text' := by
    rw [← decodePart?_encodePart text, ← htext, hparts, htext', decodePart?_encodePart]
  obtain rfl := Option.some.inj htexts
  exact hobj.unique hobj'

/-- What printing and signing puts together. -/
def printed (type : Value) (kid : String) (claims : Claims) (key : Rsa.PublicKey)
    (signature : Bytes) : Anatomy where
  parts := Parts.printed type kid claims signature
  header := Header.printed type kid
  kid := kid
  key := key
  signature := signature
  payload := claims.printed

theorem holds_printed {type : Value} {kid : String} {key : Rsa.PublicKey} {signature : Bytes}
    (ht : type.IsWhole) (hk : keys.publicKey? kid = some key)
    (hs : key.Signs (Parts.printed type kid claims signature).signed signature)
    (hiat : Word.isSigned64 claims.issuedAt = true) (hexp : Word.isSigned64 claims.expires = true)
    (h0 : 0 ≤ claims.expires) (hnow : now < claims.expires) :
    (printed type kid claims key signature).Holds keys
      (Parts.printed type kid claims signature).joined now claims where
  cut := Parts.cutOf_printed type kid claims signature
  header := ⟨_, rfl, Header.objectText_printed kid ht⟩
  names := Header.names_printed type kid
  key := hk
  signature := rfl
  signed := hs
  payload := ⟨_, rfl, claims.objectText_json⟩
  held := Claims.in_printed hiat hexp
  ends := h0
  fresh := hnow

theorem isPlain_printed {type : Value} {kid : String} {key : Rsa.PublicKey} {signature : Bytes}
    (h : key.modulus < 2 ^ 4096) : (printed type kid claims key signature).IsPlain :=
  ⟨Header.isPlain_printed type kid, claims.isPlain_printed, h⟩

end Anatomy

/-! Two tokens under the key of the Mersenne primes. -/

def mersenneClaims : Claims := ⟨"i", "s", 1, 2, []⟩

def typedSignature : Bytes := Bytes.ofString <|
  "1iroR5muBulh3Au7iHA52F5iOTOTkzoJFs-cPSjtE0QiV15qamb8ffSgwnJDTm0O" ++
  "hCj69A18In-bDxU6e5F_FSmp7pKAaeLSV7GYUAcDnFz-"

/-- The token over `{"typ":"JWT","alg":"RS256","kid":"k"}`. -/
def typedToken : Bytes :=
  Bytes.ofString "eyJ0eXAiOiJKV1QiLCJhbGciOiJSUzI1NiIsImtpZCI6ImsifQ." ++
  Bytes.ofString "eyJpc3MiOiJpIiwic3ViIjoicyIsImlhdCI6MSwiZXhwIjoyLCJyb2xlcyI6W119." ++
  typedSignature

def numberedSignature : Bytes := Bytes.ofString <|
  "OzRx81aDGiylma4XvjyvzrjeV0_HMM7SIVfRLVgwM68TUOjnhoPuh7XTW_lYCGcG" ++
  "fPvU1ehFXnAOjTl3wuwp5qpVtNeUMOM6NxcgBMWsZT9-"

/-- The token over `{"typ":1,"alg":"RS256","kid":"k"}`. -/
def numberedToken : Bytes :=
  Bytes.ofString "eyJ0eXAiOjEsImFsZyI6IlJTMjU2Iiwia2lkIjoiayJ9." ++
  Bytes.ofString "eyJpc3MiOiJpIiwic3ViIjoicyIsImlhdCI6MSwiZXhwIjoyLCJyb2xlcyI6W119." ++
  numberedSignature

/-- What stands before the signature of the token with this type. -/
def mersenneSigned (type : Value) : Bytes :=
  encodePart (Header.value type "k").bytes ++ 46 :: encodePart mersenneClaims.json.bytes

theorem exists_anatomy (type : Value) (ht : type.IsWhole) {token signature : Bytes}
    (htoken : token = mersenneSigned type ++ 46 :: signature)
    (hv : (decodePart? signature).any
      (Rsa.verify Rsa.mersenneKey.public (mersenneSigned type)) = true) :
    ∃ a : Anatomy, a.header = Header.printed type "k" ∧
      a.Holds KeyStore.mersenne token 1 mersenneClaims ∧ a.IsPlain := by
  obtain ⟨s, hs, hsig⟩ := (Option.any_eq_true _ _).1 hv
  obtain rfl := (decodePart?_eq_some_iff _ _).1 hs
  have hk : KeyStore.mersenne.publicKey? "k" = some Rsa.mersenneKey.public := by
    rw [KeyStore.publicKey?, KeyStore.privateKey?_mersenne, Option.map_some]
  subst htoken
  exact ⟨Anatomy.printed type "k" mersenneClaims Rsa.mersenneKey.public s, rfl,
    Anatomy.holds_printed ht hk ((Rsa.verify_eq_true_iff _ _ _).1 hsig).2 (by decide) (by decide)
      (by decide) (by decide), Anatomy.isPlain_printed (by decide +kernel)⟩

theorem exists_anatomy_typedToken :
    ∃ a : Anatomy, a.Holds KeyStore.mersenne typedToken 1 mersenneClaims ∧ a.IsPlain ∧ a.IsTyped := by
  have htoken : typedToken = mersenneSigned (.text "JWT") ++ 46 :: typedSignature := by
    decide +kernel
  obtain ⟨a, heq, ha, hp⟩ := exists_anatomy (.text "JWT") trivial htoken (by decide +kernel)
  refine ⟨a, ha, hp, ?_⟩
  rw [Anatomy.IsTyped, heq]
  exact Header.isTyped_printed "k" "JWT"

end Token

namespace Authenticator

open Token

/-- What is accepted is signed by the named key of the store and holds the claims, which have not
expired. What does so with nothing unusual around it is accepted once a type in the header, if
any, is a string or null. -/
theorem validate_eq_ok_iff_anatomy (auth : Authenticator) (keys : KeyStore) (token : Bytes)
    (now : ℤ) (claims : Claims) :
    (auth.validate keys token now = .ok claims →
      ∃ a : Anatomy, a.Holds keys token now claims ∧ a.IsTyped) ∧
    ∀ a : Anatomy, a.Holds keys token now claims → a.IsPlain →
      (auth.validate keys token now = .ok claims ↔ a.IsTyped) := by
  refine ⟨Anatomy.Holds.of_validate, ?_⟩
  intro a ha hp
  refine ⟨?_, ha.validate hp⟩
  intro h
  obtain ⟨b, hb, ht⟩ := Anatomy.Holds.of_validate h
  rw [Anatomy.IsTyped, ha.header_eq hb]
  exact ht

theorem validate_eq_ok_typedToken :
    (∃ a : Anatomy, a.Holds KeyStore.mersenne typedToken 1 mersenneClaims ∧ a.IsPlain ∧ a.IsTyped) ∧
      (Authenticator.mk "k").validate KeyStore.mersenne typedToken 1 = .ok mersenneClaims := by
  obtain ⟨a, ha, hp, ht⟩ := exists_anatomy_typedToken
  exact ⟨⟨a, ha, hp, ht⟩, ((validate_eq_ok_iff_anatomy _ _ _ _ _).2 a ha hp).2 ht⟩

/-- A type that is a number spoils a token that is in order otherwise. -/
theorem validate_ne_ok_numberedToken :
    (∃ a : Anatomy, a.Holds KeyStore.mersenne numberedToken 1 mersenneClaims ∧ a.IsPlain) ∧
      (Authenticator.mk "k").validate KeyStore.mersenne numberedToken 1 = .error .malformedToken := by
  have htoken : numberedToken = mersenneSigned (.int 1) ++ 46 :: numberedSignature := by
    decide +kernel
  obtain ⟨a, -, ha, hp⟩ := exists_anatomy (.int 1) trivial htoken (by decide +kernel)
  exact ⟨⟨a, ha, hp⟩, by decide +kernel⟩

end Authenticator

end Turnstile
