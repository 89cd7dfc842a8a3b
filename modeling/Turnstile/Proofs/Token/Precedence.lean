import Turnstile.Proofs.Token.Acceptance

/-! The stages of validation. What it is to fail at a stage is said of the text of the token and of
the key that it names, without the other stages; the error is that of the first one that fails. -/

namespace Turnstile

open Json

namespace Header

/-- The name of the key that the header asks for. -/
def Asks (ms : List (String × Node)) (kid : String) : Prop :=
  ∃ v, Sole ms "kid" v ∧ v.text? = some kid

/-- There is no name of a key, or null for one. -/
def AsksNone (ms : List (String × Node)) : Prop :=
  Absent ms "kid" ∨ ∃ v, Sole ms "kid" v ∧ v.isNull = true

variable {ms : List (String × Node)} {h : Header}

theorem optionalText?_eq_some_none_iff (name : String) : optionalText? ms name = some none ↔
    Absent ms name ∨ ∃ v, Sole ms name v ∧ v.isNull = true := by
  unfold optionalText?
  rw [field?_eq_some_iff]
  refine ⟨?_, ?_⟩
  · intro h
    rcases h with ⟨v, hv, h⟩ | ⟨ha, -⟩
    · split_ifs at h with hn
      · exact Or.inr ⟨v, hv, hn⟩
      · simp at h
    · exact Or.inl ha
  · intro h
    rcases h with ha | ⟨v, hv, hn⟩
    · exact Or.inr ⟨ha, rfl⟩
    · exact Or.inl ⟨v, hv, by rw [if_pos hn]⟩

theorem name_eq_rs256_iff (a : Algorithm) : a.name = Algorithm.rs256.name ↔ a = .rs256 := by
  cases a <;> decide

theorem tag?_of_ofNode? {v : Node} {a : Algorithm} (h : Algorithm.ofNode? v = some a) :
    tag? v = some a.name := by
  unfold Algorithm.ofNode? at h
  obtain ⟨s, hs, ha⟩ := Option.bind_eq_some_iff.1 h
  have hname := List.find?_some ha
  rw [beq_iff_eq.1 hname]
  exact (Option.filter_eq_some_iff.1 hs).1

theorem alg_of_ofMembers? (hm : ofMembers? ms = some h) :
    ∃ v, Sole ms "alg" v ∧ tag? v = some h.algorithm.name := by
  simp only [ofMembers?, Option.bind_eq_bind, Option.bind_eq_some_iff] at hm
  obtain ⟨a, ha, kid, -, -, -, -, -, -, -, hm⟩ := hm
  split_ifs at hm
  obtain rfl := Option.some.inj hm
  obtain ⟨v, hv, hr⟩ := field?_none_eq_some_iff.1 ha
  exact ⟨v, hv, tag?_of_ofNode? hr⟩

theorem kid_of_ofMembers? (hm : ofMembers? ms = some h) : optionalText? ms "kid" = some h.kid := by
  simp only [ofMembers?, Option.bind_eq_bind, Option.bind_eq_some_iff] at hm
  obtain ⟨a, -, kid, hkid, -, -, -, -, -, -, hm⟩ := hm
  split_ifs at hm
  obtain rfl := Option.some.inj hm
  exact hkid

theorem asks_iff (hm : ofMembers? ms = some h) (kid : String) :
    Asks ms kid ↔ h.kid = some kid := by
  rw [Asks, ← optionalText?_eq_some_some_iff, kid_of_ofMembers? hm, Option.some_inj]

theorem asksNone_iff (hm : ofMembers? ms = some h) : AsksNone ms ↔ h.kid = none := by
  rw [AsksNone, ← optionalText?_eq_some_none_iff, kid_of_ofMembers? hm, Option.some_inj]

end Header

namespace Token

theorem decodePart?_eq_none_iff (part : Bytes) :
    decodePart? part = none ↔ ∀ b, part ≠ encodePart b := by
  simp only [Option.eq_none_iff_forall_ne_some, ne_eq, decodePart?_eq_some_iff]

/-- The cut, and the members of an object that reads as a header. -/
structure Heads (token : Bytes) (p : Parts) (ms : List (String × Node)) : Prop where
  cut : p.CutOf token
  text : ∃ text, p.header = encodePart text ∧ ObjectText text ms
  reads : (Header.ofMembers? ms).isSome = true

/-- The text is an object that holds the claims and does not end before 1970. -/
def Carries (text : Bytes) (claims : Claims) : Prop :=
  ∃ ms, ObjectText text ms ∧ claims.In ms ∧ 0 ≤ claims.expires ∧
    accepts ms "nbf" isNotBefore = true ∧ accepts ms "aud" isAudience = true

def Parts.claims? (p : Parts) : Option Claims := (decodePart? p.payload).bind claimsOf?

inductive Stage
  | header | algorithm | kid | key | encoding | signature | payload | expiry
  deriving DecidableEq, Repr

namespace Stage

/-- The order of the checks. -/
def order : List Stage := [header, algorithm, kid, key, encoding, signature, payload, expiry]

/-- The stages that no store bears on. -/
def storeless : List Stage := [header, algorithm, kid]

/-- The stages under a key. -/
def underKey : List Stage := [encoding, signature, payload, expiry]

theorem order_eq : order = storeless ++ key :: underKey := rfl

/-- How a token with a header fails. A modulus above 4096 bits verifies nothing. -/
def FailsWith (keys : KeyStore) (now : ℤ) (p : Parts) (ms : List (String × Node)) (e : AuthError) :
    Stage → Prop
  | header => False
  | algorithm => ∃ v name, Sole ms "alg" v ∧ tag? v = some name ∧ name ≠ Algorithm.rs256.name ∧
      e = .disallowedAlgorithm name
  | kid => Header.AsksNone ms ∧ e = .missingKid
  | key => ∃ kid, Header.Asks ms kid ∧ keys.publicKey? kid = none ∧ e = .keyNotFound kid
  | encoding => (∀ b, p.signature ≠ encodePart b) ∧ e = .malformedToken
  | signature => ∃ kid key b, Header.Asks ms kid ∧ keys.publicKey? kid = some key ∧
      p.signature = encodePart b ∧ ¬ (key.modulus < 2 ^ 4096 ∧ key.Signs p.signed b) ∧
      e = .invalidSignature
  | payload => (∀ text claims, p.payload = encodePart text → ¬ Carries text claims) ∧
      e = .malformedToken
  | expiry => ∃ text claims, p.payload = encodePart text ∧ Carries text claims ∧
      claims.expires ≤ now ∧ e = .tokenExpired

/-- The token fails at the stage, whatever it does at the others, and `e` is the error for that. -/
def Fails (keys : KeyStore) (token : Bytes) (now : ℤ) (e : AuthError) (s : Stage) : Prop :=
  (s = header ∧ (∀ p ms, ¬ Heads token p ms) ∧ e = .malformedToken) ∨
    ∃ p ms, Heads token p ms ∧ s.FailsWith keys now p ms e

/-- The token fails at a stage, and at none before that. -/
def FailsFirst (keys : KeyStore) (token : Bytes) (now : ℤ) (e : AuthError) (s : Stage) : Prop :=
  s.Fails keys token now e ∧ ∃ before after, order = before ++ s :: after ∧
    ∀ s' ∈ before, ∀ e', ¬ s'.Fails keys token now e'

/-- The same on what was read of the token. -/
def errorWith? (keys : KeyStore) (now : ℤ) (p : Parts) (h : Header) : Stage → Option AuthError
  | header => none
  | algorithm =>
    if h.algorithm ≠ .rs256 then some (.disallowedAlgorithm h.algorithm.name) else none
  | kid => if h.kid.isNone then some .missingKid else none
  | key => h.kid.bind fun kid =>
      if (keys.publicKey? kid).isNone then some (.keyNotFound kid) else none
  | encoding => if (decodePart? p.signature).isNone then some .malformedToken else none
  | signature => (h.kid.bind keys.publicKey?).bind fun key => (decodePart? p.signature).bind fun b =>
      if Rsa.verify key p.signed b then none else some .invalidSignature
  | payload => if p.claims?.isNone then some .malformedToken else none
  | expiry => p.claims?.bind fun claims =>
      if claims.expires ≤ now then some .tokenExpired else none

def error? (keys : KeyStore) (token : Bytes) (now : ℤ) (s : Stage) : Option AuthError :=
  match (Parts.ofBytes? token).bind fun p => (headerOf? p).map (p, ·) with
  | none => if s = header then some .malformedToken else none
  | some (p, h) => s.errorWith? keys now p h

end Stage

section

variable {keys : KeyStore} {token : Bytes} {now : ℤ} {p : Parts} {ms : List (String × Node)}
  {h : Header} {e : AuthError}

theorem read?_eq_some_iff : ((Parts.ofBytes? token).bind fun p => (headerOf? p).map (p, ·)) =
    some (p, h) ↔ ∃ ms, Heads token p ms ∧ Header.ofMembers? ms = some h := by
  simp only [Option.bind_eq_some_iff, Option.map_eq_some_iff, Prod.mk.injEq, headerOf?_eq_some_iff,
    Parts.ofBytes?_eq_some_iff]
  refine ⟨?_, ?_⟩
  · rintro ⟨p, hcut, h, ⟨text, ms, htext, hobj, hread⟩, rfl, rfl⟩
    exact ⟨ms, ⟨hcut, ⟨text, htext, hobj⟩, by rw [hread]; rfl⟩, hread⟩
  · rintro ⟨ms, ⟨hcut, ⟨text, htext, hobj⟩, -⟩, hread⟩
    exact ⟨p, hcut, h, ⟨text, ms, htext, hobj, hread⟩, rfl, rfl⟩

theorem Parts.CutOf.unique {q : Parts} (hp : p.CutOf token) (hq : q.CutOf token) : p = q := by
  rw [← Parts.ofBytes?_eq_some_iff] at hp hq
  exact Option.some.inj (hp.symm.trans hq)

theorem Heads.unique {q : Parts} {ns : List (String × Node)} (hp : Heads token p ms)
    (hq : Heads token q ns) : p = q ∧ ms = ns := by
  obtain rfl := hp.cut.unique hq.cut
  obtain ⟨text, htext, hobj⟩ := hp.text
  obtain ⟨text', htext', hobj'⟩ := hq.text
  have htexts := (decodePart?_eq_some_iff _ _).2 htext
  rw [(decodePart?_eq_some_iff _ _).2 htext'] at htexts
  obtain rfl := Option.some.inj htexts
  exact ⟨rfl, hobj.unique hobj'⟩

theorem Heads.namesKey {kid : String} (hp : Heads token p ms)
    (hm : Header.ofMembers? ms = some ⟨.rs256, some kid⟩) : NamesKey token p kid := by
  obtain ⟨text, htext, hobj⟩ := hp.text
  exact ⟨hp.cut, (headerOf?_eq_some_iff _ _).2 ⟨text, ms, htext, hobj, hm⟩⟩

theorem Parts.claims?_eq_some_iff (claims : Claims) :
    p.claims? = some claims ↔ ∃ text, p.payload = encodePart text ∧ Carries text claims := by
  simp only [Parts.claims?, Option.bind_eq_some_iff, decodePart?_eq_some_iff, claimsOf?_eq_some_iff,
    Carries]

theorem Parts.claims?_eq_none_iff :
    p.claims? = none ↔ ∀ text claims, p.payload = encodePart text → ¬ Carries text claims := by
  rw [Option.eq_none_iff_forall_ne_some]
  simp only [ne_eq, Parts.claims?_eq_some_iff, not_exists, not_and]
  exact forall_comm

theorem verify_eq_false_iff (key : Rsa.PublicKey) (message signature : Bytes) :
    Rsa.verify key message signature = false ↔
      ¬ (key.modulus < 2 ^ 4096 ∧ key.Signs message signature) := by
  rw [← Rsa.PublicKey.size_le_maxVerifySize_iff, ← Rsa.verify_eq_true_iff, Bool.not_eq_true]

theorem ite_eq_some_iff {c : Prop} [Decidable c] {e' : AuthError} :
    (if c then some e' else none) = some e ↔ c ∧ e = e' := by
  rw [Option.ite_none_right_eq_some, Option.some_inj, eq_comm]

namespace Stage

/-- On a token with a header, failing is what the code finds. -/
theorem errorWith?_eq_some_iff (hm : Header.ofMembers? ms = some h) (s : Stage) :
    s.errorWith? keys now p h = some e ↔ s.FailsWith keys now p ms e := by
  cases s with
  | header => simp [errorWith?, FailsWith]
  | algorithm =>
    obtain ⟨v, hv, htag⟩ := Header.alg_of_ofMembers? hm
    simp only [errorWith?, FailsWith, ite_eq_some_iff, ne_eq, ← Header.name_eq_rs256_iff]
    refine ⟨?_, ?_⟩
    · rintro ⟨hname, rfl⟩
      exact ⟨v, _, hv, htag, hname, rfl⟩
    · rintro ⟨w, name, hw, htag', hname, rfl⟩
      obtain rfl := hv.unique hw
      obtain rfl := Option.some.inj (htag.symm.trans htag')
      exact ⟨hname, rfl⟩
  | kid =>
    rw [errorWith?, FailsWith, ite_eq_some_iff, Option.isNone_iff_eq_none, Header.asksNone_iff hm]
  | key =>
    simp only [errorWith?, FailsWith, Option.bind_eq_some_iff, ite_eq_some_iff,
      Option.isNone_iff_eq_none, Header.asks_iff hm]
  | encoding =>
    rw [errorWith?, FailsWith, ite_eq_some_iff, Option.isNone_iff_eq_none, decodePart?_eq_none_iff]
  | signature =>
    simp only [errorWith?, FailsWith, Option.bind_eq_some_iff, decodePart?_eq_some_iff,
      Header.asks_iff hm, ← verify_eq_false_iff]
    refine ⟨?_, ?_⟩
    · rintro ⟨key, ⟨kid, hkid, hkey⟩, b, hb, he⟩
      split_ifs at he with hv
      exact ⟨kid, key, b, hkid, hkey, hb, by simpa using hv, (Option.some.inj he).symm⟩
    · rintro ⟨kid, key, b, hkid, hkey, hb, hv, rfl⟩
      exact ⟨key, ⟨kid, hkid, hkey⟩, b, hb, by rw [hv]; rfl⟩
  | payload =>
    rw [errorWith?, FailsWith, ite_eq_some_iff, Option.isNone_iff_eq_none,
      Parts.claims?_eq_none_iff]
  | expiry =>
    simp only [errorWith?, FailsWith, Option.bind_eq_some_iff, Parts.claims?_eq_some_iff,
      ite_eq_some_iff]
    refine ⟨?_, ?_⟩
    · rintro ⟨claims, ⟨text, htext, hc⟩, hle, rfl⟩
      exact ⟨text, claims, htext, hc, hle, rfl⟩
    · rintro ⟨text, claims, htext, hc, hle, rfl⟩
      exact ⟨claims, ⟨text, htext, hc⟩, hle, rfl⟩

theorem error?_eq_some_iff (s : Stage) :
    s.error? keys token now = some e ↔ s.Fails keys token now e := by
  unfold error? Fails
  split
  · rename_i hread
    have hnone : ∀ p ms, ¬ Heads token p ms := by
      intro p ms hp
      obtain ⟨h, hm⟩ := Option.isSome_iff_exists.1 hp.reads
      have := read?_eq_some_iff.2 ⟨ms, hp, hm⟩
      simp [hread] at this
    simp only [ite_eq_some_iff, hnone, false_and, exists_false, or_false, not_false_eq_true,
      implies_true, true_and]
  · rename_i p h hread
    obtain ⟨ms, hp, hm⟩ := read?_eq_some_iff.1 hread
    rw [errorWith?_eq_some_iff hm]
    refine ⟨fun hs => Or.inr ⟨p, ms, hp, hs⟩, ?_⟩
    rintro (⟨-, hnone, -⟩ | ⟨q, ns, hq, hs⟩)
    · exact absurd hp (hnone p ms)
    · obtain ⟨rfl, rfl⟩ := hp.unique hq
      exact hs

theorem error?_eq_none_iff (s : Stage) :
    s.error? keys token now = none ↔ ∀ e, ¬ s.Fails keys token now e := by
  simp only [Option.eq_none_iff_forall_ne_some, ne_eq, error?_eq_some_iff]

theorem failsFirst_iff :
    (∃ s : Stage, s.FailsFirst keys token now e) ↔
      order.findSome? (error? keys token now) = some e := by
  simp only [List.findSome?_eq_some_iff, error?_eq_some_iff, error?_eq_none_iff, FailsFirst]
  refine ⟨?_, ?_⟩
  · rintro ⟨s, hs, before, after, horder, hbefore⟩
    exact ⟨before, s, after, horder, hs, hbefore⟩
  · rintro ⟨before, s, after, horder, hs, hbefore⟩
    exact ⟨s, hs, before, after, horder, hbefore⟩

end Stage

theorem Parts.verdict_eq_error_iff {kid : String} {key : Rsa.PublicKey} (hkid : h.kid = some kid)
    (hkey : keys.publicKey? kid = some key) : p.verdict key now = .error e ↔
      Stage.underKey.findSome? (Stage.errorWith? keys now p h) = some e := by
  have hclaims : (decodePart? p.payload).bind claimsOf? = p.claims? := rfl
  unfold Parts.verdict
  rw [hclaims]
  simp only [Stage.underKey, List.findSome?_cons, Stage.errorWith?, hkid, Option.bind_some, hkey]
  cases hsig : decodePart? p.signature with
  | none => simp
  | some signature =>
    cases hv : Rsa.verify key p.signed signature with
    | false => simp [hv]
    | true =>
      cases hc : p.claims? with
      | none => simp [hv]
      | some claims => by_cases hle : claims.expires ≤ now <;> simp [hv, hle]

/-- Validation tries the stages in order. -/
theorem validate_eq_error_iff : validate keys token now = .error e ↔
    ∃ s : Stage, s.FailsFirst keys token now e := by
  rw [Stage.failsFirst_iff]
  cases hread : (Parts.ofBytes? token).bind fun p => (headerOf? p).map (p, ·) with
  | none => simp [validate, Stage.order, Stage.error?, hread]
  | some read =>
    obtain ⟨p, h⟩ := read
    have hwith : Stage.error? keys token now = Stage.errorWith? keys now p h := by
      funext s
      simp [Stage.error?, hread]
    rw [hwith, Stage.order_eq, List.findSome?_append]
    -- a check that passes leaves the rest of the list, as it leaves the rest of the code
    by_cases halg : h.algorithm = .rs256
    · obtain ⟨algorithm, kid⟩ := h
      obtain rfl : algorithm = .rs256 := halg
      cases kid with
      | none => simp [validate, hread, Stage.storeless, List.findSome?_cons, Stage.errorWith?]
      | some kid =>
        obtain ⟨ms, hp, hm⟩ := read?_eq_some_iff.1 hread
        rw [validate_of_namesKey (hp.namesKey hm)]
        cases hkey : keys.publicKey? kid with
        | none => simp [Stage.storeless, List.findSome?_cons, Stage.errorWith?, hkey]
        | some key =>
          have hverdict : p.verdict key now = .error e ↔ Stage.underKey.findSome?
              (Stage.errorWith? keys now p ⟨.rs256, some kid⟩) = some e :=
            Parts.verdict_eq_error_iff rfl hkey
          rw [hverdict]
          simp [Stage.storeless, List.findSome?_cons, Stage.errorWith?, hkey]
    · simp [validate, hread, halg, Stage.storeless, List.findSome?_cons, Stage.errorWith?]

theorem Stage.findSome?_storeless (keys keys' : KeyStore) (token : Bytes) (now : ℤ) :
    storeless.findSome? (error? keys' token now) = storeless.findSome? (error? keys token now) :=
  rfl

/-- A token that fails before the store is asked fails alike with any store. -/
theorem validate_of_fails_storeless (keys' : KeyStore) {s : Stage} (hs : s ∈ Stage.storeless)
    (hfails : s.Fails keys token now e) :
    validate keys' token now = validate keys token now := by
  have hsome : Stage.storeless.findSome? (Stage.error? keys token now) ≠ none := by
    rw [ne_eq, List.findSome?_eq_none_iff]
    intro hnone
    have := (Stage.error?_eq_some_iff s).2 hfails
    simp [hnone s hs] at this
  obtain ⟨first, hfirst⟩ := Option.ne_none_iff_exists'.1 hsome
  have herror : ∀ {store : KeyStore},
      Stage.storeless.findSome? (Stage.error? store token now) = some first →
        validate store token now = .error first := by
    intro store hstore
    apply validate_eq_error_iff.2
    rw [Stage.failsFirst_iff, Stage.order_eq, List.findSome?_append, hstore, Option.some_or]
  rw [herror ((Stage.findSome?_storeless keys keys' token now).trans hfirst), herror hfirst]

/-- Of the store, a token asks for no more than its own key. -/
theorem validate_of_asks {keys' : KeyStore} {kid : String} (hp : Heads token p ms)
    (hasks : Header.Asks ms kid) (hk : keys'.publicKey? kid = keys.publicKey? kid) :
    validate keys' token now = validate keys token now := by
  obtain ⟨⟨algorithm, kid'⟩, hm⟩ := Option.isSome_iff_exists.1 hp.reads
  obtain rfl : kid' = some kid := (Header.asks_iff hm kid).1 hasks
  by_cases halg : algorithm = .rs256
  · subst halg
    rw [validate_of_namesKey (hp.namesKey hm), validate_of_namesKey (hp.namesKey hm), hk]
  · obtain ⟨v, hv, htag⟩ := Header.alg_of_ofMembers? hm
    have hname : algorithm.name ≠ Algorithm.rs256.name := fun h =>
      halg ((Header.name_eq_rs256_iff algorithm).1 h)
    exact validate_of_fails_storeless keys' (s := .algorithm) (by decide)
      (Or.inr ⟨p, ms, hp, v, _, hv, htag, hname, rfl⟩)

/-- From then on, the clock alone decides. -/
theorem validate_of_validate_eq_ok {claims : Claims} (h : validate keys token now = .ok claims)
    (now' : ℤ) : validate keys token now' =
      if claims.expires ≤ now' then .error .tokenExpired else .ok claims := by
  obtain ⟨p, kid, key, hn, hk, hv⟩ := validate_eq_ok_iff.1 h
  obtain ⟨⟨signature, hs, hsig⟩, ⟨payload, hp, hc⟩, -⟩ := verdict_eq_ok_iff.1 hv
  rw [validate_of_publicKey? hn hk, verdict_of_signed hs hsig hp hc]

theorem lt_expires_of_validate {claims : Claims} (h : validate keys token now = .ok claims) :
    now < claims.expires := by
  obtain ⟨p, kid, key, -, -, hv⟩ := validate_eq_ok_iff.1 h
  exact (verdict_eq_ok_iff.1 hv).2.2

end

end Token

namespace Authenticator

open Token

/-- The error is that of the first stage that fails. The store bears on it by the named key alone,
and a token that was accepted can only expire. -/
theorem validate_fails_in_order (auth auth' : Authenticator) (keys : KeyStore) (token : Bytes)
    (now : ℤ) :
    (∀ e, auth.validate keys token now = .error e ↔
      ∃ s : Stage, s.FailsFirst keys token now e) ∧
    (∀ keys' : KeyStore, (∃ s ∈ [Stage.header, .algorithm, .kid], ∃ e, s.Fails keys token now e) →
      auth'.validate keys' token now = auth.validate keys token now) ∧
    (∀ (keys' : KeyStore) p ms kid, Heads token p ms → Header.Asks ms kid →
      keys'.publicKey? kid = keys.publicKey? kid →
      auth'.validate keys' token now = auth.validate keys token now) ∧
    ∀ claims, auth.validate keys token now = .ok claims → ∀ now',
      (now' ≤ now → auth.validate keys token now' = .ok claims) ∧
      ∀ e, auth.validate keys token now' = .error e → now < now' ∧ e = .tokenExpired := by
  refine ⟨fun _ => validate_eq_error_iff, ?_, ?_, ?_⟩
  · rintro keys' ⟨s, hs, e, hfails⟩
    exact validate_of_fails_storeless keys' hs hfails
  · intro keys' p ms kid hp hasks hk
    exact validate_of_asks hp hasks hk
  · intro claims hok now'
    have hclock := validate_of_validate_eq_ok hok now'
    have hlt := lt_expires_of_validate hok
    refine ⟨?_, ?_⟩
    · intro hle
      rw [Authenticator.validate, hclock, if_neg (by omega)]
    · intro e he
      rw [Authenticator.validate, hclock] at he
      split_ifs at he with hexpired
      exact ⟨by omega, (Except.error.inj he).symm⟩

theorem validate_fails_in_order_typedToken :
    let auth := Authenticator.mk "k"
    let wider := KeyStore.mersenne.insert "other" Rsa.mersenneKey
    auth.validate wider typedToken 1 = .ok mersenneClaims ∧
      auth.validate KeyStore.mersenne typedToken 0 = .ok mersenneClaims ∧
      (∀ e, auth.validate KeyStore.mersenne typedToken 2 = .error e → e = .tokenExpired) ∧
      auth.validate wider [] 1 = auth.validate KeyStore.mersenne [] 1 := by
  intro auth wider
  obtain ⟨a, ha, hp, ht⟩ := exists_anatomy_typedToken
  have hok : auth.validate KeyStore.mersenne typedToken 1 = .ok mersenneClaims :=
    ha.validate hp ht
  have hheads : Heads typedToken a.parts a.header :=
    ⟨ha.cut, ha.header, by rw [Header.ofMembers?_eq_some_of_plain ha.names hp.header ht]; rfl⟩
  have hkey : wider.publicKey? a.kid = KeyStore.mersenne.publicKey? a.kid := by
    have hother : a.kid ≠ "other" := by
      intro hkid
      have := ha.key
      rw [hkid, KeyStore.publicKey?, KeyStore.mersenne, KeyStore.privateKey?_insert,
        if_neg (by decide), KeyStore.privateKey?_empty] at this
      simp at this
    apply KeyStore.publicKey?_eq_of_privateKey?
    rw [KeyStore.privateKey?_insert, if_neg hother.symm]
  obtain ⟨-, -, hbinding, hclock⟩ :=
    validate_fails_in_order auth auth KeyStore.mersenne typedToken 1
  obtain ⟨-, hstoreless, -, -⟩ := validate_fails_in_order auth auth KeyStore.mersenne [] 1
  refine ⟨?_, (hclock _ hok 0).1 (by decide), fun e he => ((hclock _ hok 2).2 e he).2, ?_⟩
  · rw [hbinding wider _ _ _ hheads ha.names.kid hkey, hok]
  · apply hstoreless wider
    refine ⟨.header, by decide, .malformedToken, Or.inl ⟨rfl, ?_, rfl⟩⟩
    intro p ms hhead
    simpa using hhead.cut.joined

end Authenticator

end Turnstile
