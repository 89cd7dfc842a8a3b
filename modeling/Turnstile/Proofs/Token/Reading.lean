import Turnstile.Proofs.Base64
import Turnstile.Proofs.Bytes
import Turnstile.Proofs.Json.Members
import Turnstile.Token.Authenticator

/-! What a token says before any key is asked: the cut at the last two dots, the members of the
header that name the key, and those of the payload that hold the claims. -/

namespace Turnstile

open Json

namespace Token

theorem decodePart?_eq_some_iff (part b : Bytes) : decodePart? part = some b ↔ part = encodePart b :=
  Base64.decode?_eq_some_iff _ _ _

@[simp] theorem decodePart?_encodePart (b : Bytes) : decodePart? (encodePart b) = some b :=
  Base64.decode?_encode _ _

theorem dot_notMem_encodePart (b : Bytes) : 46 ∉ encodePart b := Base64.dot_notMem_encode _ _

/-- The parts are those around the last two dots. -/
structure Parts.CutOf (p : Parts) (token : Bytes) : Prop where
  joined : token = p.header ++ 46 :: p.payload ++ 46 :: p.signature
  payload : 46 ∉ p.payload
  signature : 46 ∉ p.signature

theorem Parts.ofBytes?_eq_some_iff (token : Bytes) (p : Parts) :
    Parts.ofBytes? token = some p ↔ p.CutOf token := by
  unfold Parts.ofBytes?
  refine ⟨?_, ?_⟩
  · intro h
    split at h
    · simp at h
    · rename_i signed signature hs
      obtain ⟨rfl, hsig⟩ := (Bytes.splitLast?_eq_some_iff _ _ _ _).1 hs
      obtain ⟨⟨header, payload⟩, hl, rfl⟩ := Option.map_eq_some_iff.1 h
      obtain ⟨rfl, hpay⟩ := (Bytes.splitLast?_eq_some_iff _ _ _ _).1 hl
      exact ⟨rfl, hpay, hsig⟩
  · intro h
    rcases h with ⟨rfl, hpay, hsig⟩
    rw [Bytes.splitLast?_append _ _ _ hsig]
    simp only [Bytes.splitLast?_append _ _ _ hpay, Option.map_some]

end Token

namespace Header

/-- The header asks for RS256 and names the key. -/
structure Names (ms : List (String × Node)) (kid : String) : Prop where
  algorithm : ∃ v, Sole ms "alg" v ∧ tag? v = some Algorithm.rs256.name
  kid : ∃ v, Sole ms "kid" v ∧ v.text? = some kid

/-- A type, if any, is a string or null. -/
def IsTyped (ms : List (String × Node)) : Prop :=
  Absent ms "typ" ∨ ∃ v, Sole ms "typ" v ∧ (v.isNull = true ∨ v.text?.isSome = true)

/-- Nothing but a type, an algorithm and a key's name. -/
def IsPlain (ms : List (String × Node)) : Prop := ∀ m ∈ ms, m.1 ∈ ["typ", "alg", "kid"]

theorem ofNode?_eq_rs256_iff (v : Node) :
    Algorithm.ofNode? v = some .rs256 ↔ tag? v = some Algorithm.rs256.name := by
  have hname : ∀ s, Algorithm.ofName? s = some .rs256 → s = Algorithm.rs256.name := by
    intro s h
    have := List.find?_some h
    exact (beq_iff_eq.1 this).symm
  unfold Algorithm.ofNode? name?
  refine ⟨?_, ?_⟩
  · intro h
    obtain ⟨s, hs, ha⟩ := Option.bind_eq_some_iff.1 h
    rw [← hname s ha]
    exact (Option.filter_eq_some_iff.1 hs).1
  · intro h
    rw [h]
    rfl

theorem isNull_of_text? {v : Node} {s : String} (h : v.text? = some s) : v.isNull = false := by
  cases v <;> simp_all [Node.text?, Node.isNull]

theorem optionalText?_eq_some_some_iff (ms : List (String × Node)) (name s : String) :
    optionalText? ms name = some (some s) ↔ ∃ v, Sole ms name v ∧ v.text? = some s := by
  unfold optionalText?
  rw [field?_eq_some_iff]
  refine ⟨?_, ?_⟩
  · intro h
    rcases h with ⟨v, hv, h⟩ | ⟨-, h⟩
    · split_ifs at h
      · simp at h
      · exact ⟨v, hv, by simpa using h⟩
    · simp at h
  · intro h
    rcases h with ⟨v, hv, h⟩
    exact Or.inl ⟨v, hv, by simp [isNull_of_text? h, h]⟩

theorem isTyped_iff (ms : List (String × Node)) :
    IsTyped ms ↔ (optionalText? ms "typ").isSome = true := by
  unfold optionalText? IsTyped
  rw [Option.isSome_iff_exists]
  simp only [field?_eq_some_iff]
  refine ⟨?_, ?_⟩
  · intro h
    rcases h with ha | ⟨v, hv, hn | ht⟩
    · exact ⟨none, Or.inr ⟨ha, rfl⟩⟩
    · exact ⟨none, Or.inl ⟨v, hv, by simp [hn]⟩⟩
    · obtain ⟨s, hs⟩ := Option.isSome_iff_exists.1 ht
      exact ⟨some s, Or.inl ⟨v, hv, by simp [isNull_of_text? hs, hs]⟩⟩
  · intro h
    rcases h with ⟨o, ⟨v, hv, h⟩ | ⟨ha, -⟩⟩
    · refine Or.inr ⟨v, hv, ?_⟩
      split_ifs at h with hn
      · exact Or.inl hn
      · obtain ⟨s, hs, -⟩ := Option.map_eq_some_iff.1 h
        exact Or.inr (by simp [hs])
    · exact Or.inl ha

theorem names_of_ofMembers? {ms : List (String × Node)} {kid : String}
    (h : ofMembers? ms = some ⟨.rs256, some kid⟩) : Names ms kid ∧ IsTyped ms := by
  simp only [ofMembers?, Option.bind_eq_bind, Option.bind_eq_some_iff] at h
  obtain ⟨algorithm, ha, kid', hk, -, -, -, -, -, -, h⟩ := h
  split_ifs at h with hall
  obtain ⟨rfl, rfl⟩ := Header.mk.inj (Option.some.inj h)
  obtain ⟨v, hv, hr⟩ := field?_none_eq_some_iff.1 ha
  rw [Bool.and_eq_true, List.all_eq_true] at hall
  refine ⟨⟨⟨v, hv, (ofNode?_eq_rs256_iff v).1 hr⟩, ?_⟩, ?_⟩
  · exact (optionalText?_eq_some_some_iff ms "kid" kid).1 hk
  · exact (isTyped_iff ms).2 (hall.1 "typ" (by decide))

theorem absent_of_isPlain {ms : List (String × Node)} (h : IsPlain ms) {name : String}
    (hn : name ∉ ["typ", "alg", "kid"]) : Absent ms name := by
  rintro m hm rfl
  exact hn (h m hm)

/-- With no other member, the header is read once its type is in order. -/
theorem ofMembers?_eq_some_of_plain {ms : List (String × Node)} {kid : String} (h : Names ms kid)
    (hp : IsPlain ms) (ht : IsTyped ms) : ofMembers? ms = some ⟨.rs256, some kid⟩ := by
  obtain ⟨v, hv, hr⟩ := h.algorithm
  have halg : field? ms "alg" none Algorithm.ofNode? = some .rs256 :=
    field?_none_eq_some_iff.2 ⟨v, hv, (ofNode?_eq_rs256_iff v).2 hr⟩
  have hkid := (optionalText?_eq_some_some_iff ms "kid" kid).2 h.kid
  have hother : ∀ {α : Type} (name : String) (absent : Option α) (read : Node → Option α),
      name ∉ ["typ", "alg", "kid"] → field? ms name absent read = absent :=
    fun name _ _ hn => field?_of_absent (absent_of_isPlain hp hn)
  have htexts : textNames.all (fun s => (optionalText? ms s).isSome) = true := by
    rw [List.all_eq_true]
    intro s hs
    by_cases hs' : s ∈ ["typ", "alg", "kid"]
    · have : s = "typ" ∨ s = "kid" := by
        have hna : s ≠ "alg" := by rintro rfl; exact absurd hs (by decide)
        simpa [hna] using hs'
      rcases this with rfl | rfl
      · exact (isTyped_iff ms).1 ht
      · rw [hkid]; rfl
    · rw [optionalText?, hother s _ _ hs']; rfl
  have hknown : ms.all (fun m => knownNames.contains m.1 || m.2.text?.isSome) = true := by
    rw [List.all_eq_true]
    intro m hm
    have hsub : ∀ s ∈ ["typ", "alg", "kid"], knownNames.contains s = true := by decide
    rw [hsub m.1 (hp m hm), Bool.true_or]
  simp only [ofMembers?, Option.bind_eq_bind, halg, hkid, optionalTexts?, Option.bind_some,
    hother "x5c" _ _ (by decide), hother "crit" _ _ (by decide), hother "jwk" _ _ (by decide),
    htexts, hknown, Bool.and_self, if_true]

end Header

namespace Claims

/-- The members hold the claims; the roles may be left out. -/
structure In (c : Claims) (ms : List (String × Node)) : Prop where
  issuer : ∃ v, Sole ms "iss" v ∧ v.text? = some c.issuer
  subject : ∃ v, Sole ms "sub" v ∧ v.text? = some c.subject
  issuedAt : ∃ v, Sole ms "iat" v ∧ v.int64? = some c.issuedAt
  expires : ∃ v, Sole ms "exp" v ∧ v.int64? = some c.expires
  roles : (∃ v, Sole ms "roles" v ∧ v.texts? = some c.roles) ∨ (Absent ms "roles" ∧ c.roles = [])

/-- Nothing but the five claims. -/
def IsPlain (ms : List (String × Node)) : Prop :=
  ∀ m ∈ ms, m.1 ∈ ["iss", "sub", "iat", "exp", "roles"]

theorem ofMembers?_eq_some_iff (ms : List (String × Node)) (c : Claims) :
    ofMembers? ms = some c ↔ c.In ms := by
  simp only [ofMembers?, Option.bind_eq_bind, Option.bind_eq_some_iff, field?_none_eq_some_iff]
  refine ⟨?_, ?_⟩
  · intro h
    rcases h with ⟨iss, hiss, sub, hsub, iat, hiat, exp, hexp, roles, hroles, h⟩
    obtain rfl := Option.some.inj h
    rw [field?_eq_some_iff] at hroles
    exact ⟨hiss, hsub, hiat, hexp, hroles.imp_right fun h => ⟨h.1, (Option.some.inj h.2).symm⟩⟩
  · intro h
    rcases h with ⟨hiss, hsub, hiat, hexp, hroles⟩
    refine ⟨_, hiss, _, hsub, _, hiat, _, hexp, c.roles, ?_, rfl⟩
    rw [field?_eq_some_iff]
    exact hroles.imp_right fun h => ⟨h.1, congrArg some h.2.symm⟩

end Claims

namespace Token

theorem accepts_of_absent {ms : List (String × Node)} {name : String} (h : Absent ms name)
    (ok : Node → Bool) : accepts ms name ok = true := by
  rw [accepts, field?_of_absent h]
  rfl

theorem claimsOf?_eq_some_iff (payload : Bytes) (c : Claims) : claimsOf? payload = some c ↔
    ∃ ms, ObjectText payload ms ∧ c.In ms ∧ 0 ≤ c.expires ∧
      accepts ms "nbf" isNotBefore = true ∧ accepts ms "aud" isAudience = true := by
  simp only [claimsOf?, Option.bind_eq_bind, Option.bind_eq_some_iff, Claims.ofMembers?_eq_some_iff,
    objectText_iff]
  refine ⟨?_, ?_⟩
  · intro h
    rcases h with ⟨n, hn, ms, hms, c', hc, h⟩
    split_ifs at h with hok
    obtain rfl := Option.some.inj h
    simp only [Bool.and_eq_true, decide_eq_true_eq] at hok
    exact ⟨ms, ⟨n, hn, hms⟩, hc, hok.1.1, hok.1.2, hok.2⟩
  · intro h
    rcases h with ⟨ms, ⟨n, hn, hms⟩, hc, h0, hnbf, haud⟩
    refine ⟨n, hn, ms, hms, c, hc, ?_⟩
    simp [h0, hnbf, haud]

/-- With no other member, the claims are read once they do not end before 1970. -/
theorem claimsOf?_of_isPlain {payload : Bytes} {ms : List (String × Node)} {c : Claims}
    (ho : ObjectText payload ms) (hp : Claims.IsPlain ms) (hc : c.In ms) (h0 : 0 ≤ c.expires) :
    claimsOf? payload = some c := by
  have habsent : ∀ name, name ∉ ["iss", "sub", "iat", "exp", "roles"] → Absent ms name := by
    rintro name hn m hm rfl
    exact hn (hp m hm)
  have hnbf := accepts_of_absent (habsent "nbf" (by decide)) isNotBefore
  have haud := accepts_of_absent (habsent "aud" (by decide)) isAudience
  exact (claimsOf?_eq_some_iff payload c).2 ⟨ms, ho, hc, h0, hnbf, haud⟩

theorem headerOf?_eq_some_iff (p : Parts) (h : Header) : headerOf? p = some h ↔
    ∃ text ms, p.header = encodePart text ∧ ObjectText text ms ∧ Header.ofMembers? ms = some h := by
  simp only [headerOf?, Header.ofJson?, Option.bind_eq_some_iff, decodePart?_eq_some_iff,
    objectText_iff]
  refine ⟨?_, ?_⟩
  · intro h
    rcases h with ⟨text, ht, n, hn, ms, hms, hh⟩
    exact ⟨text, ms, ht, ⟨n, hn, hms⟩, hh⟩
  · intro h
    rcases h with ⟨text, ms, ht, ⟨n, hn, hms⟩, hh⟩
    exact ⟨text, ht, n, hn, ms, hms, hh⟩

end Token

end Turnstile
