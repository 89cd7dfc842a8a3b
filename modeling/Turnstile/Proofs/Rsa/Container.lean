import Mathlib.NumberTheory.LucasLehmer
import Turnstile.Proofs.Der
import Turnstile.Proofs.Pem
import Turnstile.Rsa.Container

/-! A key that reads from its container is consistent, and read again for signing it is the same.
The key of two Mersenne primes is a small one that reads and signs. -/

namespace Turnstile.Rsa

theorem Container.isConsistent_of_read? {p : Pem} {key : PrivateKey}
    (h : Container.read? p = .ok key) : key.IsConsistent := by
  simp only [Container.read?] at h
  split at h
  · simp at h
  · simp at h
  · rename_i k hk
    split_ifs at h with hc
    obtain rfl := Except.ok.inj h
    exact hc

theorem PrivateKey.isConsistent_of_ofPem {pem : Bytes} {key : PrivateKey}
    (h : PrivateKey.ofPem pem = .ok key) : key.IsConsistent := by
  unfold PrivateKey.ofPem at h
  split at h
  · simp at h
  · exact Container.isConsistent_of_read? h

namespace Container

/-! The first string. -/

section FirstString

variable {b content rest : Bytes} {fuel : ℕ}

theorem firstString?_octets (h : Der.read? b = some (⟨Der.octetsTag, content⟩, rest)) :
    firstString? (fuel + 1) b = some content := by
  rw [firstString?, h]
  rfl

theorem firstString?_sequence (h : Der.read? b = some (⟨Der.sequenceTag, content⟩, rest)) :
    firstString? (fuel + 1) b = (firstString? fuel content).or (firstString? fuel rest) := by
  rw [firstString?, h]
  rfl

theorem firstString?_integer (h : Der.read? b = some (⟨Der.integerTag, content⟩, rest)) :
    firstString? (fuel + 1) b = firstString? fuel rest := by
  rw [firstString?, h]
  rfl

theorem firstString?_rsaAlgorithm (fuel : ℕ) : firstString? fuel rsaAlgorithm = none := by
  rcases fuel with _ | _ | _ | fuel <;> rfl

end FirstString

/-- A version, the algorithm and then the key, inside of one sequence. -/
def Wraps (content key : Bytes) : Prop :=
  ∃ inside version algorithm rest rest',
    Der.read? content = some (⟨Der.sequenceTag, inside⟩, []) ∧
    Der.read? inside = some (⟨Der.integerTag, version⟩, algorithm) ∧
    Der.read? algorithm = some (⟨Der.sequenceTag, rsaAlgorithm⟩, rest) ∧
    Der.read? rest = some (⟨Der.octetsTag, key⟩, rest')

theorem wraps_of_pkcs8? {content : Bytes} {k : PrivateKey} (h : pkcs8? content = some k) :
    ∃ key, Wraps content key ∧ pkcs1? key = some k := by
  simp only [pkcs8?, Option.bind_eq_bind, Option.bind_eq_some_iff] at h
  obtain ⟨inside, hinside, ⟨version, b⟩, hversion, ⟨algorithm, b'⟩, halgorithm, ⟨key, b''⟩, hkey,
    attributes, -, ⟨hasPublic, others⟩, -, done, -, h⟩ := h
  obtain ⟨hok, hread⟩ := Option.ite_none_right_eq_some.1 h
  rw [Bool.and_eq_true] at hok
  obtain rfl : algorithm = rsaAlgorithm := of_decide_eq_true hok.1
  obtain ⟨v, hv⟩ := Der.read?_of_readNat? hversion
  have hwraps : Wraps content key := ⟨_, _, _, _, _, Der.whole?_eq_some hinside, hv,
    Der.readTagged?_eq_some_iff.1 halgorithm, Der.readTagged?_eq_some_iff.1 hkey⟩
  exact ⟨key, hwraps, hread⟩

/-- Nothing in front of the wrapped key is a string of bytes. -/
theorem Wraps.firstString? {content key : Bytes} (h : Wraps content key) :
    firstString? content.length content = some key := by
  obtain ⟨inside, version, algorithm, rest, rest', hcontent, hinside, halgorithm, hrest⟩ := h
  have h1 := Der.length_of_read? hcontent
  have h2 := Der.length_of_read? hinside
  have h3 := Der.length_of_read? halgorithm
  have h4 := Der.length_of_read? hrest
  obtain ⟨fuel, hfuel⟩ : ∃ fuel, content.length = fuel + 4 := ⟨content.length - 4, by
    simp only [] at h1 h2 h3 h4
    omega⟩
  rw [hfuel, firstString?_sequence hcontent, firstString?_integer hinside,
    firstString?_sequence halgorithm, firstString?_rsaAlgorithm, Option.none_or,
    firstString?_octets hrest, Option.some_or]

/-- The half that signs is read from the same bytes as the half that checks. -/
theorem signing?_of_read? {p : Pem} {k : PrivateKey} (h : read? p = .ok k) :
    signing? p = some k := by
  simp only [read?] at h
  split at h
  · simp at h
  · simp at h
  · rename_i k' hk
    split_ifs at h
    obtain rfl := Except.ok.inj h
    unfold signing?
    split_ifs at hk ⊢ with h1 h8
    · exact Option.some.inj hk
    · obtain ⟨key, hwraps, hkey⟩ := wraps_of_pkcs8? (Option.some.inj hk)
      rw [hwraps.firstString?, Option.bind_some, hkey]

end Container

theorem PrivateKey.signing?_of_ofPem {pem : Bytes} {key : PrivateKey}
    (h : PrivateKey.ofPem pem = .ok key) : PrivateKey.signing? pem = some key := by
  unfold PrivateKey.ofPem at h
  split at h
  · simp at h
  · rename_i p hp
    rw [PrivateKey.signing?, hp, Option.bind_some, Container.signing?_of_read? h]

/-- What it takes of a key for its tokens to be signed and accepted: it reads from its container, its
modulus is of two primes, and that is neither too short to sign with nor too long to verify with. -/
structure PrivateKey.IsSound (key : PrivateKey) : Prop where
  read : ∃ pem, PrivateKey.ofPem pem = .ok key
  factors : ∃ p q : ℕ, p.Prime ∧ q.Prime ∧ p ≠ q ∧ key.modulus = p * q
  long : 62 ≤ key.public.size
  short : key.public.size ≤ 512

/-- What it takes of a key to sign everything, whether or not that is ever accepted. -/
structure PrivateKey.CanSign (key : PrivateKey) : Prop where
  read : ∃ pem, PrivateKey.ofPem pem = .ok key
  factors : ∃ p q : ℕ, p.Prime ∧ q.Prime ∧ p ≠ q ∧ key.modulus = p * q
  long : 62 ≤ key.public.size

theorem PrivateKey.IsSound.canSign {key : PrivateKey} (h : key.IsSound) : key.CanSign :=
  ⟨h.read, h.factors, h.long⟩

/-- The key of the primes `2 ^ 521 - 1` and `2 ^ 127 - 1`, in 81 bytes. -/
def mersenneKey : PrivateKey where
  modulus := (2 ^ 521 - 1) * (2 ^ 127 - 1)
  publicExponent := 65537
  privateExponent := (1 + 65280 * ((2 ^ 521 - 2) * (2 ^ 127 - 2) / 6)) / 65537
  prime1 := 2 ^ 521 - 1
  prime2 := 2 ^ 127 - 1

def mersennePem : Bytes :=
  Pem.bytes ⟨Container.pkcs1Label, Container.pkcs1 mersenneKey
    ((1 + 24282144239444333035568606768876635282 * (2 ^ 521 - 1)) / (2 ^ 127 - 1))⟩

theorem ofPem_mersennePem : PrivateKey.ofPem mersennePem = .ok mersenneKey := by
  rw [PrivateKey.ofPem, mersennePem, Pem.ofBytes?_bytes (by decide) (by decide +kernel)]
  decide +kernel

theorem prime_mersenne_521 : (2 ^ 521 - 1 : ℕ).Prime :=
  lucas_lehmer_sufficiency 521 (by norm_num) (by norm_num)

theorem prime_mersenne_127 : (2 ^ 127 - 1 : ℕ).Prime :=
  lucas_lehmer_sufficiency 127 (by norm_num) (by norm_num)

theorem isSound_mersenneKey : mersenneKey.IsSound where
  read := ⟨_, ofPem_mersennePem⟩
  factors := ⟨_, _, prime_mersenne_521, prime_mersenne_127, by decide +kernel, rfl⟩
  long := by decide +kernel
  short := by decide +kernel

end Turnstile.Rsa
