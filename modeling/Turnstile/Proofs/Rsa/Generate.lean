import Turnstile.Proofs.Rsa.Container
import Turnstile.Proofs.Rsa.Signature
import Turnstile.Proofs.Rsa.Written
import Turnstile.Rsa.Generate

/-! Generated keys: two primes, a modulus of exactly the length that was asked for, and a file that
holds the key. This is all that is asked of a generator. -/

namespace Turnstile.Rsa

/-- What every key generated for so many bits has: two distinct primes, a modulus of that length,
exponents that undo each other, and the private one reduced. -/
structure Generated (bits : ℕ) (k : PrivateKey) : Prop where
  consistent : k.IsConsistent
  prime1 : k.prime1.Prime
  prime2 : k.prime2.Prime
  distinct : k.prime1 ≠ k.prime2
  low : 2 ^ (bits - 1) ≤ k.modulus
  high : k.modulus < 2 ^ bits
  exponent : k.privateExponent < k.modulus

/-- Every key that is drawn is one of those. That there is always one is not asked. -/
def Generator.IsExact (g : Generator) : Prop :=
  ∀ (bits : ℕ) (e e' : Entropy) (k : PrivateKey), g bits e = some (k, e') → Generated bits k

namespace Generated

variable {bits : ℕ} {k : PrivateKey}

theorem modulus_eq (h : Generated bits k) : k.modulus = k.prime1 * k.prime2 := h.consistent.2.1

theorem publicExponent_lt (h : Generated bits k) : k.publicExponent < k.modulus :=
  h.consistent.2.2.2.2.2.2.2.1

theorem numbers_lt (h : Generated bits k) :
    ∀ n ∈ Container.numbers k (Generate.coefficient k), n < 2 ^ bits := by
  have hprime1 : k.prime1 < 2 ^ bits := by
    refine (Nat.le_mul_of_pos_right _ h.prime2.pos).trans_lt ?_
    rw [← h.modulus_eq]
    exact h.high
  have hprime2 : k.prime2 < 2 ^ bits := by
    refine (Nat.le_mul_of_pos_left _ h.prime1.pos).trans_lt ?_
    rw [← h.modulus_eq]
    exact h.high
  have hcoefficient : Generate.coefficient k < 2 ^ bits := by
    rw [Generate.coefficient, powMod_eq]
    exact (Nat.mod_lt _ h.prime1.pos).trans hprime1
  have hprivate := h.exponent.trans h.high
  have hdp := (Nat.mod_le k.privateExponent (k.prime1 - 1)).trans_lt hprivate
  have hdq := (Nat.mod_le k.privateExponent (k.prime2 - 1)).trans_lt hprivate
  simp only [Container.numbers, List.forall_mem_cons]
  exact ⟨by positivity, h.high, h.publicExponent_lt.trans h.high, hprivate, hprime1, hprime2, hdp,
    hdq, hcoefficient, by simp⟩

theorem length_pem_le (h : Generated bits k) (hbits : bits ≤ maxBits) :
    (Generate.pem k).length ≤ 1048576 := Rsa.length_pem_le h.numbers_lt hbits

/-- The file that is written holds the key, if it is one that a loader takes. -/
theorem ofPem_pem (h : Generated bits k) (hlength : (Generate.pem k).length ≤ 1048576) :
    PrivateKey.ofPem (Generate.pem k) = .ok k := by
  refine PrivateKey.ofPem_pkcs1 h.consistent ?_
  refine (Pem.length_content_le _).trans_lt (hlength.trans_lt ?_)
  norm_num [Der.lengthBound, Der.maxLength]

theorem size_le_iff (h : Generated bits k) (w : ℕ) : k.public.size ≤ w ↔ bits ≤ 8 * w := by
  rw [PublicKey.size, Bytes.widthOf_le_iff, Der.pow_256]
  refine ⟨?_, ?_⟩
  · intro hlt
    by_contra hgt
    have : 2 ^ (8 * w) ≤ 2 ^ (bits - 1) := Nat.pow_le_pow_right (by norm_num) (by omega)
    exact absurd (this.trans h.low) (not_le.2 hlt)
  · intro hle
    exact h.high.trans_le (Nat.pow_le_pow_right (by norm_num) hle)

end Generated

end Turnstile.Rsa
