import Turnstile.Program.KeyGenerator
import Turnstile.Proofs.Program.Primes
import Turnstile.Proofs.Rsa.Generate

/-! The keys of the command line are what is asked of generated keys. -/

namespace Turnstile.KeyGenerator

open Rsa Primes

theorem privateExponent_le {phi : ℕ} (h : 0 < phi) : privateExponent phi ≤ phi := by
  simp only [privateExponent, exponent]
  set k := (65537 - powMod (phi % 65537) (65537 - 2) 65537) % 65537 with hk
  have hlt : k < 65537 := Nat.mod_lt _ (by norm_num)
  have hmul : k * phi ≤ 65536 * phi := Nat.mul_le_mul_right _ (by omega)
  omega

theorem hasBits_mul {a b p q : ℕ} (ha : 2 ≤ a) (hb : 2 ≤ b) (hp : HasBits a p) (hq : HasBits b q) :
    2 ^ (a + b - 1) ≤ p * q ∧ p * q < 2 ^ (a + b) := by
  refine ⟨?_, ?_⟩
  · calc 2 ^ (a + b - 1) = 8 * 2 ^ (a - 2 + (b - 2)) := by
          rw [show a + b - 1 = 3 + (a - 2 + (b - 2)) by omega, pow_add]
          norm_num
      _ ≤ 9 * 2 ^ (a - 2 + (b - 2)) := Nat.mul_le_mul_right _ (by norm_num)
      _ = lowest a * lowest b := by
          simp only [lowest, Nat.pow_eq, pow_add]
          ring
      _ ≤ p * q := Nat.mul_le_mul hp.low hq.low
  · rw [pow_add]
    exact Nat.mul_lt_mul'' hp.high hq.high

theorem generated_ofPrimes {bits p q : ℕ} (hbits : minBits ≤ bits) (hp : p.Prime) (hq : q.Prime)
    (hpbits : HasBits (bits / 2) p) (hqbits : HasBits (bits - bits / 2) q) (hne : p ≠ q)
    (hc : (ofPrimes p q).IsConsistent) : Generated bits (ofPrimes p q) := by
  unfold minBits at hbits
  have hprod := hasBits_mul (by omega) (by omega) hpbits hqbits
  rw [show bits / 2 + (bits - bits / 2) = bits by omega] at hprod
  have hp1 := hp.two_le
  have hq1 := hq.two_le
  have hphi : 0 < (p - 1) * (q - 1) := Nat.mul_pos (by omega) (by omega)
  have hlt : (p - 1) * (q - 1) < p * q := Nat.mul_lt_mul'' (by omega) (by omega)
  exact ⟨hc, hp, hq, hne, hprod.1, hprod.2, (privateExponent_le hphi).trans_lt hlt⟩

theorem generated_of_tryKey? {fuel bits : ℕ} {e e' : Entropy} {k : PrivateKey}
    (hbits : minBits ≤ bits) (h : tryKey? fuel bits e = some (k, e')) : Generated bits k := by
  induction fuel generalizing e with
  | zero => simp [tryKey?] at h
  | succ fuel ih =>
    have hlarge : 17 ≤ bits := hbits
    rw [tryKey?] at h
    split at h
    · simp at h
    rename_i p e₁ hp
    split at h
    · simp at h
    rename_i q e₂ hq
    dsimp only at h
    split_ifs at h with hok
    · obtain ⟨rfl, -⟩ := Prod.mk.inj (Option.some.inj h)
      obtain ⟨hpprime, hpbits⟩ := random?_spec (by omega) hp
      obtain ⟨hqprime, hqbits⟩ := random?_spec (by omega) hq
      exact generated_ofPrimes hbits hpprime hqprime hpbits hqbits hok.1 hok.2
    · exact ih h

theorem isExact_key? : Generator.IsExact key? := by
  intro bits e e' k h
  unfold key? at h
  split_ifs at h with hbits
  exact generated_of_tryKey? (not_lt.1 hbits) h

end Turnstile.KeyGenerator
