import Mathlib.FieldTheory.Finite.Basic
import Mathlib.Tactic
import Turnstile.Rsa.Key

/-! Squaring and multiplying computes the power, and the two exponents of a key undo each other
modulo a product of two distinct primes. -/

namespace Turnstile.Rsa

theorem powModBits_eq (b n e bits : ℕ) : powModBits b n e bits = b ^ (e % 2 ^ bits) % n := by
  induction bits generalizing e with
  | zero => simp [powModBits, Nat.mod_one]
  | succ bits ih =>
    have hsplit : e % 2 ^ (bits + 1) = e % 2 + 2 * (e / 2 % 2 ^ bits) := by
      rw [pow_succ', Nat.mod_mul]
    have hsquare : powModBits b n (e / 2) bits * powModBits b n (e / 2) bits % n =
        b ^ (2 * (e / 2 % 2 ^ bits)) % n := by
      rw [ih, ← Nat.mul_mod, ← pow_add, two_mul]
    simp only [powModBits, hsquare, hsplit]
    rcases Nat.mod_two_eq_zero_or_one e with h | h
    · rw [h, if_neg (by norm_num), zero_add]
    · rw [h, if_pos rfl, Nat.mod_mul_mod, ← pow_succ, add_comm]

theorem powMod_eq (b e n : ℕ) : powMod b e n = b ^ e % n := by
  rw [powMod, powModBits_eq, Nat.mod_eq_of_lt Nat.lt_log2_self]

/-- Fermat: an exponent that is one modulo `p - 1` leaves every residue alone. -/
theorem pow_modEq_self {p e : ℕ} (hp : p.Prime) (h2 : p ≠ 2) (he : e % (p - 1) = 1 % (p - 1))
    (m : ℕ) : m ^ e ≡ m [MOD p] := by
  have hlt : 1 < p - 1 := by have := hp.two_le; omega
  rw [Nat.mod_eq_of_lt hlt] at he
  have hsplit : e = (p - 1) * (e / (p - 1)) + 1 := by
    have := Nat.div_add_mod e (p - 1)
    rw [he] at this
    exact this.symm
  have := Fact.mk hp
  rw [← ZMod.natCast_eq_natCast_iff, hsplit]
  push_cast
  by_cases hm : (m : ZMod p) = 0
  · simp [hm]
  · rw [pow_succ, pow_mul, ZMod.pow_card_sub_one_eq_one hm, one_pow, one_mul]

/-- The factors of a key whose modulus is a product of two primes are these primes. -/
theorem factors_of_mul_eq {a b p q : ℕ} (hp : p.Prime) (hq : q.Prime) (ha : 1 < a) (hb : 1 < b)
    (h : a * b = p * q) : (a = p ∧ b = q) ∨ (a = q ∧ b = p) := by
  have cancel : ∀ {x y : ℕ}, 1 < y → p ∣ x → x * y = p * q → x = p ∧ y = q := by
    rintro _ y hy ⟨c, rfl⟩ hxy
    have hcy : c * y = q := Nat.eq_of_mul_eq_mul_left hp.pos (by rw [← hxy, mul_assoc])
    rcases Nat.dvd_prime hq |>.1 ⟨c, by rw [← hcy, mul_comm]⟩ with h1 | h1
    · omega
    · have hc : c = 1 := Nat.eq_of_mul_eq_mul_right (by omega : 0 < y) (by rw [hcy, h1, one_mul])
      exact ⟨by rw [hc, mul_one], h1⟩
  rcases hp.dvd_mul.1 ⟨q, h⟩ with hd | hd
  · exact Or.inl (cancel hb hd h)
  · obtain ⟨h1, h2⟩ := cancel ha hd (by rw [mul_comm, h])
    exact Or.inr ⟨h2, h1⟩

theorem PrivateKey.IsConsistent.factors_odd {k : PrivateKey} (h : k.IsConsistent) :
    k.prime1 ≠ 2 ∧ k.prime2 ≠ 2 := by
  obtain ⟨hodd, hn, -⟩ := h
  constructor <;> rintro h2 <;> rw [hn, h2] at hodd <;> omega

/-- What is raised to the one exponent and then to the other comes back. -/
theorem PrivateKey.IsConsistent.pow_pow {k : PrivateKey} (h : k.IsConsistent) {p q : ℕ}
    (hp : p.Prime) (hq : q.Prime) (hne : p ≠ q) (hn : k.modulus = p * q) {m : ℕ}
    (hm : m < k.modulus) :
    (m ^ k.privateExponent % k.modulus) ^ k.publicExponent % k.modulus = m := by
  obtain ⟨ho1, ho2⟩ := h.factors_odd
  obtain ⟨-, hmul, h1, h2, -, -, -, -, he1, he2⟩ := h
  have hcop : k.prime1.Prime ∧ k.prime2.Prime ∧ k.prime1.Coprime k.prime2 := by
    rcases factors_of_mul_eq hp hq h1 h2 (hmul ▸ hn) with ⟨ha, hb⟩ | ⟨ha, hb⟩ <;> rw [ha, hb]
    · exact ⟨hp, hq, (Nat.coprime_primes hp hq).2 hne⟩
    · exact ⟨hq, hp, (Nat.coprime_primes hq hp).2 hne.symm⟩
  obtain ⟨hp1, hp2, hc⟩ := hcop
  have hmod : m ^ (k.privateExponent * k.publicExponent) ≡ m [MOD k.modulus] := by
    rw [hmul]
    exact (Nat.modEq_and_modEq_iff_modEq_mul hc).1
      ⟨pow_modEq_self hp1 ho1 he1 m, pow_modEq_self hp2 ho2 he2 m⟩
  rw [← Nat.pow_mod, ← pow_mul]
  exact Eq.trans hmod (Nat.mod_eq_of_lt hm)

end Turnstile.Rsa
