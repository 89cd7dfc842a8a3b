import Mathlib.FieldTheory.Finite.Basic
import Mathlib.Tactic
import Turnstile.Proofs.Rsa.Power
import Turnstile.Program.Primes

/-! What the search for primes comes back with is prime, and as long as was asked. -/

namespace Turnstile.Primes

open Rsa

/-- A number whose least factor is above its root is prime. -/
theorem prime_of_lt_minFac_sq {n : ℕ} (hn : 2 ≤ n) (h : n < n.minFac * n.minFac) : n.Prime := by
  by_contra hnot
  have hsq := Nat.minFac_sq_le_self (by omega) hnot
  rw [pow_two] at hsq
  omega

theorem not_dvd_of_noDivisorFrom {n fuel d : ℕ} (h : noDivisorFrom n fuel d = true) :
    ∀ m, d ≤ m → m * m ≤ n → ¬ m ∣ n := by
  induction fuel generalizing d with
  | zero => simp [noDivisorFrom] at h
  | succ fuel ih =>
    simp only [noDivisorFrom, Bool.or_eq_true, decide_eq_true_eq, Bool.and_eq_true] at h
    intro m hdm hm
    rcases h with hbig | ⟨hd, hrest⟩
    · have : d * d ≤ m * m := Nat.mul_le_mul hdm hdm
      omega
    · rcases Nat.eq_or_lt_of_le hdm with rfl | hlt
      · exact fun hdvd => hd (Nat.mod_eq_zero_of_dvd hdvd)
      · exact ih hrest m hlt hm

theorem prime_of_isSmallPrime {n : ℕ} (h : isSmallPrime n = true) : n.Prime := by
  simp only [isSmallPrime, Bool.and_eq_true, decide_eq_true_eq] at h
  obtain ⟨hn, h⟩ := h
  have hfac := (Nat.minFac_prime (n := n) (by omega)).two_le
  refine prime_of_lt_minFac_sq hn (not_le.1 fun hle => ?_)
  exact not_dvd_of_noDivisorFrom h _ hfac hle (Nat.minFac_dvd n)

/-- A power that is lost with the factor `q` of the exponent puts `q` into the order. -/
theorem dvd_orderOf {M : Type*} [Monoid M] {a : M} {q m : ℕ} (hq : q.Prime) (hqm : q ∣ m)
    (hone : a ^ m = 1) (hne : a ^ (m / q) ≠ 1) : q ∣ orderOf a := by
  have horder : orderOf a ∣ m := orderOf_dvd_of_pow_eq_one hone
  by_contra hnot
  have hcop := ((Nat.Prime.coprime_iff_not_dvd hq).2 hnot).symm
  rw [← Nat.mul_div_cancel' hqm] at horder
  exact hne (orderOf_dvd_iff_pow_eq_one.1 (hcop.dvd_of_dvd_mul_left horder))

theorem cast_two_pow_mod {p r : ℕ} (h : r ∣ p) (m : ℕ) :
    ((2 ^ m % p : ℕ) : ZMod r) = (2 : ZMod r) ^ m := by
  have hmod : ((2 ^ m % p % r : ℕ) : ZMod r) = ((2 ^ m % r : ℕ) : ZMod r) := by
    rw [Nat.mod_mod_of_dvd _ h]
  rw [ZMod.natCast_mod, ZMod.natCast_mod] at hmod
  rw [hmod]
  push_cast
  rfl

/-- Every prime factor of `p` is one more than a multiple of `q`: the order of two modulo the factor
divides `p - 1` and not `(p - 1) / q`. -/
theorem lt_of_prime_dvd {p q r : ℕ} (hq : q.Prime) (hqp : q ∣ p - 1) (hr : r.Prime) (hrp : r ∣ p)
    (hone : 2 ^ (p - 1) % p = 1) (hgcd : Nat.gcd (2 ^ ((p - 1) / q) % p - 1) p = 1)
    (hpos : 2 ^ ((p - 1) / q) % p ≠ 0) : q < r := by
  have := Fact.mk hr
  have hpow : (2 : ZMod r) ^ (p - 1) = 1 := by
    rw [← cast_two_pow_mod hrp, hone]
    exact Nat.cast_one
  have hne : (2 : ZMod r) ^ ((p - 1) / q) ≠ 1 := by
    intro heq
    rw [← cast_two_pow_mod hrp] at heq
    have hsub : ((2 ^ ((p - 1) / q) % p - 1 : ℕ) : ZMod r) = 0 := by
      rw [Nat.cast_sub (Nat.one_le_iff_ne_zero.2 hpos), heq]
      simp
    have hdvd := Nat.dvd_gcd ((ZMod.natCast_eq_zero_iff _ _).1 hsub) hrp
    rw [hgcd] at hdvd
    exact hr.one_lt.ne' (Nat.dvd_one.1 hdvd)
  have htwo : (2 : ZMod r) ≠ 0 := by
    intro h0
    rw [h0] at hpow hne
    rcases Nat.eq_zero_or_pos (p - 1) with hz | hp1
    · rw [hz, Nat.zero_div, pow_zero] at hne
      exact hne rfl
    · rw [zero_pow hp1.ne'] at hpow
      exact zero_ne_one hpow
  have hfermat : orderOf (2 : ZMod r) ∣ r - 1 :=
    orderOf_dvd_of_pow_eq_one (ZMod.pow_card_sub_one_eq_one htwo)
  have hr2 := hr.two_le
  have hle := Nat.le_of_dvd (by omega) ((dvd_orderOf hq hqp hpow hne).trans hfermat)
  omega

theorem prime_of_certifies {p q : ℕ} (hq : q.Prime) (h : certifies q p = true) : p.Prime := by
  simp only [certifies, Bool.and_eq_true, decide_eq_true_eq, powMod_eq] at h
  obtain ⟨⟨⟨⟨hlt, hmod⟩, hone⟩, hgcd⟩, hpos⟩ := h
  have hp : 2 ≤ p := by
    by_contra hsmall
    have : p = 0 ∨ p = 1 := by omega
    rcases this with rfl | rfl
    · simp at hgcd
    · simp at hone
  have hfactor := lt_of_prime_dvd hq (Nat.dvd_of_mod_eq_zero hmod)
    (Nat.minFac_prime (n := p) (by omega)) (Nat.minFac_dvd p) hone hgcd hpos
  refine prime_of_lt_minFac_sq hp (hlt.trans ?_)
  exact Nat.mul_lt_mul'' hfactor hfactor

/-! The range of the candidates. -/

theorem find?_spec {c : Candidates} {ok : ℕ → Bool} {fuel start p : ℕ}
    (h : c.find? ok fuel start = some p) : ok p = true ∧ ∃ i, p = c.get i := by
  induction fuel generalizing start with
  | zero => simp [Candidates.find?] at h
  | succ fuel ih =>
    rw [Candidates.find?] at h
    split_ifs at h with hok
    · obtain rfl := Option.some.inj h
      exact ⟨hok, start, rfl⟩
    · exact ih h

/-- A number of so many bits, the two highest of them set. -/
structure HasBits (bits p : ℕ) : Prop where
  low : lowest bits ≤ p
  high : p < 2 ^ bits

theorem lowest_add {b : ℕ} (h : 2 ≤ b) : lowest b + 2 ^ (b - 2) = 2 ^ b := by
  have hpow : 2 ^ b = 4 * 2 ^ (b - 2) := by
    rw [show b = b - 2 + 2 by omega, pow_add]
    simp [mul_comm]
  rw [lowest, hpow, Nat.pow_eq]
  ring

theorem hasBits_oddNumbers {bits : ℕ} (h : 3 ≤ bits) (i : ℕ) :
    HasBits bits ((oddNumbers bits).get i) := by
  have hsum := lowest_add (b := bits) (by omega)
  have hquarter : 2 ^ (bits - 2) = 2 * 2 ^ (bits - 3) := by
    rw [← pow_succ', show bits - 3 + 1 = bits - 2 by omega]
  have hi : i % 2 ^ (bits - 3) < 2 ^ (bits - 3) := Nat.mod_lt _ (by positivity)
  simp only [Candidates.get, oddNumbers, Nat.pow_eq]
  exact ⟨by omega, by omega⟩

theorem hasBits_multiples {bits q : ℕ} (hbits : 2 ≤ bits) (hq : 0 < q)
    (h : 2 * q ≤ 2 ^ (bits - 2)) (i : ℕ) : HasBits bits ((multiples bits q).get i) := by
  have hsum := lowest_add hbits
  simp only [Candidates.get, multiples, Nat.pow_eq]
  set low := (lowest bits + 2 * q - 2) / (2 * q) with hlow
  set high := (2 ^ bits - 2) / (2 * q) with hhigh
  have hstep : 0 < 2 * q := by omega
  have hlow1 : lowest bits + 2 * q - 2 < 2 * q * (low + 1) := Nat.lt_mul_div_succ _ hstep
  have hlow2 : 2 * q * low ≤ lowest bits + 2 * q - 2 := Nat.mul_div_le _ _
  have hhigh2 : 2 * q * high ≤ 2 ^ bits - 2 := Nat.mul_div_le _ _
  have hle : low ≤ high := by
    rw [hhigh, Nat.le_div_iff_mul_le hstep, mul_comm]
    omega
  have hi : i % (high + 1 - low) < high + 1 - low := Nat.mod_lt _ (by omega)
  set j := i % (high + 1 - low)
  have hsplit : 2 * low * q + 1 + j * (2 * q) = 2 * q * (low + j) + 1 := by ring
  have hup : 2 * q * (low + j) ≤ 2 * q * high := Nat.mul_le_mul_left _ (by omega)
  have hdown : 2 * q * low ≤ 2 * q * (low + j) := Nat.mul_le_mul_left _ (by omega)
  rw [hsplit]
  rw [mul_add, mul_one] at hlow1
  exact ⟨by omega, by omega⟩

/-- A prime found for so many bits. -/
theorem random?_spec {fuel bits p : ℕ} {e e' : Entropy} (h3 : 3 ≤ bits)
    (h : random? fuel bits e = some (p, e')) : p.Prime ∧ HasBits bits p := by
  induction fuel generalizing bits p e e' with
  | zero => simp [random?] at h
  | succ fuel ih =>
    rw [random?] at h
    split_ifs at h with hsmall
    · obtain ⟨p', hfind, hp⟩ := Option.map_eq_some_iff.1 h
      obtain ⟨rfl, -⟩ := Prod.mk.inj hp
      obtain ⟨hok, i, rfl⟩ := find?_spec hfind
      rw [Bool.and_eq_true] at hok
      exact ⟨prime_of_isSmallPrime hok.1, hasBits_oddNumbers h3 i⟩
    · split at h
      · simp at h
      · rename_i q e₁ hq
        obtain ⟨hqprime, hqbits⟩ := ih (by omega) hq
        obtain ⟨p', hfind, hp⟩ := Option.map_eq_some_iff.1 h
        obtain ⟨rfl, -⟩ := Prod.mk.inj hp
        obtain ⟨hok, i, rfl⟩ := find?_spec hfind
        simp only [Bool.and_eq_true] at hok
        have hroom : 2 * q ≤ 2 ^ (bits - 2) := by
          unfold smallBits at hsmall
          calc 2 * q ≤ 2 * 2 ^ (bits / 2 + 2) := Nat.mul_le_mul_left _ hqbits.high.le
            _ = 2 ^ (bits / 2 + 3) := by rw [← pow_succ']
            _ ≤ 2 ^ (bits - 2) := Nat.pow_le_pow_right (by norm_num) (by omega)
        exact ⟨prime_of_certifies hqprime hok.2, hasBits_multiples (by omega) hqprime.pos hroom i⟩

end Turnstile.Primes
