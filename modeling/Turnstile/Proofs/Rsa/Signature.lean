import Turnstile.Proofs.Bytes
import Turnstile.Proofs.Rsa.Power
import Turnstile.Rsa.Signature

/-! Signatures of the PKCS #1 v1.5 scheme: the verifier accepts exactly the solutions of its
equation over the natural numbers, and what a key signs, its public part verifies. -/

namespace Turnstile.Rsa

theorem length_digest (message : Bytes) : (Sha256.digest message).length = 32 := by
  simp [Sha256.digest, Sha256.State.bytes, Bytes.ofWord]

/-- The padded digest: two lead bytes, ones, a zero, and the named digest. -/
def paddedDigest (ones : ℕ) (message : Bytes) : Bytes :=
  [0x00, 0x01] ++ List.replicate ones 0xff ++ [0x00] ++ digestInfo ++ Sha256.digest message

theorem length_paddedDigest (ones : ℕ) (message : Bytes) :
    (paddedDigest ones message).length = ones + 54 := by
  simp only [paddedDigest, digestInfo, List.length_append, List.length_cons, List.length_nil,
    List.length_replicate, length_digest]
  omega

theorem encodeDigest?_eq_some_iff (size : ℕ) (message padded : Bytes) :
    encodeDigest? size message = some padded ↔
      ∃ ones, 8 ≤ ones ∧ ones + 54 = size ∧ padded = paddedDigest ones message := by
  unfold encodeDigest? minSize
  refine ⟨?_, ?_⟩
  · intro h
    split_ifs at h with hs
    exact ⟨size - 54, by omega, by omega, (Option.some.inj h).symm⟩
  · intro h
    rcases h with ⟨ones, h8, rfl, rfl⟩
    rw [if_neg (by omega), Nat.add_sub_cancel]
    rfl

/-- The first byte is zero, so the value stays below any modulus of that many bytes. -/
theorem paddedDigest_lt {n ones : ℕ} (h : Bytes.widthOf n = ones + 54) (message : Bytes) :
    Bytes.toNat (paddedDigest ones message) < n := by
  have hn : n ≠ 0 := by
    rintro rfl
    simp [Bytes.widthOf] at h
  have hcons : paddedDigest ones message = 0 :: (paddedDigest ones message).tail := rfl
  have hlen : (paddedDigest ones message).tail.length = Bytes.widthOf n - 1 := by
    rw [List.length_tail, length_paddedDigest, h]
  have hlt := Bytes.toNat_lt (paddedDigest ones message).tail
  rw [hlen] at hlt
  rw [hcons, Bytes.toNat_cons]
  simpa using hlt.trans_le (Bytes.pow_pred_widthOf_le hn)

/-- The equation that makes a signature: as long as the modulus, smaller than it, and its power is
the padded digest of the message. -/
structure PublicKey.Signs (k : PublicKey) (message signature : Bytes) : Prop where
  length : signature.length = k.size
  range : Bytes.toNat signature < k.modulus
  power : ∃ ones, 8 ≤ ones ∧ ones + 54 = k.size ∧
    Bytes.toNat signature ^ k.exponent % k.modulus = Bytes.toNat (paddedDigest ones message)

theorem PublicKey.size_le_maxVerifySize_iff (k : PublicKey) :
    k.size ≤ maxVerifySize ↔ k.modulus < 2 ^ 4096 := by
  have hpow : (256 : ℕ) ^ 512 = 2 ^ 4096 := by
    rw [show (256 : ℕ) = 2 ^ 8 from rfl, ← pow_mul]
  rw [size, Bytes.widthOf_le_iff, maxVerifySize, hpow]

/-- Comparing the bytes of the power is comparing the power. -/
theorem ofNat_powMod_eq_iff {k : PublicKey} {message signature : Bytes} {ones : ℕ}
    (hs : ones + 54 = k.size) (hr : Bytes.toNat signature < k.modulus) :
    Bytes.ofNat k.size (powMod (Bytes.toNat signature) k.exponent k.modulus) =
        paddedDigest ones message ↔
      Bytes.toNat signature ^ k.exponent % k.modulus = Bytes.toNat (paddedDigest ones message) := by
  have hv : powMod (Bytes.toNat signature) k.exponent k.modulus < 256 ^ k.size := by
    rw [powMod_eq]
    exact (Nat.mod_lt _ (Nat.zero_lt_of_lt hr)).trans (Bytes.lt_pow_widthOf _)
  rw [← powMod_eq]
  refine ⟨?_, ?_⟩
  · intro h
    rw [← h, Bytes.toNat_ofNat_of_lt hv]
  · intro h
    apply Bytes.toNat_inj (by rw [Bytes.length_ofNat, length_paddedDigest, hs])
    rw [Bytes.toNat_ofNat_of_lt hv, h]

theorem verify_eq_true_iff (k : PublicKey) (message signature : Bytes) :
    verify k message signature = true ↔ k.size ≤ maxVerifySize ∧ k.Signs message signature := by
  unfold verify
  simp only [Bool.and_eq_true, decide_eq_true_eq]
  refine ⟨?_, ?_⟩
  · intro h
    rcases h with ⟨⟨hmax, hlen⟩, h⟩
    cases hd : encodeDigest? k.size message with
    | none => simp [hd] at h
    | some padded =>
      obtain ⟨ones, h8, hs, rfl⟩ := (encodeDigest?_eq_some_iff _ _ _).1 hd
      simp only [hd, Bool.and_eq_true, decide_eq_true_eq, beq_iff_eq] at h
      exact ⟨hmax, hlen, h.1, ones, h8, hs, (ofNat_powMod_eq_iff hs h.1).1 h.2⟩
  · intro h
    rcases h with ⟨hmax, hlen, hr, ones, h8, hs, hp⟩
    refine ⟨⟨hmax, hlen⟩, ?_⟩
    rw [(encodeDigest?_eq_some_iff _ _ _).2 ⟨ones, h8, hs, rfl⟩]
    simp only [Bool.and_eq_true, decide_eq_true_eq, beq_iff_eq]
    exact ⟨hr, (ofNat_powMod_eq_iff hs hr).2 hp⟩

/-- The self-check of the signer is the equation of the verifier. -/
theorem signs_of_sign {k : PrivateKey} {message signature : Bytes}
    (h : sign k message = .ok signature) : k.public.Signs message signature := by
  unfold sign at h
  cases hd : encodeDigest? k.public.size message with
  | none => simp [hd] at h
  | some padded =>
    obtain ⟨ones, h8, hs, rfl⟩ := (encodeDigest?_eq_some_iff _ _ _).1 hd
    simp only [hd] at h
    split_ifs at h with hcheck
    obtain rfl := Except.ok.inj h
    have hpos := Nat.zero_lt_of_lt (paddedDigest_lt hs.symm message)
    have hlt : powMod (Bytes.toNat (paddedDigest ones message)) k.privateExponent k.modulus <
        k.public.modulus := by
      rw [powMod_eq]
      exact Nat.mod_lt _ hpos
    have hval := Bytes.toNat_ofNat_of_lt (hlt.trans (Bytes.lt_pow_widthOf _))
    refine ⟨Bytes.length_ofNat _ _, hval.trans_lt hlt, ones, h8, hs, ?_⟩
    rw [PublicKey.size, hval]
    exact (powMod_eq _ _ _).symm.trans hcheck

/-- The padded digest fits, and comes back when it is raised to one exponent and then the other. -/
def PrivateKey.GivesBack (k : PrivateKey) (message : Bytes) : Prop :=
  ∃ ones, 8 ≤ ones ∧ ones + 54 = k.public.size ∧
    (Bytes.toNat (paddedDigest ones message) ^ k.privateExponent % k.modulus) ^
      k.publicExponent % k.modulus = Bytes.toNat (paddedDigest ones message)

theorem exists_sign_iff (k : PrivateKey) (message : Bytes) :
    (∃ signature, sign k message = .ok signature) ↔ k.GivesBack message := by
  unfold sign
  refine ⟨?_, ?_⟩
  · rintro ⟨signature, h⟩
    cases hd : encodeDigest? k.public.size message with
    | none => simp [hd] at h
    | some padded =>
      obtain ⟨ones, h8, hs, rfl⟩ := (encodeDigest?_eq_some_iff _ _ _).1 hd
      simp only [hd, powMod_eq] at h
      split_ifs at h with hback
      exact ⟨ones, h8, hs, hback⟩
  · rintro ⟨ones, h8, hs, hback⟩
    have hd := (encodeDigest?_eq_some_iff k.public.size message _).2 ⟨ones, h8, hs, rfl⟩
    simp only [hd, powMod_eq, hback, if_true]
    exact ⟨_, rfl⟩

/-- A modulus of two distinct primes that holds a padded digest signs every message. -/
theorem PrivateKey.IsConsistent.exists_sign {k : PrivateKey} (h : k.IsConsistent) {p q : ℕ}
    (hp : p.Prime) (hq : q.Prime) (hne : p ≠ q) (hn : k.modulus = p * q)
    (hsize : minSize ≤ k.public.size) (message : Bytes) :
    ∃ signature, sign k message = .ok signature := by
  have hs : k.public.size - 54 + 54 = k.public.size := by unfold minSize at hsize; omega
  have h8 : 8 ≤ k.public.size - 54 := by unfold minSize at hsize; omega
  have hlt := paddedDigest_lt (n := k.modulus) hs.symm message
  exact (exists_sign_iff k message).2 ⟨_, h8, hs, h.pow_pow hp hq hne hn hlt⟩

end Turnstile.Rsa
