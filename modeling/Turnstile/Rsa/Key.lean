import Turnstile.Bytes

/-! RSA keys over the natural numbers, and exponentiation modulo the modulus. -/

namespace Turnstile.Rsa

structure PublicKey where
  modulus : Nat
  exponent : Nat
  deriving DecidableEq, Repr

structure PrivateKey where
  modulus : Nat
  publicExponent : Nat
  privateExponent : Nat
  prime1 : Nat
  prime2 : Nat
  deriving DecidableEq, Repr

def PrivateKey.public (k : PrivateKey) : PublicKey := ⟨k.modulus, k.publicExponent⟩

def maxPublicExponent : Nat := 0x1ffffffff

/-- The factors multiply to the modulus and both exponents undo each other modulo each factor
less one. That the factors are prime is not asked. -/
def PrivateKey.IsConsistent (k : PrivateKey) : Prop :=
  k.modulus % 2 = 1 ∧ k.modulus = k.prime1 * k.prime2 ∧ 1 < k.prime1 ∧ 1 < k.prime2 ∧
    k.publicExponent % 2 = 1 ∧ 2 ≤ k.publicExponent ∧ k.publicExponent ≤ maxPublicExponent ∧
    k.publicExponent < k.modulus ∧
    k.privateExponent * k.publicExponent % (k.prime1 - 1) = 1 % (k.prime1 - 1) ∧
    k.privateExponent * k.publicExponent % (k.prime2 - 1) = 1 % (k.prime2 - 1)

instance (k : PrivateKey) : Decidable k.IsConsistent := by
  unfold PrivateKey.IsConsistent; infer_instance

/-- Bytes of the modulus, and of each signature. -/
def PublicKey.size (k : PublicKey) : Nat := Bytes.widthOf k.modulus

/-- Squares and multiplies along the low `bits` bits of the exponent. -/
def powModBits (base modulus exponent : Nat) : (bits : Nat) → Nat
  | 0 => 1 % modulus
  | bits + 1 =>
    let half := powModBits base modulus (exponent / 2) bits
    let square := half * half % modulus
    if exponent % 2 = 1 then square * base % modulus else square

/-- `base ^ exponent % modulus`. -/
def powMod (base exponent modulus : Nat) : Nat :=
  powModBits base modulus exponent (exponent.log2 + 1)

end Turnstile.Rsa
