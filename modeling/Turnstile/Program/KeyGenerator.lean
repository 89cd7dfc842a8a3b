import Turnstile.Program.Primes
import Turnstile.Rsa.Generate

/-! The generator of keys that the command line has. What is proved about generated keys does not
depend on it. -/

namespace Turnstile.KeyGenerator

open Rsa

/-- Smaller moduli do not exceed the public exponent. -/
def minBits : Nat := 17

/-- Halvings that lead from any modulus size to a small prime. -/
def depth : Nat := 64

/-- The inverse of the public exponent modulo `phi`; the exponent is prime, so a power inverts
modulo it. -/
def privateExponent (phi : Nat) : Nat :=
  let e := Primes.exponent
  let k := (e - powMod (phi % e) (e - 2) e) % e
  (k * phi + 1) / e

def ofPrimes (p q : Nat) : PrivateKey :=
  ⟨p * q, Primes.exponent, privateExponent ((p - 1) * (q - 1)), p, q⟩

def attempts : Nat := 16

/-- A key whose modulus has exactly so many bits. -/
def tryKey? : (fuel bits : Nat) → Entropy → Option (PrivateKey × Entropy)
  | 0, _, _ => none
  | fuel + 1, bits, e =>
    match Primes.random? depth (bits / 2) e with
    | none => none
    | some (p, e) =>
      match Primes.random? depth (bits - bits / 2) e with
      | none => none
      | some (q, e) =>
        let k := ofPrimes p q
        if p ≠ q ∧ k.IsConsistent then some (k, e) else tryKey? fuel bits e

def key? : Generator := fun bits e =>
  if bits < minBits then none else tryKey? attempts bits e

end Turnstile.KeyGenerator
