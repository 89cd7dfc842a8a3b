import Turnstile.Entropy
import Turnstile.Rsa.Container

/-! Fresh keys, by whatever generator there is, and the text that they are written as. -/

namespace Turnstile.Rsa

/-- Draws a key for so many bits from random bytes, or fails. -/
abbrev Generator := (bits : Nat) → Entropy → Option (PrivateKey × Entropy)

namespace Generate

/-- The inverse of the second prime modulo the first. -/
def coefficient (k : PrivateKey) : Nat :=
  powMod (k.prime2 % k.prime1) (k.prime1 - 2) k.prime1

/-- The bare container of a key in text armour. -/
def pem (k : PrivateKey) : Bytes :=
  Pem.bytes ⟨Container.pkcs1Label, Container.pkcs1 k (coefficient k)⟩

/-- That text, unless the key is too long to be encoded. -/
def pem? (k : PrivateKey) : Option Bytes := Container.pkcs1Text? k (coefficient k)

end Generate

end Turnstile.Rsa
