import Turnstile.Entropy
import Turnstile.Hash.Sha256

/-! The random bytes of the command line, stretched from a seed: each block is the digest of the seed
and a counter. -/

namespace Turnstile.Entropy

def block (seed : Bytes) (counter : Nat) : Bytes := Sha256.digest (seed ++ Bytes.ofNat 8 counter)

def ofSeed (seed : Bytes) : Entropy := fun i => (block seed (i / 32)).getD (i % 32) 0

end Turnstile.Entropy
