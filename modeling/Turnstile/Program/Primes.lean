import Turnstile.Entropy
import Turnstile.Rsa.Key

/-! The random primes of the command line. They come with a proof: small ones by trial division,
larger ones as `2 * k * q + 1` over a prime `q` above their square root. -/

namespace Turnstile.Primes

open Rsa

/-- No number from `d` up to the root divides; gives up when the fuel runs out. -/
def noDivisorFrom (n : Nat) : (fuel d : Nat) → Bool
  | 0, _ => false
  | fuel + 1, d => n < d * d || (n % d ≠ 0 && noDivisorFrom n fuel (d + 1))

def isSmallPrime (n : Nat) : Bool := 2 ≤ n && noDivisorFrom n n 2

/-- Given that `q` is prime, `p` is too: two has an order modulo each prime factor of `p` that
`q` divides, so each factor exceeds the square root. -/
def certifies (q p : Nat) : Bool :=
  p < q * q && (p - 1) % q = 0 && powMod 2 (p - 1) p = 1 &&
    Nat.gcd (powMod 2 ((p - 1) / q) p - 1) p = 1 && powMod 2 ((p - 1) / q) p ≠ 0

def sieve : List Nat := (List.range 1000).filter isSmallPrime

/-- The public exponent of every generated key. -/
def exponent : Nat := 65537

/-- The exponent must have an inverse modulo one less. -/
def suits (p : Nat) : Bool := (p - 1) % exponent ≠ 0

/-- Candidates `first + i * step`, taken in turn from a random start and wrapping around. -/
structure Candidates where
  first : Nat
  step : Nat
  count : Nat

def Candidates.get (c : Candidates) (i : Nat) : Nat := c.first + (i % c.count) * c.step

def Candidates.find? (c : Candidates) (ok : Nat → Bool) : (fuel start : Nat) → Option Nat
  | 0, _ => none
  | fuel + 1, start =>
    let p := c.get start
    if ok p then some p else c.find? ok fuel (start + 1)

/-- Numbers of so many bits whose two highest are set start here. -/
def lowest (bits : Nat) : Nat := 3 * Nat.pow 2 (bits - 2)

def smallBits : Nat := 20

def tries : Nat := 1000000

/-- Odd numbers of so many bits. -/
def oddNumbers (bits : Nat) : Candidates := ⟨lowest bits + 1, 2, Nat.pow 2 (bits - 3)⟩

/-- Numbers of so many bits that are one more than an even multiple of `q`. -/
def multiples (bits q : Nat) : Candidates :=
  let low := (lowest bits + 2 * q - 2) / (2 * q)
  let high := (Nat.pow 2 bits - 2) / (2 * q)
  ⟨2 * low * q + 1, 2 * q, high + 1 - low⟩

/-- A prime of so many bits, the two highest of them set. -/
def random? : (fuel bits : Nat) → Entropy → Option (Nat × Entropy)
  | 0, _, _ => none
  | fuel + 1, bits, e =>
    if bits ≤ smallBits then
      let (start, e) := e.bits bits
      ((oddNumbers bits).find? (fun p => isSmallPrime p && suits p) tries start).map (·, e)
    else
      match random? fuel (bits / 2 + 2) e with
      | none => none
      | some (q, e) =>
        let (start, e) := e.bits bits
        let good := fun p => sieve.all (p % · ≠ 0) && suits p && certifies q p
        ((multiples bits q).find? good tries start).map (·, e)

end Turnstile.Primes
