import Turnstile.Bytes

/-! Random bytes without end. Nothing is fixed about them; they are taken off the front, each of
them once. -/

namespace Turnstile

/-- The byte that comes after so many others. -/
def Entropy := Nat → UInt8

namespace Entropy

def take (n : Nat) (e : Entropy) : Bytes × Entropy := ((List.range n).map e, fun i => e (n + i))

/-- A number below `2 ^ n`. -/
def bits (n : Nat) (e : Entropy) : Nat × Entropy :=
  let (b, e) := take (n / 8 + 1) e
  (Bytes.toNat b % Nat.pow 2 n, e)

end Entropy

end Turnstile
