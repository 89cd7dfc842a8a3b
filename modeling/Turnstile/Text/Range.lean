/-! Sets of characters given as ranges of code points. -/

namespace Turnstile.Text

def inRanges (ranges : List (Nat × Nat)) (c : Char) : Bool :=
  ranges.any fun r => r.1 ≤ c.toNat && c.toNat ≤ r.2

end Turnstile.Text
