import Turnstile.Json.Numeral

/-! Binary floating point in JSON: numerals read with one table of powers of ten, and values
written with the fewest digits that read back. -/

namespace Turnstile.Json.Binary64

/-- Digits are taken in while the significand fits 64 bits. -/
def fits (significand digit : Nat) : Bool := significand * 10 + digit ≤ Word.max64

/-- The significand of leading digits and the number of digits left over. -/
def takeWhole (significand : Nat) : Bytes → Nat × Nat
  | [] => (significand, 0)
  | d :: rest =>
    if fits significand (d.toNat - 48) then takeWhole (significand * 10 + (d.toNat - 48)) rest
    else (significand, rest.length + 1)

/-- Digits after the point are taken in up to the first that does not fit; each lowers the
exponent. -/
def takeFraction (significand : Nat) (exponent : Int) : Bytes → Nat × Int
  | [] => (significand, exponent)
  | d :: rest =>
    if fits significand (d.toNat - 48) then
      takeFraction (significand * 10 + (d.toNat - 48)) (exponent - 1) rest
    else (significand, exponent)

def power (n : Nat) : Float := Float.ofScientific 1 false n

/-- Scales by a power of ten in steps of at most 308; a result beyond the range fails. -/
def scale (f : Float) (exponent : Int) : Nat → Option Float
  | 0 => some f
  | fuel + 1 =>
    if exponent.natAbs ≤ 308 then
      if 0 ≤ exponent then
        let g := f * power exponent.natAbs
        if g.isInf then none else some g
      else some (f / power exponent.natAbs)
    else if f == 0 then some f
    else if 0 ≤ exponent then none
    else scale (f / power 308) (exponent + 308) fuel

def ofParts (negative : Bool) (significand : Nat) (exponent : Int) : Option Float :=
  (scale significand.toUInt64.toFloat exponent 4).map fun f => if negative then -f else f

/-- Sums and differences of 32-bit words stop at the ends of the range. -/
def clamp (e : Int) : Int := max (-0x80000000) (min 0x7fffffff e)

def ofNumeral? (n : Numeral) : Option Float :=
  let (significand, left) := takeWhole 0 n.whole
  let (significand, exponent) :=
    takeFraction significand left (n.fraction.getD [])
  match n.exponent with
  | none => ofParts n.negative significand exponent
  | some (down, ds) =>
    let e := Numeral.digitsValue ds
    if e < 0x80000000 then
      ofParts n.negative significand (clamp (if down then exponent - e else exponent + e))
    else if significand ≠ 0 && !down then none
    else some (if n.negative then -0.0 else 0.0)

/-- The least significand of a normal value. -/
def leastNormal : Nat := 0x10000000000000

/-- The positive finite value `m * 2 ^ q`. -/
structure Dyadic where
  m : Nat
  q : Int

def decode (bits : UInt64) : Dyadic :=
  let fraction := bits.toNat % leastNormal
  let exponent := bits.toNat / leastNormal % 2048
  if exponent = 0 then ⟨fraction, -1074⟩ else ⟨leastNormal + fraction, Int.ofNat exponent - 1075⟩

/-- `n * 2 ^ q * 10 ^ (-k)` as a fraction. -/
def ratio (n : Nat) (q k : Int) : Nat × Nat :=
  (n * Nat.pow 2 q.toNat * Nat.pow 10 (-k).toNat, Nat.pow 2 (-q).toNat * Nat.pow 10 k.toNat)

/-- The whole number next to the value on the grid of step `10 ^ k` that reads back, the nearer
one when both do, an even one at a tie. -/
def onGrid (d : Dyadic) (k : Int) : Option Nat :=
  let (num, den) := ratio (4 * d.m) (d.q - 2) k
  let (step, _) := ratio 1 (d.q - 2) k
  let below := if d.m = leastNormal && d.q ≠ -1074 then step else 2 * step
  let low := num - below
  let high := num + 2 * step
  let inside := fun x => if d.m % 2 = 0 then low ≤ x && x ≤ high else low < x && x < high
  let floor := num / den
  let floorIn := floor ≠ 0 && inside (floor * den)
  let ceilIn := inside ((floor + 1) * den)
  let rest := num % den
  if floorIn && ceilIn then
    some (if 2 * rest < den || (2 * rest = den && floor % 2 = 0) then floor else floor + 1)
  else if floorIn then some floor
  else if ceilIn then some (floor + 1)
  else none

/-- The coarsest grid that has such a number, tried from `10 ^ k` down. -/
def shortest (d : Dyadic) (k : Int) : Nat → Nat × Int
  | 0 => (d.m, 0)
  | fuel + 1 =>
    match onGrid d k with
    | some n => (n, k)
    | none => shortest d (k - 1) fuel

/-- Positional from 1e-5 up to below 1e16, with an exponent beyond. -/
def layout (digits : Bytes) (k : Int) : Bytes :=
  let n : Int := digits.length
  let point := n + k
  let zeros := fun (i : Int) => List.replicate i.toNat (48 : UInt8)
  if 0 ≤ k && point ≤ 16 then digits ++ zeros k ++ [46, 48]
  else if 0 < point && point ≤ 16 then
    digits.take point.toNat ++ 46 :: digits.drop point.toNat
  else if -5 < point && point ≤ 0 then [48, 46] ++ zeros (-point) ++ digits
  else
    digits.take 1 ++ (if digits.length = 1 then [] else 46 :: digits.drop 1) ++
      101 :: Bytes.ofString (toString (point - 1))

def bytes (f : Float) : Bytes :=
  let bits := f.toBits
  let sign : Bytes := if bits >>> 63 = 1 then [45] else []
  let d := decode bits
  if d.m = 0 then sign ++ [48, 46, 48]
  else
    let top := (d.m.log2 + d.q) * 30103 / 100000 + 1
    let (n, k) := shortest d top 40
    sign ++ layout (Bytes.ofString (toString n)) k

end Turnstile.Json.Binary64
