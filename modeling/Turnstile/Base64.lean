import Turnstile.Bytes

/-! Base64 in its two alphabets. Reading is strict: no foreign byte, no loose padding, and the
bits that a last group leaves unused are zero, so each byte sequence has one written form. -/

namespace Turnstile

inductive Base64
  | standard
  | urlSafe
  deriving DecidableEq, Repr

namespace Base64

/-- The symbols for 62 and 63. -/
def specials : Base64 → UInt8 × UInt8
  | standard => (43, 47)
  | urlSafe => (45, 95)

def symbol (a : Base64) (n : Nat) : UInt8 :=
  if n < 26 then UInt8.ofNat (n + 65)
  else if n < 52 then UInt8.ofNat (n + 71)
  else if n < 62 then UInt8.ofNat (n - 4)
  else if n = 62 then a.specials.1
  else a.specials.2

def value? (a : Base64) (b : UInt8) : Option Nat :=
  if 65 ≤ b && b ≤ 90 then some (b.toNat - 65)
  else if 97 ≤ b && b ≤ 122 then some (b.toNat - 71)
  else if 48 ≤ b && b ≤ 57 then some (b.toNat + 4)
  else if b == a.specials.1 then some 62
  else if b == a.specials.2 then some 63
  else none

/-- Six-bit groups, most significant first, with zero bits filling up the last one. -/
def sextets : Bytes → List Nat
  | [] => []
  | [x] => [x.toNat / 4, x.toNat % 4 * 16]
  | [x, y] => [x.toNat / 4, x.toNat % 4 * 16 + y.toNat / 16, y.toNat % 16 * 4]
  | x :: y :: z :: rest =>
    x.toNat / 4 :: (x.toNat % 4 * 16 + y.toNat / 16) :: (y.toNat % 16 * 4 + z.toNat / 64) ::
      z.toNat % 64 :: sextets rest

/-- Prepends the bytes of the groups to `done`, last byte first. -/
def joinSextets (done : Bytes) : List Nat → Option Bytes
  | [] => some done.reverse
  | [_] => none
  | [a, b] => if b % 16 = 0 then some (UInt8.ofNat (a * 4 + b / 16) :: done).reverse else none
  | [a, b, c] =>
    if c % 4 = 0 then
      some (UInt8.ofNat (b % 16 * 16 + c / 4) :: UInt8.ofNat (a * 4 + b / 16) :: done).reverse
    else none
  | a :: b :: c :: d :: rest =>
    joinSextets (UInt8.ofNat (c % 4 * 64 + d) :: UInt8.ofNat (b % 16 * 16 + c / 4) ::
      UInt8.ofNat (a * 4 + b / 16) :: done) rest

/-- Unpadded form. -/
def encode (a : Base64) (b : Bytes) : Bytes := (sextets b).map a.symbol

def decode? (a : Base64) (text : Bytes) : Option Bytes :=
  (text.mapM a.value?).bind (joinSextets [])

/-- Equals signs that bring `n` symbols to a multiple of four. -/
def padding (n : Nat) : Nat := (4 - n % 4) % 4

def encodePadded (a : Base64) (b : Bytes) : Bytes :=
  let text := a.encode b
  text ++ List.replicate (padding text.length) 61

def decodePadded? (a : Base64) (text : Bytes) : Option Bytes :=
  let pads := (text.reverse.takeWhile (· == 61)).length
  let body := text.take (text.length - pads)
  if pads = padding body.length then a.decode? body else none

end Base64

end Turnstile
