import Turnstile.Bytes

/-! Bytes shown as text: each longest start of a character that breaks off becomes one
replacement character. -/

namespace Turnstile.Text

/-- How many continuation bytes follow this lead byte, and the range of the first of them. -/
def leadOf (b : UInt8) : Option (Nat × UInt8 × UInt8) :=
  if b < 0x80 then some (0, 0x80, 0xBF)
  else if b < 0xC2 then none
  else if b < 0xE0 then some (1, 0x80, 0xBF)
  else if b = 0xE0 then some (2, 0xA0, 0xBF)
  else if b = 0xED then some (2, 0x80, 0x9F)
  else if b < 0xF0 then some (2, 0x80, 0xBF)
  else if b = 0xF0 then some (3, 0x90, 0xBF)
  else if b < 0xF4 then some (3, 0x80, 0xBF)
  else if b = 0xF4 then some (3, 0x80, 0x8F)
  else none

/-- Bytes still missing from the character under way, the range of the next one, and its bytes
so far, last first. -/
structure Partial where
  missing : Nat
  low : UInt8
  high : UInt8
  held : Bytes

def replacement : Bytes := Bytes.ofChar '\uFFFD'

/-- Starts a character at `b`. -/
def startChar (done : Bytes) (b : UInt8) : Bytes × Option Partial :=
  match leadOf b with
  | none => (replacement.reverse ++ done, none)
  | some (0, _, _) => (b :: done, none)
  | some (n, low, high) => (done, some ⟨n, low, high, [b]⟩)

def lossyStep : Bytes × Option Partial → UInt8 → Bytes × Option Partial
  | (done, none), b => startChar done b
  | (done, some p), b =>
    if p.low ≤ b && b ≤ p.high then
      if p.missing ≤ 1 then (b :: p.held ++ done, none)
      else (done, some ⟨p.missing - 1, 0x80, 0xBF, b :: p.held⟩)
    else startChar (replacement.reverse ++ done) b

def lossyBytes (b : Bytes) : Bytes :=
  match b.foldl lossyStep ([], none) with
  | (done, none) => done.reverse
  | (done, some _) => (replacement.reverse ++ done).reverse

def lossy (b : Bytes) : String := (Bytes.toString? (lossyBytes b)).getD ""

end Turnstile.Text
