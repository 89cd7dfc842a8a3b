/-! Byte sequences: the text they hold, and the numbers they write in base 256. -/

namespace Turnstile

abbrev Bytes := List UInt8

namespace Bytes

def ofString (s : String) : Bytes := s.toUTF8.data.toList

/-- The text, when the bytes are well-formed UTF-8. -/
def toString? (b : Bytes) : Option String := String.fromUTF8? ⟨b.toArray⟩

theorem toString?_ofString (s : String) : toString? (ofString s) = some s := by
  have h : (⟨s.toUTF8.data.toList.toArray⟩ : ByteArray) = s.toByteArray := by
    rw [Array.toArray_toList]; rfl
  simp only [toString?, ofString, h, String.fromUTF8?, dif_pos s.isValidUTF8]
  rfl

def ofChar (c : Char) : Bytes := String.utf8EncodeChar c

/-- Big-endian value. -/
def toNat (b : Bytes) : Nat := b.foldl (fun n x => n * 256 + x.toNat) 0

/-- The low `width` bytes of `n`, most significant first. -/
def ofNat : (width n : Nat) → Bytes
  | 0, _ => []
  | width + 1, n => UInt8.ofNat (n >>> (8 * width)) :: ofNat width n

/-- Bytes needed to write `n`; none for zero. -/
def widthOf (n : Nat) : Nat := if n = 0 then 0 else n.log2 / 8 + 1

def ofWord (w : UInt32) : Bytes :=
  [(w >>> 24).toUInt8, (w >>> 16).toUInt8, (w >>> 8).toUInt8, w.toUInt8]

def xor (a b : Bytes) : Bytes := List.zipWith (· ^^^ ·) a b

/-- Lower-case hexadecimal digit of a value below sixteen. -/
def hexDigit (n : UInt8) : UInt8 := if n < 10 then n + 48 else n + 87

def hexValue? (b : UInt8) : Option UInt8 :=
  if 48 ≤ b && b ≤ 57 then some (b - 48)
  else if 97 ≤ b && b ≤ 102 then some (b - 87)
  else if 65 ≤ b && b ≤ 70 then some (b - 55)
  else none

def hex (b : Bytes) : Bytes := List.flatMap (fun x : UInt8 => [hexDigit (x >>> 4), hexDigit (x &&& 15)]) b

def isDigit (b : UInt8) : Bool := 48 ≤ b && b ≤ 57

def isAlphanumeric (b : UInt8) : Bool :=
  isDigit b || (65 ≤ b && b ≤ 90) || (97 ≤ b && b ≤ 122)

/-- Parts between the bytes equal to `sep`; there is one more part than separators. -/
def splitOn (sep : UInt8) (b : Bytes) : List Bytes := List.splitOnP (· == sep) b

/-- Splits at the last `sep`. -/
def splitLast? (sep : UInt8) (b : Bytes) : Option (Bytes × Bytes) :=
  match b.reverse.span (· != sep) with
  | (_, []) => none
  | (after, _ :: before) => some (before.reverse, after.reverse)

end Bytes

end Turnstile
