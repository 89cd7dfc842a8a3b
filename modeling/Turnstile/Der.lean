import Turnstile.Bytes

/-! Distinguished encoding: tag, length, content. Reading accepts the shortest lengths and
numbers only. -/

namespace Turnstile.Der

structure Element where
  tag : UInt8
  content : Bytes
  deriving DecidableEq, Repr

/-- Bytes that one encoding may take in all, and the largest length inside it. -/
def maxLength : Nat := 0xfffffff

def integerTag : UInt8 := 0x02
def bitsTag : UInt8 := 0x03
def octetsTag : UInt8 := 0x04
def nullTag : UInt8 := 0x05
def objectIdTag : UInt8 := 0x06
def sequenceTag : UInt8 := 0x30

/-- Tags with a number below 31: of the universal class the named types, else any. -/
def isTag (t : UInt8) : Bool :=
  [1, 2, 3, 4, 5, 6, 9, 10, 12, 18, 19, 20, 21, 22, 23, 24, 26, 29, 30, 0x30, 0x31].contains t ||
    (0x40 ≤ t && t &&& 0x1F != 0x1F)

def lengthBytes (n : Nat) : Bytes :=
  if n < 128 then [UInt8.ofNat n]
  else
    let w := Bytes.widthOf n
    UInt8.ofNat (128 + w) :: Bytes.ofNat w n

/-- A length of up to four bytes, in its shortest form. -/
def length? : Bytes → Option (Nat × Bytes)
  | [] => none
  | b :: rest =>
    if b < 128 then some (b.toNat, rest)
    else
      let w := b.toNat - 128
      let n := Bytes.toNat (rest.take w)
      if w = 0 || 4 < w || rest.length < w || maxLength < n ||
          lengthBytes n ≠ b :: rest.take w then none
      else some (n, rest.drop w)

/-- The first element and what follows it. -/
def read? : Bytes → Option (Element × Bytes)
  | [] => none
  | t :: rest =>
    if !isTag t then none
    else match length? rest with
      | none => none
      | some (n, rest) => if rest.length < n then none else some (⟨t, rest.take n⟩, rest.drop n)

def readTagged? (tag : UInt8) (b : Bytes) : Option (Bytes × Bytes) :=
  match read? b with
  | some (e, rest) => if e.tag = tag then some (e.content, rest) else none
  | none => none

/-- A number that is not negative, without needless zeros in front. -/
def nat? : Bytes → Option Nat
  | [] => none
  | [b] => if b < 128 then some b.toNat else none
  | b :: c :: rest =>
    if b < 128 && !(b = 0 && c < 128) then some (Bytes.toNat (b :: c :: rest)) else none

def readNat? (b : Bytes) : Option (Nat × Bytes) :=
  match readTagged? integerTag b with
  | some (content, rest) => (nat? content).map (·, rest)
  | none => none

/-- `count` numbers in a row. -/
def readNats? : Nat → Bytes → Option (List Nat × Bytes)
  | 0, b => some ([], b)
  | count + 1, b =>
    match readNat? b with
    | none => none
    | some (n, b) => (readNats? count b).map fun (ns, b) => (n :: ns, b)

/-- The one element that the bytes hold, which has this tag. -/
def whole? (tag : UInt8) (b : Bytes) : Option Bytes :=
  if maxLength < b.length then none
  else match readTagged? tag b with
  | some (content, []) => some content
  | _ => none

def element (tag : UInt8) (content : Bytes) : Bytes :=
  tag :: lengthBytes content.length ++ content

/-- Content of a number: a zero byte keeps a high first bit from meaning a sign. -/
def natContent (n : Nat) : Bytes := Bytes.ofNat (n.log2 / 8 + 1 + if n.log2 % 8 = 7 then 1 else 0) n

def nat (n : Nat) : Bytes := element integerTag (natContent n)

end Turnstile.Der
