import Turnstile.Bytes

/-! Universally unique identifiers in their text forms. -/

namespace Turnstile.Uuid

/-- Digits between hyphens, group by group. -/
def groupLengths : List Nat := [8, 4, 4, 4, 12]

def isHex (c : Char) : Bool := c.isDigit || ('a' ≤ c && c ≤ 'f') || ('A' ≤ c && c ≤ 'F')

/-- Groups of these lengths with hyphens between them, joined. -/
def ungroup? : List Nat → List Char → Option (List Char)
  | [], cs => if cs.isEmpty then some [] else none
  | [n], cs => if cs.length = n && cs.all isHex then some cs else none
  | n :: ns, cs =>
    let group := cs.take n
    match cs.drop n with
    | '-' :: rest =>
      if group.length = n && group.all isHex then (ungroup? ns rest).map (group ++ ·) else none
    | _ => none

def group : List Nat → List Char → List Char
  | [], cs => cs
  | [_], cs => cs
  | n :: ns, cs => cs.take n ++ '-' :: group ns (cs.drop n)

/-- Plain digits, hyphenated, hyphenated in braces, or hyphenated as a resource name. -/
def digits? (cs : List Char) : Option (List Char) :=
  if cs.length = 32 && cs.all isHex then some cs
  else if cs.length = 38 && cs.head? = some '\x7b' && cs.getLast? = some '\x7d' then
    ungroup? groupLengths (cs.drop 1).dropLast
  else if (cs.take 9).map Char.toLower = "urn:uuid:".toList then ungroup? groupLengths (cs.drop 9)
  else ungroup? groupLengths cs

/-- The hyphenated lower-case form. -/
def canonical? (s : String) : Option String :=
  (digits? s.toList).map fun ds => String.ofList (group groupLengths (ds.map Char.toLower))

def invalidMessage : String := "ID is not in its proper form"

/-- Marks sixteen bytes as a random identifier of version 4. -/
def ofRandom (b : Bytes) : String :=
  let marked := b.mapIdx fun i x =>
    if i = 6 then (x &&& 0x0f) ||| 0x40 else if i = 8 then (x &&& 0x3f) ||| 0x80 else x
  String.ofList (group groupLengths ((Bytes.hex marked).map fun x => Char.ofNat x.toNat))

end Turnstile.Uuid
