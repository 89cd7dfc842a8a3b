import Turnstile.Word

/-! Internet addresses and socket addresses: their literal forms, and the canonical one. -/

namespace Turnstile.Net

inductive Ip
  | v4 (octets : List Nat)
  | v6 (groups : List Nat)
  deriving DecidableEq, Repr

/-- The scope names a network interface; zero names none. -/
structure SocketAddress where
  ip : Ip
  scope : Nat
  port : Nat
  deriving DecidableEq, Repr

def hexValue? (c : Char) : Option Nat :=
  if '0' ≤ c ∧ c ≤ '9' then some (c.toNat - 48)
  else if 'a' ≤ c ∧ c ≤ 'f' then some (c.toNat - 87)
  else if 'A' ≤ c ∧ c ≤ 'F' then some (c.toNat - 55)
  else none

/-- How a number may be written: its base, the most digits, leading zeros, and its bound. -/
structure NumberForm where
  isDigit : Char → Bool
  base : Nat
  maxDigits : Option Nat
  leadingZero : Bool
  limit : Nat

def octetForm : NumberForm := ⟨Char.isDigit, 10, some 3, false, 255⟩
def groupForm : NumberForm := ⟨fun c => (hexValue? c).isSome, 16, some 4, true, 65535⟩
def portForm : NumberForm := ⟨Char.isDigit, 10, none, true, 65535⟩
def scopeForm : NumberForm := ⟨Char.isDigit, 10, none, true, Word.max32⟩

/-- All digits in front, as a number of the form, and what follows them. -/
def number? (f : NumberForm) (cs : List Char) : Option (Nat × List Char) :=
  let (ds, rest) := cs.span f.isDigit
  let value := ds.foldl (fun n c => n * f.base + (hexValue? c).getD 0) 0
  if ds.isEmpty || f.maxDigits.any (· < ds.length) ||
      (!f.leadingZero && ds.head? == some '0' && 1 < ds.length) || f.limit < value then none
  else some (value, rest)

def skip? (c : Char) : List Char → Option (List Char)
  | [] => none
  | d :: rest => if d = c then some rest else none

/-- Numbers with `sep` between them. -/
def separated? (f : NumberForm) (sep : Char) : (count : Nat) → List Char → Option (List Nat × List Char)
  | 0, cs => some ([], cs)
  | count + 1, cs =>
    match number? f cs with
    | none => none
    | some (n, rest) =>
      if count = 0 then some ([n], rest)
      else match (skip? sep rest).bind (separated? f sep count) with
        | none => none
        | some (ns, rest) => some (n :: ns, rest)

def octets? (cs : List Char) : Option (List Nat × List Char) := separated? octetForm '.' 4 cs

/-- Groups read, whether dotted octets ended them, and what follows. -/
structure Groups where
  groups : List Nat
  dotted : Bool
  rest : List Char

/-- As many groups with colons between them as there are, up to `left`; dotted octets may stand
for the last two. -/
def groupsFrom (first : Bool) : (left : Nat) → List Char → Groups
  | 0, cs => ⟨[], false, cs⟩
  | left + 1, cs =>
    let after := if first then some cs else skip? ':' cs
    match if left = 0 then none else after.bind octets? with
    | some ([a, b, c, d], rest) => ⟨[a * 256 + b, c * 256 + d], true, rest⟩
    | _ =>
      match after.bind (number? groupForm) with
      | none => ⟨[], false, cs⟩
      | some (g, rest) =>
        let more := groupsFrom false left rest
        ⟨g :: more.groups, more.dotted, more.rest⟩

/-- Eight groups, or fewer with a double colon for the zeros between. -/
def ip6? (cs : List Char) : Option (List Nat × List Char) :=
  let front := groupsFrom true 8 cs
  if front.groups.length = 8 then some (front.groups, front.rest)
  else if front.dotted then none
  else match (skip? ':' front.rest).bind (skip? ':') with
    | none => none
    | some rest =>
      let back := groupsFrom true (7 - front.groups.length) rest
      some (front.groups ++ List.replicate (8 - front.groups.length - back.groups.length) 0 ++
        back.groups, back.rest)

/-- All of the text is one address. -/
def Ip.ofString? (s : String) : Option Ip :=
  match octets? s.toList with
  | some (os, []) => some (.v4 os)
  | _ =>
    match ip6? s.toList with
    | some (gs, []) => some (.v6 gs)
    | _ => none

def port? (cs : List Char) : Option (Nat × List Char) := (skip? ':' cs).bind (number? portForm)

def socket4? (cs : List Char) : Option (SocketAddress × List Char) :=
  match octets? cs with
  | none => none
  | some (os, rest) => (port? rest).map fun (port, rest) => (⟨.v4 os, 0, port⟩, rest)

/-- The number of the scope, if one is given. -/
def scope (cs : List Char) : Nat × List Char :=
  ((skip? '%' cs).bind (number? scopeForm)).getD (0, cs)

def socket6? (cs : List Char) : Option (SocketAddress × List Char) :=
  match (skip? '[' cs).bind ip6? with
  | none => none
  | some (gs, rest) =>
    let (scope, rest) := scope rest
    ((skip? ']' rest).bind port?).map fun (port, rest) => (⟨.v6 gs, scope, port⟩, rest)

def SocketAddress.ofString? (s : String) : Option SocketAddress :=
  match socket4? s.toList with
  | some (a, []) => some a
  | _ =>
    match socket6? s.toList with
    | some (a, []) => some a
    | _ => none

def dotted (os : List Nat) : String := ".".intercalate (os.map toString)

def hexText (n : Nat) : String := String.ofList (Nat.toDigits 16 n)

def colons (gs : List Nat) : String := ":".intercalate (gs.map hexText)

/-- Zeros at the front. -/
def zerosAt (gs : List Nat) : Nat := (gs.takeWhile (· == 0)).length

/-- Start and length of the first longest run of zeros. -/
def longestZeros : (start : Nat) → List Nat → Nat × Nat
  | _, [] => (0, 0)
  | start, g :: gs =>
    let later := longestZeros (start + 1) gs
    let here := zerosAt (g :: gs)
    if here ≠ 0 && later.2 ≤ here then (start, here) else later

/-- The longest run of two zeros or more shrinks to a double colon. -/
def ip6Text (gs : List Nat) : String :=
  match gs with
  | [0, 0, 0, 0, 0, 0xffff, a, b] =>
    "::ffff:" ++ dotted [a / 256, a % 256, b / 256, b % 256]
  | _ =>
    let (start, length) := longestZeros 0 gs
    if length < 2 then colons gs
    else colons (gs.take start) ++ "::" ++ colons (gs.drop (start + length))

def Ip.text : Ip → String
  | v4 os => dotted os
  | v6 gs => ip6Text gs

def SocketAddress.text (a : SocketAddress) : String :=
  match a.ip with
  | .v4 os => s!"{dotted os}:{a.port}"
  | .v6 gs =>
    let scope := if a.scope = 0 then "" else s!"%{a.scope}"
    s!"[{ip6Text gs}{scope}]:{a.port}"

end Turnstile.Net
