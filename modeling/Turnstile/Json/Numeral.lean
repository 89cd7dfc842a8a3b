import Turnstile.Bytes
import Turnstile.Word

/-! Numbers as JSON writes them. -/

namespace Turnstile.Json

/-- Digits before the point, after it, and of the exponent with its sign. -/
structure Numeral where
  negative : Bool
  whole : Bytes
  fraction : Option Bytes
  exponent : Option (Bool × Bytes)
  deriving DecidableEq, Repr

namespace Numeral

def digitsValue (ds : Bytes) : Nat := ds.foldl (fun n d => n * 10 + (d.toNat - 48)) 0

/-- One digit or more, and what follows them. -/
def digits? (b : Bytes) : Option (Bytes × Bytes) :=
  match b.span Bytes.isDigit with
  | ([], _) => none
  | (ds, rest) => some (ds, rest)

def whole? (b : Bytes) : Option (Bytes × Bytes) :=
  (digits? b).filter fun (ds, _) => ds = [48] || ds.head? != some 48

def fraction? : Bytes → Option (Option Bytes × Bytes)
  | 46 :: rest => (digits? rest).map fun (ds, rest) => (some ds, rest)
  | b => some (none, b)

def exponent? : Bytes → Option (Option (Bool × Bytes) × Bytes)
  | [] => some (none, [])
  | e :: rest =>
    if e = 101 || e = 69 then
      let (negative, rest) := match rest with
        | 45 :: r => (true, r)
        | 43 :: r => (false, r)
        | r => (false, r)
      (digits? rest).map fun (ds, rest) => (some (negative, ds), rest)
    else some (none, e :: rest)

/-- No leading zeros and no empty run of digits. -/
def ofBytes? (b : Bytes) : Option Numeral := do
  let (negative, b) := match b with
    | 45 :: r => (true, r)
    | r => (false, r)
  let (whole, b) ← whole? b
  let (fraction, b) ← fraction? b
  let (exponent, b) ← exponent? b
  if b.isEmpty then some ⟨negative, whole, fraction, exponent⟩ else none

def bytes (n : Numeral) : Bytes :=
  (if n.negative then [45] else []) ++ n.whole ++
    (match n.fraction with
      | none => []
      | some ds => 46 :: ds) ++
    (match n.exponent with
      | none => []
      | some (negative, ds) => 101 :: (if negative then [45] else []) ++ ds)

/-- The whole number written without fraction or exponent; a negative zero is none. -/
def int? (n : Numeral) : Option Int :=
  if n.fraction.isSome || n.exponent.isSome then none
  else
    let value := digitsValue n.whole
    if n.negative then (if value = 0 then none else some (-value)) else some value

def int64? (n : Numeral) : Option Int :=
  n.int?.filter Word.isSigned64

end Numeral

end Turnstile.Json
