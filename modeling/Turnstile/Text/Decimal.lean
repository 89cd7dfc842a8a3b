import Turnstile.Word

/-! Whole numbers in decimal text, with an optional sign. -/

namespace Turnstile.Text

def digits? (cs : List Char) : Option Nat :=
  if cs.isEmpty || !cs.all Char.isDigit then none
  else some (cs.foldl (fun n c => n * 10 + (c.toNat - 48)) 0)

/-- A number up to `limit`, written with an optional plus sign and any leading zeros. -/
def natUpTo? (limit : Nat) (s : String) : Option Nat :=
  let body := match s.toList with
    | '+' :: rest => rest
    | cs => cs
  (digits? body).filter (· ≤ limit)

def signed? : List Char → Option Int
  | '-' :: rest => (digits? rest).map fun n => -(n : Int)
  | '+' :: rest => (digits? rest).map Int.ofNat
  | cs => (digits? cs).map Int.ofNat

def int64? (s : String) : Option Int :=
  (signed? s.toList).filter Word.isSigned64

end Turnstile.Text
