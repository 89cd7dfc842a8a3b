import Turnstile.Bytes

/-! Path templates: literal bytes, a name in braces for one segment, and a starred name for all
that is left. -/

namespace Turnstile

inductive Segment
  | byte (b : UInt8)
  | param
  | tail
  deriving DecidableEq, Repr

abbrev Pattern := List Segment

namespace Pattern

/-- Doubled braces stand for themselves; the mark tells them from braces around a name. -/
def unescape : Bytes → List (UInt8 × Bool)
  | [] => []
  | [b] => [(b, false)]
  | b :: c :: rest =>
    if (b = 123 || b = 125) && b = c then (b, true) :: unescape rest
    else (b, false) :: unescape (c :: rest)

/-- A name and what follows its closing brace; after its first byte it holds neither stars nor
slashes. -/
def name? : (first : Bool) → List (UInt8 × Bool) → Option (Bytes × List (UInt8 × Bool))
  | _, [] => none
  | first, (b, escaped) :: rest =>
    if b = 125 && (first || !escaped) then some ([], rest)
    else if !first && (b = 42 || b = 47) then none
    else (name? false rest).map fun (name, rest) => (b :: name, rest)

/-- A name ends its segment, and a starred name the path. -/
def parse (fuel : Nat) (b : List (UInt8 × Bool)) : Option Pattern :=
  match fuel, b with
  | _, [] => some []
  | 0, _ => none
  | fuel + 1, (b, escaped) :: rest =>
    if b = 125 && !escaped then none
    else if b = 123 && !escaped then
      match name? true rest with
      | none => none
      | some (name, rest) =>
        if name = [] || name = [42] then none
        else if name.head? = some 42 then if rest.isEmpty then some [.tail] else none
        else if rest.isEmpty || rest.head?.map (·.1) = some 47 then
          (parse fuel rest).map (.param :: ·)
        else none
    else (parse fuel rest).map (.byte b :: ·)

/-- Starts with a slash, and no segment starts with a colon or a star. -/
def ofString? (path : String) : Option Pattern :=
  let b := Bytes.ofString path
  if b.head? ≠ some 47 || (Bytes.splitOn 47 b).any (fun s => s.head? = some 58 || s.head? = some 42) then
    none
  else parse b.length (unescape b)

/-- The two claim the same paths, or would end differently at the same place. -/
def conflicts : Pattern → Pattern → Bool
  | [], [] => true
  | .byte b :: p, .byte c :: q => b == c && conflicts p q
  | .param :: p, .param :: q => conflicts p q
  | .tail :: _, .tail :: _ => true
  | .tail :: _, .param :: _ => true
  | .param :: _, .tail :: _ => true
  | _, _ => false

def accepts : Pattern → Bytes → Bool
  | [], b => b.isEmpty
  | .byte _ :: _, [] => false
  | .byte b :: p, c :: rest => b == c && accepts p rest
  | .param :: p, b =>
    !(b.takeWhile (· != 47)).isEmpty && accepts p (b.dropWhile (· != 47))
  | .tail :: _, b => !b.isEmpty

/-- At the first difference a literal byte goes before a name, and that before a starred one. -/
def precedes : Pattern → Pattern → Bool
  | .byte _ :: p, .byte _ :: q => precedes p q
  | .param :: p, .param :: q => precedes p q
  | .byte _ :: _, _ => true
  | .param :: _, .tail :: _ => true
  | _, _ => false

end Pattern

end Turnstile
