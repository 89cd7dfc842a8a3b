import Turnstile.Base64
import Turnstile.Text.Blank

/-! Labelled text armour: base64 between a BEGIN and an END line. -/

namespace Turnstile

structure Pem where
  label : String
  content : Bytes
  deriving DecidableEq, Repr

namespace Pem

/-- Looks for `marker`, of which `want` is still missing; `done` holds the bytes passed, last
first. After a byte that does not fit, the search starts over behind that byte. -/
def seek (marker : Bytes) : (want done : Bytes) → Bytes → Option (Bytes × Bytes)
  | [], done, rest => some ((done.drop marker.length).reverse, rest)
  | _ :: _, _, [] => none
  | w :: want, done, b :: rest => seek marker (if b = w then want else marker) (b :: done) rest

/-- What stands before the marker and after it. -/
def splitAt? (marker : String) (b : Bytes) : Option (Bytes × Bytes) :=
  seek (Bytes.ofString marker) (Bytes.ofString marker) [] b

def isSpace (b : UInt8) : Bool := b = 32 || b = 9 || b = 10 || b = 13

/-- Headers end at the first empty line; without one there are none. -/
def splitHeaders (body : Bytes) : Bytes × Bytes :=
  match splitAt? "\n\n" body with
  | some parts => parts
  | none => (splitAt? "\r\n\r\n" body).getD ([], body)

/-- Lines without their ends; a final line end opens no further line. -/
def linesOf (b : Bytes) : List Bytes :=
  let lines := Bytes.splitOn 10 b
  let lines := if lines.getLast? = some [] then lines.dropLast else lines
  lines.map fun l => if l.getLast? = some 13 then l.dropLast else l

def isHeader (line : Bytes) : Bool := line.contains 58

def dropBlanks (s : String) : String := String.ofList (s.toList.filter fun c => !Text.isBlank c)

/-- The first block; what stands around it is ignored. -/
def ofBytes? (b : Bytes) : Option Pem := do
  let (_, b) ← splitAt? "-----BEGIN " b
  let (first, b) ← splitAt? "-----" b
  let (body, b) ← splitAt? "-----END " (b.dropWhile isSpace)
  let (last, _) ← splitAt? "-----" b
  let (headers, data) := splitHeaders body
  let label ← Bytes.toString? first
  let closing ← Bytes.toString? last
  let data ← Bytes.toString? data
  let _ ← Bytes.toString? headers
  if label.isEmpty || label ≠ closing || !(linesOf headers).all isHeader then none
  else
    let content ← Base64.standard.decodePadded? (Bytes.ofString (dropBlanks data))
    some ⟨label, content⟩

def lineWidth : Nat := 64

def lineEnd : Bytes := [13, 10]

/-- Ends a line after `lineWidth` bytes and after the last byte; `column` bytes stand in the
line under way. -/
def wrap (column : Nat) : Bytes → Bytes
  | [] => if column = 0 then [] else lineEnd
  | b :: rest =>
    if column = lineWidth then lineEnd ++ b :: wrap 1 rest else b :: wrap (column + 1) rest

def bytes (p : Pem) : Bytes :=
  Bytes.ofString "-----BEGIN " ++ Bytes.ofString p.label ++ Bytes.ofString "-----" ++ lineEnd ++
    wrap 0 (Base64.standard.encodePadded p.content) ++
    Bytes.ofString "-----END " ++ Bytes.ofString p.label ++ Bytes.ofString "-----" ++ lineEnd

end Pem

end Turnstile
