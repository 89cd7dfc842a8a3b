import Turnstile.Json.Binary64
import Turnstile.Json.Node
import Std.Data.TreeMap

/-! JSON values and their compact written form. -/

namespace Turnstile.Json

inductive Value
  | null
  | bool (b : Bool)
  | int (i : Int)
  | float (f : Float)
  | text (s : String)
  | array (items : List Value)
  | object (members : List (String × Value))
  deriving Inhabited

namespace Value

mutual

def bytes : Value → Bytes
  | null => [110, 117, 108, 108]
  | bool true => [116, 114, 117, 101]
  | bool false => [102, 97, 108, 115, 101]
  | int i => Bytes.ofString (toString i)
  | float f => Binary64.bytes f
  | text s => quoted s
  | array [] => [91, 93]
  | array (v :: rest) => 91 :: bytes v ++ itemBytes rest
  | object [] => [123, 125]
  | object ((k, v) :: rest) => 123 :: quoted k ++ 58 :: bytes v ++ memberBytes rest

/-- Items after the first, up to the closing bracket. -/
def itemBytes : List Value → Bytes
  | [] => [93]
  | v :: rest => 44 :: bytes v ++ itemBytes rest

def memberBytes : List (String × Value) → Bytes
  | [] => [125]
  | (k, v) :: rest => 44 :: quoted k ++ 58 :: bytes v ++ memberBytes rest

end

def render (v : Value) : String := (Bytes.toString? v.bytes).getD ""

def texts (items : List String) : Value := array (items.map text)

/-- A whole number within 64 bits stays whole; any other becomes floating point. -/
def ofNumeral? (n : Numeral) : Option Value :=
  match n.int?.filter fun i => Word.minSigned64 ≤ i ∧ i ≤ Word.max64 with
  | some i => some (int i)
  | none => (Binary64.ofNumeral? n).map float

/-- Members in the order of their keys; of equal keys the last stays. -/
def sorted (ms : List (String × Value)) : List (String × Value) :=
  (Std.TreeMap.ofList ms).toList

mutual

/-- The value of a node in which containers nest at most `room` deep. -/
def ofNode? (room : Nat) : Node → Option Value
  | .null => some null
  | .bool b => some (bool b)
  | .number n => ofNumeral? n
  | .text p => (textOf? p).map text
  | .array items => if room = 0 then none else (ofItems? (room - 1) items).map array
  | .object ms => if room = 0 then none else (ofMembers? (room - 1) ms).map fun ms => object (sorted ms)

def ofItems? (room : Nat) : List Node → Option (List Value)
  | [] => some []
  | n :: rest =>
    match ofNode? room n with
    | none => none
    | some v => (ofItems? room rest).map (v :: ·)

def ofMembers? (room : Nat) : List (List Piece × Node) → Option (List (String × Value))
  | [] => some []
  | (k, n) :: rest =>
    match textOf? k, ofNode? room n with
    | some k, some v => (ofMembers? room rest).map ((k, v) :: ·)
    | _, _ => none

end

/-- Containers of a value nest at most this deep. -/
def maxDepth : Nat := 127

def ofBytes? (b : Bytes) : Option Value := (Node.ofBytes? b).bind (ofNode? maxDepth)

end Value

end Turnstile.Json
