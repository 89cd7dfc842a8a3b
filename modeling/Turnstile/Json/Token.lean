import Turnstile.Json.Numeral

/-! The tokens of a JSON text, read byte by byte. Strings are kept as written: whether their bytes
and escapes make text is asked only where text is needed. -/

namespace Turnstile.Json

/-- One item of a string: a byte, or a UTF-16 unit given by its four hexadecimal digits. -/
inductive Piece
  | byte (b : UInt8)
  | unit (u : UInt16)
  deriving DecidableEq, Repr

inductive Token
  | openObject
  | closeObject
  | openArray
  | closeArray
  | colon
  | comma
  | text (pieces : List Piece)
  | null
  | bool (b : Bool)
  | number (n : Numeral)
  deriving DecidableEq, Repr

namespace Token

/-- Where the reader stands; what it holds of a word or a string is kept last first. -/
inductive Mode
  | between
  | word (held : Bytes)
  | text (held : List Piece)
  | escape (held : List Piece)
  | hex (held : List Piece) (missing : Nat) (value : UInt16)

def isSpace (b : UInt8) : Bool := b = 32 || b = 9 || b = 10 || b = 13

def punctuation? (b : UInt8) : Option Token :=
  if b = 123 then some openObject
  else if b = 125 then some closeObject
  else if b = 91 then some openArray
  else if b = 93 then some closeArray
  else if b = 58 then some colon
  else if b = 44 then some comma
  else none

def ofWord? (w : Bytes) : Option Token :=
  if w = [110, 117, 108, 108] then some null
  else if w = [116, 114, 117, 101] then some (bool true)
  else if w = [102, 97, 108, 115, 101] then some (bool false)
  else (Numeral.ofBytes? w).map number

/-- The byte that a one-letter escape stands for. -/
def escaped? (b : UInt8) : Option UInt8 :=
  if b = 34 || b = 92 || b = 47 then some b
  else if b = 98 then some 8
  else if b = 102 then some 12
  else if b = 110 then some 10
  else if b = 114 then some 13
  else if b = 116 then some 9
  else none

/-- A byte outside strings and words. -/
def stepBetween (done : List Token) (b : UInt8) : Mode × List Token :=
  if isSpace b then (.between, done)
  else if b = 34 then (.text [], done)
  else match punctuation? b with
    | some t => (.between, t :: done)
    | none => (.word [b], done)

def step (mode : Mode) (done : List Token) (b : UInt8) : Option (Mode × List Token) :=
  match mode with
  | .between => some (stepBetween done b)
  | .word held =>
    if isSpace b || b = 34 || (punctuation? b).isSome then
      (ofWord? held.reverse).map fun t => stepBetween (t :: done) b
    else some (.word (b :: held), done)
  | .text held =>
    if b = 34 then some (.between, .text held.reverse :: done)
    else if b = 92 then some (.escape held, done)
    else if b < 32 then none
    else some (.text (.byte b :: held), done)
  | .escape held =>
    if b = 117 then some (.hex held 4 0, done)
    else (escaped? b).map fun c => (.text (.byte c :: held), done)
  | .hex held missing value =>
    (Bytes.hexValue? b).map fun d =>
      let value := value * 16 + d.toUInt16
      if missing ≤ 1 then (.text (.unit value :: held), done) else (.hex held (missing - 1) value, done)

def finish (mode : Mode) (done : List Token) : Option (List Token) :=
  match mode with
  | .between => some done.reverse
  | .word held => (ofWord? held.reverse).map fun t => (t :: done).reverse
  | _ => none

def scan (mode : Mode) (done : List Token) : Bytes → Option (List Token)
  | [] => finish mode done
  | b :: rest =>
    match step mode done b with
    | none => none
    | some (mode, done) => scan mode done rest

def ofBytes? (b : Bytes) : Option (List Token) := scan .between [] b

end Token

end Turnstile.Json
