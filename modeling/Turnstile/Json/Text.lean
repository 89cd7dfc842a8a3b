import Turnstile.Json.Token

/-! Strings of JSON: from pieces to text, and from text to its quoted form. -/

namespace Turnstile.Json

def isLead (u : UInt16) : Bool := 0xD800 ≤ u && u < 0xDC00

def isTrail (u : UInt16) : Bool := 0xDC00 ≤ u && u < 0xE000

/-- The code point of a surrogate pair. -/
def pairValue (lead trail : UInt16) : Nat :=
  0x10000 + (lead.toNat - 0xD800) * 0x400 + (trail.toNat - 0xDC00)

/-- The bytes that the pieces stand for, put before `done` last first; surrogates stand in pairs. -/
def joinPieces (done : Bytes) : List Piece → Option Bytes
  | [] => some done.reverse
  | .byte b :: rest => joinPieces (b :: done) rest
  | .unit u :: rest =>
    if isLead u then
      match rest with
      | .unit v :: rest =>
        if isTrail v then joinPieces ((Bytes.ofChar (Char.ofNat (pairValue u v))).reverse ++ done) rest
        else none
      | _ => none
    else if isTrail u then none
    else joinPieces ((Bytes.ofChar (Char.ofNat u.toNat)).reverse ++ done) rest

def textOf? (pieces : List Piece) : Option String :=
  (joinPieces [] pieces).bind Bytes.toString?

/-- Quotes, backslashes and control bytes are escaped; all else stands for itself. -/
def escapeByte (b : UInt8) : Bytes :=
  if b = 34 then [92, 34]
  else if b = 92 then [92, 92]
  else if b = 8 then [92, 98]
  else if b = 12 then [92, 102]
  else if b = 10 then [92, 110]
  else if b = 13 then [92, 114]
  else if b = 9 then [92, 116]
  else if b < 32 then [92, 117, 48, 48, Bytes.hexDigit (b >>> 4), Bytes.hexDigit (b &&& 15)]
  else [b]

def quoted (s : String) : Bytes := 34 :: (Bytes.ofString s).flatMap escapeByte ++ [34]

end Turnstile.Json
