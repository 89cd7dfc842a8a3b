import Turnstile.Der
import Turnstile.Pem
import Turnstile.Rsa.Key

/-! Private keys in their two containers, the bare PKCS #1 form and PKCS #8 around it. -/

namespace Turnstile.Rsa.Container

def pkcs1Label : String := "RSA PRIVATE KEY"

def pkcs8Label : String := "PRIVATE KEY"

/-- Version, the five numbers, and three more that follow from them. -/
def pkcs1? (b : Bytes) : Option PrivateKey :=
  match (Der.whole? Der.sequenceTag b).bind (Der.readNats? 9) with
  | some ([0, n, e, d, p, q, _, _, _], []) => some ⟨n, e, d, p, q⟩
  | _ => none

def rsaAlgorithm : Bytes :=
  Der.element Der.objectIdTag [0x2a, 0x86, 0x48, 0x86, 0xf7, 0x0d, 0x01, 0x01, 0x01] ++
    Der.element Der.nullTag []

/-- Drops the elements of tag number zero, which hold attributes; `fuel` bounds their count. -/
def skipAttributes? : (fuel : Nat) → Bytes → Option Bytes
  | 0, b => some b
  | _ + 1, [] => some []
  | fuel + 1, t :: rest =>
    if t = 0x80 || t = 0xA0 then
      match Der.read? (t :: rest) with
      | none => none
      | some (_, rest) => skipAttributes? fuel rest
    else some (t :: rest)

/-- A public key, if one is there: whole bytes under tag number one. -/
def publicPart? : Bytes → Option (Bool × Bytes)
  | [] => some (false, [])
  | t :: rest =>
    if t = 0xA1 then none
    else if t = 0x81 then
      match Der.read? (t :: rest) with
      | some (e, rest) => if e.content.head? = some 0 then some (true, rest) else none
      | none => none
    else some (false, t :: rest)

/-- Elements of other numbers are ignored when each wraps exactly one element. -/
def ignoreRest? : (fuel : Nat) → Bytes → Option Unit
  | _, [] => some ()
  | 0, _ :: _ => none
  | fuel + 1, t :: rest =>
    match Der.read? (t :: rest) with
    | none => none
    | some (e, rest) =>
      if e.tag &&& 0xE0 = 0xA0 && (Der.read? e.content).any (·.2.isEmpty) then ignoreRest? fuel rest
      else none

def pkcs8? (b : Bytes) : Option PrivateKey := do
  let b ← Der.whole? Der.sequenceTag b
  let (version, b) ← Der.readNat? b
  let (algorithm, b) ← Der.readTagged? Der.sequenceTag b
  let (key, b) ← Der.readTagged? Der.octetsTag b
  let b ← skipAttributes? b.length b
  let (hasPublic, b) ← publicPart? b
  let _ ← ignoreRest? b.length b
  if algorithm = rsaAlgorithm && version = (if hasPublic then 1 else 0) then pkcs1? key else none

/-- The numbers of the bare form, the three redundant ones included. -/
def numbers (k : PrivateKey) (inverse : Nat) : List Nat :=
  [0, k.modulus, k.publicExponent, k.privateExponent, k.prime1, k.prime2,
   k.privateExponent % (k.prime1 - 1), k.privateExponent % (k.prime2 - 1), inverse]

def pkcs1 (k : PrivateKey) (inverse : Nat) : Bytes :=
  Der.element Der.sequenceTag ((numbers k inverse).flatMap Der.nat)

def pkcs8 (k : PrivateKey) (inverse : Nat) : Bytes :=
  Der.element Der.sequenceTag
    (Der.nat 0 ++ Der.element Der.sequenceTag rsaAlgorithm ++
      Der.element Der.octetsTag (pkcs1 k inverse))

/-- The text of one container; what is too long is not encoded. -/
def armour? (label : String) (content : Bytes) : Option Bytes :=
  if content.length ≤ Der.maxLength then some (Pem.bytes ⟨label, content⟩) else none

def pkcs1Text? (k : PrivateKey) (inverse : Nat) : Option Bytes :=
  armour? pkcs1Label (pkcs1 k inverse)

def pkcs8Text? (k : PrivateKey) (inverse : Nat) : Option Bytes :=
  armour? pkcs8Label (pkcs8 k inverse)

/-- The first octet or bit string, looked for inside sequences as they come. -/
def firstString? : (fuel : Nat) → Bytes → Option Bytes
  | 0, _ => none
  | fuel + 1, b =>
    match Der.read? b with
    | none => none
    | some (e, rest) =>
      if e.tag = Der.octetsTag then some e.content
      else if e.tag = Der.bitsTag then some (e.content.drop 1)
      else
        let inside := if e.tag = Der.sequenceTag then firstString? fuel e.content else none
        inside.or (firstString? fuel rest)

/-- The key to sign with, which is read apart from the rest: inside PKCS #8 it is the first string
of bytes, whatever stands around that. -/
def signing? (p : Pem) : Option PrivateKey :=
  if p.label = pkcs1Label then pkcs1? p.content
  else if p.label = pkcs8Label then (firstString? p.content.length p.content).bind pkcs1?
  else none

end Turnstile.Rsa.Container

namespace Turnstile.Rsa

inductive KeyError
  | pem
  | unsupportedLabel (label : String)
  | rsa
  deriving DecidableEq, Repr

def KeyError.message : KeyError → String
  | .pem => "malformed PEM block"
  | .unsupportedLabel label =>
    s!"unsupported PEM block '{label}', expected RSA PRIVATE KEY or PRIVATE KEY"
  | .rsa => "malformed RSA key"

/-- The content of either container, chosen by its label. -/
def Container.read? (p : Pem) : Except KeyError PrivateKey :=
  let key :=
    if p.label = Container.pkcs1Label then some (Container.pkcs1? p.content)
    else if p.label = Container.pkcs8Label then some (Container.pkcs8? p.content)
    else none
  match key with
  | none => .error (.unsupportedLabel p.label)
  | some none => .error .rsa
  | some (some k) => if k.IsConsistent then .ok k else .error .rsa

def PrivateKey.ofPem (b : Bytes) : Except KeyError PrivateKey :=
  match Pem.ofBytes? b with
  | none => .error .pem
  | some p => Container.read? p

def PrivateKey.signing? (b : Bytes) : Option PrivateKey :=
  (Pem.ofBytes? b).bind Container.signing?

end Turnstile.Rsa
