import Turnstile.AuthError
import Turnstile.KeyStore
import Turnstile.Rsa.Signature
import Turnstile.Token.Claims
import Turnstile.Token.Header

/-! Signed tokens: header, payload and signature between dots, each in base64. A token is read
from its header on, and the payload only once the signature holds. -/

namespace Turnstile

namespace Token

def encodePart (b : Bytes) : Bytes := Base64.urlSafe.encode b

def decodePart? (b : Bytes) : Option Bytes := Base64.urlSafe.decode? b

/-- The text that is signed. -/
def signingInput (kid : String) (claims : Claims) : Bytes :=
  encodePart (Header.json kid).bytes ++ 46 :: encodePart claims.json.bytes

def sign (key : Rsa.PrivateKey) (kid : String) (claims : Claims) : Except Rsa.SigningFault Bytes :=
  (Rsa.sign key (signingInput kid claims)).map fun s =>
    signingInput kid claims ++ 46 :: encodePart s

/-- The three parts around the last two dots. -/
structure Parts where
  header : Bytes
  payload : Bytes
  signature : Bytes
  deriving DecidableEq, Repr

def Parts.ofBytes? (token : Bytes) : Option Parts :=
  match Bytes.splitLast? 46 token with
  | none => none
  | some (signed, signature) =>
    (Bytes.splitLast? 46 signed).map fun (header, payload) => ⟨header, payload, signature⟩

def Parts.signed (p : Parts) : Bytes := p.header ++ 46 :: p.payload

open Json

/-- Surrogates come in pairs, but for a leading one at the very end. -/
def pairsSurrogates : List Piece → Bool
  | [] => true
  | .byte _ :: rest => pairsSurrogates rest
  | .unit u :: rest =>
    if isLead u then
      match rest with
      | [] => true
      | .unit v :: rest => isTrail v && pairsSurrogates rest
      | .byte _ :: _ => false
    else !isTrail u && pairsSurrogates rest

/-- Containers below the payload nest at most this deep. -/
def maxPayloadDepth : Nat := Value.maxDepth - 1

/-- A start of validity is not enforced; it may be any value but a container with content. -/
def isNotBefore : Node → Bool
  | .text p => pairsSurrogates p
  | .array items => items.isEmpty
  | .object ms => ms.isEmpty
  | _ => true

/-- An audience is not enforced either, and any value will do. -/
def isAudience : Node → Bool
  | .text p => pairsSurrogates p
  | .array items => (Value.ofNode? maxPayloadDepth (.array items)).isSome
  | .object ms => (Value.ofNode? maxPayloadDepth (.object ms)).isSome
  | _ => true

def accepts (ms : List (String × Node)) (name : String) (ok : Node → Bool) : Bool :=
  (field? ms name (some ()) fun n => if ok n then some () else none).isSome

/-- The claims of a payload, which is an object that does not expire before 1970. -/
def claimsOf? (payload : Bytes) : Option Claims := do
  let node ← Node.ofBytes? payload
  let ms ← node.members?
  let claims ← Claims.ofMembers? ms
  if 0 ≤ claims.expires && accepts ms "nbf" isNotBefore && accepts ms "aud" isAudience then
    some claims
  else none

def headerOf? (p : Parts) : Option Header := (decodePart? p.header).bind Header.ofJson?

/-- Checks the stages in order; the first that fails gives the error. -/
def validate (keys : KeyStore) (token : Bytes) (now : Int) : Except AuthError Claims :=
  match (Parts.ofBytes? token).bind fun p => (headerOf? p).map (p, ·) with
  | none => .error .malformedToken
  | some (p, header) =>
    if header.algorithm ≠ .rs256 then .error (.disallowedAlgorithm header.algorithm.name)
    else match header.kid with
    | none => .error .missingKid
    | some kid =>
      match keys.publicKey? kid with
      | none => .error (.keyNotFound kid)
      | some key =>
        match decodePart? p.signature with
        | none => .error .malformedToken
        | some signature =>
          if !Rsa.verify key p.signed signature then .error .invalidSignature
          else match (decodePart? p.payload).bind claimsOf? with
          | none => .error .malformedToken
          | some claims => if claims.expires ≤ now then .error .tokenExpired else .ok claims

end Token

/-- Signs tokens with the key of one name and checks tokens against the whole store. -/
structure Authenticator where
  activeKid : String
  deriving DecidableEq, Repr

/-- A token is not made: refused, or given up by the signer. -/
inductive MintError
  | refused (e : AuthError)
  | fault (f : Rsa.SigningFault)
  deriving DecidableEq, Repr

namespace Authenticator

def isReady (a : Authenticator) (keys : KeyStore) : Bool := (keys.privateKey? a.activeKid).isSome

/-- The active key has to be in the store. -/
def new (keys : KeyStore) (kid : String) : Except AuthError Authenticator :=
  if (keys.privateKey? kid).isSome then .ok ⟨kid⟩ else .error (.activeKeyMissing kid)

def generate (a : Authenticator) (keys : KeyStore) (claims : Claims) : Except MintError Bytes :=
  match keys.privateKey? a.activeKid with
  | none => .error (.refused .privateKeyLookup)
  | some key =>
    match Token.sign key a.activeKid claims with
    | .ok token => .ok token
    | .error f => .error (.fault f)

/-- Any key of the store may have signed the token, whatever the active one is. -/
def validate (_ : Authenticator) (keys : KeyStore) (token : Bytes) (now : Int) :
    Except AuthError Claims :=
  Token.validate keys token now

end Authenticator

end Turnstile
