import Turnstile.Hash.Sha256
import Turnstile.Rsa.Key

/-! Signatures of the PKCS #1 v1.5 scheme with SHA-256. -/

namespace Turnstile.Rsa

/-- Names the digest algorithm in front of the digest. -/
def digestInfo : Bytes :=
  [0x30, 0x31, 0x30, 0x0d, 0x06, 0x09, 0x60, 0x86, 0x48, 0x01, 0x65, 0x03, 0x04, 0x02, 0x01, 0x05,
   0x00, 0x04, 0x20]

/-- Bytes that the shortest padded digest takes. -/
def minSize : Nat := 62

/-- The padded digest of a message, `size` bytes long; none when they are too few. -/
def encodeDigest? (size : Nat) (message : Bytes) : Option Bytes :=
  if size < minSize then none
  else
    some ([0x00, 0x01] ++ List.replicate (size - 54) 0xff ++ [0x00] ++ digestInfo ++
      Sha256.digest message)

inductive SigningFault
  | messageTooLong
  | selfCheck
  deriving DecidableEq, Repr

def SigningFault.message : SigningFault → String
  | .messageTooLong => "signature operation failed: signature::Error \x7b source: Some(message too long) \x7d"
  | .selfCheck => "signature operation failed: signature::Error \x7b source: Some(internal error) \x7d"

/-- Signs and checks the signature before handing it out. -/
def sign (k : PrivateKey) (message : Bytes) : Except SigningFault Bytes :=
  match encodeDigest? k.public.size message with
  | none => .error .messageTooLong
  | some padded =>
    let m := Bytes.toNat padded
    let s := powMod m k.privateExponent k.modulus
    if powMod s k.publicExponent k.modulus = m then .ok (Bytes.ofNat k.public.size s)
    else .error .selfCheck

/-- Keys with a longer modulus verify nothing. -/
def maxVerifySize : Nat := 512

def verify (k : PublicKey) (message signature : Bytes) : Bool :=
  k.size ≤ maxVerifySize && signature.length = k.size &&
    match encodeDigest? k.size message with
    | none => false
    | some padded =>
      let s := Bytes.toNat signature
      s < k.modulus && Bytes.ofNat k.size (powMod s k.exponent k.modulus) == padded

end Turnstile.Rsa
