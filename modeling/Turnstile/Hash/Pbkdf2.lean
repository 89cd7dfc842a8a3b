import Turnstile.Hash.Sha256

/-! Keyed digests and password stretching over SHA-256. -/

namespace Turnstile

namespace Hmac

def blockLength : Nat := 64

/-- A key longer than a block is replaced by its digest; a shorter one is filled up with zeros. -/
def blockKey (key : Bytes) : Bytes :=
  let short := if key.length > blockLength then Sha256.digest key else key
  short ++ List.replicate (blockLength - short.length) 0

def digest (key message : Bytes) : Bytes :=
  let k := blockKey key
  Sha256.digest (k.map (· ^^^ 0x5c) ++ Sha256.digest (k.map (· ^^^ 0x36) ++ message))

end Hmac

namespace Pbkdf2

/-- The running exclusive-or of the chain and its last link. -/
def link (password : Bytes) (s : Bytes × Bytes) : Bytes × Bytes :=
  let next := Hmac.digest password s.2
  (Bytes.xor s.1 next, next)

/-- The first 32 derived bytes. -/
def derive (password salt : Bytes) (iterations : Nat) : Bytes :=
  let first := Hmac.digest password (salt ++ [0, 0, 0, 1])
  (Nat.repeat (link password) (iterations - 1) (first, first)).1

end Pbkdf2

end Turnstile
