import Turnstile.Rsa.Container
import Std.Data.TreeMap

/-! Signing keys by their name. -/

namespace Turnstile

structure KeyStore where
  keys : Std.TreeMap String Rsa.PrivateKey

namespace KeyStore

def empty : KeyStore := ⟨∅⟩

/-- Puts the key under the name, in the place of any key there. -/
def insert (s : KeyStore) (kid : String) (key : Rsa.PrivateKey) : KeyStore :=
  ⟨s.keys.insert kid key⟩

def ofList (keys : List (String × Rsa.PrivateKey)) : KeyStore :=
  keys.foldl (fun s k => s.insert k.1 k.2) empty

/-- Reads a key and puts it under the name; a key that does not read leaves the store alone. -/
def add (s : KeyStore) (kid : String) (pem : Bytes) : Except Rsa.KeyError KeyStore :=
  (Rsa.PrivateKey.ofPem pem).map (s.insert kid)

/-- The store without the key, and whether there was one. -/
def remove (s : KeyStore) (kid : String) : KeyStore × Bool :=
  (⟨s.keys.erase kid⟩, s.keys.contains kid)

def privateKey? (s : KeyStore) (kid : String) : Option Rsa.PrivateKey := s.keys[kid]?

def publicKey? (s : KeyStore) (kid : String) : Option Rsa.PublicKey :=
  (s.privateKey? kid).map (·.public)

/-- Names in ascending order. -/
def kids (s : KeyStore) : List String := s.keys.keys

def size (s : KeyStore) : Nat := s.keys.size

def isEmpty (s : KeyStore) : Bool := s.size = 0

def notFoundMessage : String := "key not found"

end KeyStore

end Turnstile
