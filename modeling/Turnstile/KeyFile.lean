import Turnstile.KeyDirectory
import Turnstile.Rsa.Generate
import Turnstile.Uuid

/-! Writing a fresh key into a directory, under a name of its own. -/

namespace Turnstile

inductive NewKeyError
  | generate
  | write (path : Bytes)
  deriving DecidableEq, Repr

/-- A key file that was written, and the tree that holds it. -/
structure NewKey where
  kid : String
  path : Bytes
  content : Bytes
  tree : FileTree

namespace NewKey

/-- Only the owner may read and write the file. -/
def mode : Nat := 0o600

def fileName (kid : String) : Bytes := Bytes.ofString kid ++ 46 :: KeyDirectory.extension

/-- Writes the file unless one of that name is there. -/
def store (root : FileTree) (dir : Bytes) (kid : String) (content : Bytes) :
    Except NewKeyError NewKey :=
  let path := FileTree.join dir (fileName kid)
  match (root.resolve? dir).filter fun place => (root.at? place).any (·.isOpenDir) with
  | none => .error (.write path)
  | some place =>
    if (root.at? (place ++ [fileName kid])).isSome then .error (.write path)
    else .ok ⟨kid, path, content, root.put (place ++ [fileName kid]) (.file content)⟩

/-- Writes a key of the generator; its name is a random identifier. -/
def generate (generator : Rsa.Generator) (root : FileTree) (dir : Bytes) (bits : Nat)
    (e : Entropy) : Except NewKeyError NewKey :=
  match generator bits e with
  | none => .error .generate
  | some (key, e) =>
    match Rsa.Generate.pem? key with
    | none => .error .generate
    | some text => store root dir (Uuid.ofRandom (e.take 16).1) text

end NewKey

end Turnstile
