import Turnstile.Json.Value

/-! Token headers: the signature algorithm, the key's name, and what else a header may hold. -/

namespace Turnstile

inductive Algorithm
  | hs256 | hs384 | hs512
  | es256 | es384
  | rs256 | rs384 | rs512
  | ps256 | ps384 | ps512
  | edDsa
  deriving DecidableEq, Repr

namespace Algorithm

def all : List Algorithm :=
  [hs256, hs384, hs512, es256, es384, rs256, rs384, rs512, ps256, ps384, ps512, edDsa]

def name : Algorithm → String
  | hs256 => "HS256"
  | hs384 => "HS384"
  | hs512 => "HS512"
  | es256 => "ES256"
  | es384 => "ES384"
  | rs256 => "RS256"
  | rs384 => "RS384"
  | rs512 => "RS512"
  | ps256 => "PS256"
  | ps384 => "PS384"
  | ps512 => "PS512"
  | edDsa => "EdDSA"

def ofName? (s : String) : Option Algorithm := all.find? (·.name == s)

def ofNode? (n : Json.Node) : Option Algorithm := (Json.name? (all.map name) n).bind ofName?

end Algorithm

structure Header where
  algorithm : Algorithm
  kid : Option String
  deriving DecidableEq, Repr

namespace Header

open Json

/-- A string, or null for none. -/
def optionalText? (ms : List (String × Node)) (name : String) : Option (Option String) :=
  field? ms name (some none) fun n => if n.isNull then some none else n.text?.map some

def optionalTexts? (ms : List (String × Node)) (name : String) : Option Unit :=
  field? ms name (some ()) fun n => if n.isNull then some () else n.texts?.map fun _ => ()

/-- The key parameters of one kind: its name and the strings it needs. -/
structure KeyKind where
  name : String
  strings : List String
  curves : List String

def keyKinds : List KeyKind :=
  [⟨"EC", ["x", "y"], ["P-256", "P-384", "P-521", "Ed25519"]⟩,
   ⟨"RSA", ["n", "e"], []⟩,
   ⟨"oct", ["k"], []⟩,
   ⟨"OKP", ["x"], ["P-256", "P-384", "P-521", "Ed25519"]⟩]

def KeyKind.accepts (k : KeyKind) (ms : List (String × Node)) : Bool :=
  (field? ms "kty" none (name? [k.name])).isSome &&
    k.strings.all (fun s => (field? ms s none Node.text?).isSome) &&
    (k.curves.isEmpty || (field? ms "crv" none (name? k.curves)).isSome)

/-- Containers inside a key that a header embeds nest at most this deep. -/
def maxKeyDepth : Nat := Value.maxDepth - 1

/-- An embedded key, which is checked for its form and not used. -/
def isEmbeddedKey (n : Node) : Bool :=
  match n.members?, Value.ofNode? maxKeyDepth n with
  | some ms, some _ =>
    keyKinds.any (·.accepts ms) &&
      ["use", "kid", "x5u", "x5t", "x5t#S256"].all (fun s => (optionalText? ms s).isSome) &&
      (optionalTexts? ms "key_ops").isSome && (optionalTexts? ms "x5c").isSome &&
      (field? ms "alg" (some ()) fun n =>
        if n.isNull || (tag? n).isSome then some () else none).isSome
  | _, _ => false

def textNames : List String :=
  ["typ", "cty", "jku", "kid", "x5u", "x5t", "x5t#S256", "enc", "zip", "url", "nonce"]

def knownNames : List String := "alg" :: "jwk" :: "x5c" :: "crit" :: textNames

/-- Members without a meaning of their own have to be strings. -/
def ofMembers? (ms : List (String × Node)) : Option Header := do
  let algorithm ← field? ms "alg" none Algorithm.ofNode?
  let kid ← optionalText? ms "kid"
  let _ ← optionalTexts? ms "x5c"
  let _ ← optionalTexts? ms "crit"
  let _ ← field? ms "jwk" (some ()) fun n =>
    if n.isNull || isEmbeddedKey n then some () else none
  if textNames.all (fun s => (optionalText? ms s).isSome) &&
      ms.all (fun m => knownNames.contains m.1 || m.2.text?.isSome) then
    some ⟨algorithm, kid⟩
  else none

def ofJson? (b : Bytes) : Option Header :=
  (Node.ofBytes? b).bind fun n => n.members?.bind ofMembers?

/-- The header of a token that this library signs. -/
def json (kid : String) : Value :=
  .object [("typ", .text "JWT"), ("alg", .text Algorithm.rs256.name), ("kid", .text kid)]

end Header

end Turnstile
