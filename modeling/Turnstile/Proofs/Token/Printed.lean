import Turnstile.Proofs.Token.Reading

/-! The header and the payload of a minted token: what is printed holds the key's name and the
claims, and nothing unusual. -/

namespace Turnstile

open Json

namespace Header

/-- A header with any type; that of a minted token is the text `JWT`. -/
def value (type : Value) (kid : String) : Value :=
  .object [("typ", type), ("alg", .text Algorithm.rs256.name), ("kid", .text kid)]

/-- The members of a printed header. -/
def printed (type : Value) (kid : String) : List (String × Node) :=
  [("typ", type.node), ("alg", (Value.text Algorithm.rs256.name).node), ("kid", (Value.text kid).node)]

variable (type : Value) (kid : String)

theorem names_printed : Names (printed type kid) kid where
  algorithm := ⟨_, sole_iff.2 (by simp [printed]), Value.tag?_node _⟩
  kid := ⟨_, sole_iff.2 (by simp [printed]), Value.text?_node _⟩

theorem isPlain_printed : IsPlain (printed type kid) := by
  simp [IsPlain, printed]

theorem isTyped_printed (s : String) : IsTyped (printed (.text s) kid) :=
  Or.inr ⟨(Value.text s).node, sole_iff.2 (by simp [printed]), Or.inr (by simp)⟩

theorem objectText_printed {type : Value} (h : type.IsWhole) :
    ObjectText (value type kid).bytes (printed type kid) :=
  objectText_bytes ⟨h, trivial, trivial, trivial⟩

end Header

namespace Claims

def printed (c : Claims) : List (String × Node) :=
  [("iss", (Value.text c.issuer).node), ("sub", (Value.text c.subject).node),
    ("iat", (Value.int c.issuedAt).node), ("exp", (Value.int c.expires).node),
    ("roles", (Value.texts c.roles).node)]

theorem in_printed {c : Claims} (hiat : Word.isSigned64 c.issuedAt = true)
    (hexp : Word.isSigned64 c.expires = true) : c.In (printed c) where
  issuer := ⟨_, sole_iff.2 (by simp [printed]), Value.text?_node _⟩
  subject := ⟨_, sole_iff.2 (by simp [printed]), Value.text?_node _⟩
  issuedAt := ⟨_, sole_iff.2 (by simp [printed]), Value.int64?_node hiat⟩
  expires := ⟨_, sole_iff.2 (by simp [printed]), Value.int64?_node hexp⟩
  roles := Or.inl ⟨_, sole_iff.2 (by simp [printed]), Value.texts?_node _⟩

theorem isPlain_printed (c : Claims) : IsPlain (printed c) := by
  simp [IsPlain, printed]

theorem objectText_json (c : Claims) : ObjectText c.json.bytes (printed c) :=
  objectText_bytes ⟨trivial, trivial, trivial, trivial, Value.allWhole_texts c.roles, trivial⟩

end Claims

namespace Token

/-- A printed header and printed claims, and a signature. -/
def Parts.printed (type : Value) (kid : String) (claims : Claims) (signature : Bytes) : Parts where
  header := encodePart (Header.value type kid).bytes
  payload := encodePart claims.json.bytes
  signature := encodePart signature

def Parts.joined (p : Parts) : Bytes := p.signed ++ 46 :: p.signature

theorem Parts.cutOf_printed (type : Value) (kid : String) (claims : Claims) (signature : Bytes) :
    (printed type kid claims signature).CutOf (printed type kid claims signature).joined :=
  ⟨rfl, dot_notMem_encodePart _, dot_notMem_encodePart _⟩

end Token

end Turnstile
