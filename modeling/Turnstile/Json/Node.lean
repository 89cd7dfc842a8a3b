import Turnstile.Json.Text

/-! Parsed JSON: a tree over the tokens, built with a stack of open containers, so that depth has
no limit here. Strings and numbers stay as written. -/

namespace Turnstile.Json

inductive Node
  | null
  | bool (b : Bool)
  | number (n : Numeral)
  | text (pieces : List Piece)
  | array (items : List Node)
  | object (members : List (List Piece × Node))

namespace Node

/-- An open container: what it holds so far, last first, and the key whose value is under way. -/
inductive Frame
  | array (done : List Node)
  | object (done : List (List Piece × Node)) (key : List Piece)

/-- What may come next. -/
inductive State
  | value (stack : List Frame)
  | firstItem (stack : List Frame)
  | firstKey (stack : List Frame)
  | key (done : List (List Piece × Node)) (stack : List Frame)
  | colon (done : List (List Piece × Node)) (key : List Piece) (stack : List Frame)
  | after (node : Node) (stack : List Frame)

def stepValue (stack : List Frame) : Token → Option State
  | .null => some (.after .null stack)
  | .bool b => some (.after (.bool b) stack)
  | .number n => some (.after (.number n) stack)
  | .text p => some (.after (.text p) stack)
  | .openArray => some (.firstItem stack)
  | .openObject => some (.firstKey stack)
  | _ => none

def step : State → Token → Option State
  | .value stack, t => stepValue stack t
  | .firstItem stack, .closeArray => some (.after (.array []) stack)
  | .firstItem stack, t => stepValue (.array [] :: stack) t
  | .firstKey stack, .closeObject => some (.after (.object []) stack)
  | .firstKey stack, .text key => some (.colon [] key stack)
  | .firstKey _, _ => none
  | .key done stack, .text key => some (.colon done key stack)
  | .key _ _, _ => none
  | .colon done key stack, .colon => some (.value (.object done key :: stack))
  | .colon _ _ _, _ => none
  | .after v (.array done :: stack), .comma => some (.value (.array (v :: done) :: stack))
  | .after v (.array done :: stack), .closeArray => some (.after (.array (v :: done).reverse) stack)
  | .after v (.object done key :: stack), .comma => some (.key ((key, v) :: done) stack)
  | .after v (.object done key :: stack), .closeObject =>
    some (.after (.object ((key, v) :: done).reverse) stack)
  | .after _ _, _ => none

def run (s : State) : List Token → Option State
  | [] => some s
  | t :: rest =>
    match step s t with
    | none => none
    | some s => run s rest

def ofTokens? (ts : List Token) : Option Node :=
  match run (.value []) ts with
  | some (.after node []) => some node
  | _ => none

def ofBytes? (b : Bytes) : Option Node := (Token.ofBytes? b).bind ofTokens?

def text? : Node → Option String
  | .text pieces => textOf? pieces
  | _ => none

def int64? : Node → Option Int
  | .number n => n.int64?
  | _ => none

def items? : Node → Option (List Node)
  | .array items => some items
  | _ => none

def texts? (n : Node) : Option (List String) := n.items?.bind (·.mapM text?)

def isNull : Node → Bool
  | .null => true
  | _ => false

/-- The members of an object whose keys are all text. -/
def members? : Node → Option (List (String × Node))
  | .object ms => ms.mapM fun (key, v) => (textOf? key).map (·, v)
  | _ => none

end Node

/-- Reads the member `name`: a repeated one fails, an absent one is `absent`. -/
def field? {α : Type} (ms : List (String × Node)) (name : String) (absent : Option α)
    (read : Node → Option α) : Option α :=
  match ms.filter (·.1 == name) with
  | [] => absent
  | [(_, v)] => read v
  | _ => none

/-- A name, given as a string or as the only key of an object over null. -/
def tag? : Node → Option String
  | .object [(key, .null)] => textOf? key
  | n => n.text?

def name? (names : List String) (n : Node) : Option String := (tag? n).filter names.contains

end Turnstile.Json
