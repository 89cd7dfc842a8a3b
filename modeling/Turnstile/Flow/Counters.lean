import Std.Data.TreeMap

/-! Request counters by route, and their text exposition. -/

namespace Turnstile

structure Counters where
  requests : Std.TreeMap String Nat
  errors : Std.TreeMap String Nat
  panics : Std.TreeMap String Nat

/-- How a counted request ended. -/
inductive Ending
  | answered
  | failed
  | panicked
  deriving DecidableEq, Repr

namespace Counters

def zero : Counters := ⟨∅, ∅, ∅⟩

def bump (m : Std.TreeMap String Nat) (path : String) : Std.TreeMap String Nat :=
  m.insert path (m.getD path 0 + 1)

/-- Every request counts as one, a failed one also as an error, a panicked one as both. -/
def record (c : Counters) (path : String) : Ending → Counters
  | .answered => { c with requests := bump c.requests path }
  | .failed => { c with requests := bump c.requests path, errors := bump c.errors path }
  | .panicked => ⟨bump c.requests path, bump c.errors path, bump c.panics path⟩

/-- Quotes and line ends are escaped; so is a backslash that does not escape the sign after it. -/
def labelChars (pending : Bool) : List Char → List Char
  | [] => if pending then ['\\', '\\'] else []
  | c :: rest =>
    if c = '\n' then '\\' :: 'n' :: labelChars pending rest
    else if c = '"' then '\\' :: '"' :: labelChars false rest
    else if c = '\\' then
      if pending then '\\' :: '\\' :: labelChars false rest else labelChars true rest
    else if pending then '\\' :: '\\' :: c :: labelChars false rest
    else c :: labelChars false rest

def line (name : String) (path : String) (count : Nat) : String :=
  name ++ "\x7bpath=\"" ++ String.ofList (labelChars false path.toList) ++ "\"\x7d " ++
    toString count ++ "\n"

/-- A family without counts is left out. -/
def family (name : String) (m : Std.TreeMap String Nat) : String :=
  if m.isEmpty then ""
  else
    s!"# TYPE {name} counter\n" ++ String.join (m.toList.map fun (path, n) => line name path n) ++
      "\n"

def render (c : Counters) : String :=
  family "authgate_errors_total" c.errors ++ family "authgate_panics_total" c.panics ++
    family "authgate_requests_total" c.requests

end Counters

end Turnstile
