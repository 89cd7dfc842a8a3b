import Turnstile.Flow.Counters
import Turnstile.Flow.Event

/-! What a request gives off on its way, in order: events, counts, and the notes of probes. Nothing
that answers a request can look back at them. -/

namespace Turnstile

inductive Effect
  | event (e : Event)
  | count (path : String) (ending : Ending)
  | note (line : String)
  deriving DecidableEq, Repr

namespace Effect

def event? : Effect → Option Event
  | event e => some e
  | _ => none

def note? : Effect → Option String
  | note line => some line
  | _ => none

def events (es : List Effect) : List Event := es.filterMap event?

def notes (es : List Effect) : List String := es.filterMap note?

end Effect

namespace Counters

def apply (c : Counters) : Effect → Counters
  | .count path ending => c.record path ending
  | _ => c

/-- The counters after all counts among the effects. -/
def applyAll (c : Counters) (es : List Effect) : Counters := es.foldl apply c

end Counters

end Turnstile
