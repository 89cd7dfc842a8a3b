/-! Points in time and spans between them, to the nanosecond. A point inside a leap second has
more than a second's worth of nanoseconds. -/

namespace Turnstile

def nanosPerSecond : Int := 1000000000

/-- Seconds since the start of 1970 and nanoseconds below two seconds. -/
structure Instant where
  seconds : Int
  nanos : Int
  deriving DecidableEq, Repr

/-- A signed length: whole seconds, and nanoseconds from zero up to a second. -/
structure Span where
  seconds : Int
  nanos : Int
  deriving DecidableEq, Repr

namespace Instant

def minSeconds : Int := -8334601228800
def maxSeconds : Int := 8210266876799

def ofSeconds (s : Int) : Instant := ⟨s, 0⟩

/-- Whole seconds of the sum. A leap second is left towards the second after it when time moves
on and towards the one before it when time moves back. -/
def addSeconds (t : Instant) (d : Span) : Int :=
  let whole := if d.seconds < 0 && 0 < d.nanos then d.seconds + 1 else d.seconds
  let part := if d.seconds < 0 && 0 < d.nanos then d.nanos - nanosPerSecond else d.nanos
  let leap := nanosPerSecond ≤ t.nanos
  if leap && !(0 < whole) && !(0 < part && 2 * nanosPerSecond ≤ t.nanos + part) && !(whole < 0) then
    t.seconds
  else
    let start :=
      if leap && !(0 < whole || (0 < part && 2 * nanosPerSecond ≤ t.nanos + part)) then t.seconds + 1
      else t.seconds
    let nanos := (if leap then t.nanos - nanosPerSecond else t.nanos) + part
    start + whole + (if nanos < 0 then -1 else if nanosPerSecond ≤ nanos then 1 else 0)

def inRange (seconds : Int) : Bool := minSeconds ≤ seconds && seconds ≤ maxSeconds

/-- The sum in whole seconds, none when it leaves the calendar. -/
def addSeconds? (t : Instant) (d : Span) : Option Int :=
  (some (t.addSeconds d)).filter inRange

end Instant

namespace Span

/-- Spans are counted in signed 64-bit milliseconds. -/
def maxSeconds : Int := 9223372036854775

def ofSeconds? (s : Int) : Option Span :=
  if -maxSeconds ≤ s && s ≤ maxSeconds then some ⟨s, 0⟩ else none

end Span

end Turnstile
