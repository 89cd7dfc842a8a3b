/-! The channel on which the service is asked to shut down: any number of signals, one listener,
and the reasons not yet received, oldest first. -/

namespace Turnstile.Shutdown

structure Channel where
  signals : Nat
  listening : Bool
  queue : List String
  deriving DecidableEq, Repr

inductive Received
  | reason (text : String)
  | pending
  | closed
  deriving DecidableEq, Repr

namespace Channel

def new : Channel := ⟨1, true, []⟩

/-- Delivers a reason, and tells whether anyone listens. -/
def signal (c : Channel) (reason : String) : Channel × Bool :=
  if c.listening then ({ c with queue := c.queue ++ [reason] }, true) else (c, false)

/-- A dropped signal cannot be cloned. -/
def clone (c : Channel) : Channel :=
  { c with signals := if c.signals = 0 then 0 else c.signals + 1 }

def dropSignal (c : Channel) : Channel := { c with signals := c.signals - 1 }

/-- What was not received is lost. -/
def dropListener (c : Channel) : Channel := { c with listening := false, queue := [] }

/-- Takes the oldest reason. -/
def receive (c : Channel) : Channel × Received :=
  match c.queue with
  | reason :: rest => ({ c with queue := rest }, .reason reason)
  | [] => (c, if c.signals = 0 then .closed else .pending)

end Channel

/-- What may be done with the two ends of a channel. -/
inductive Step
  | signal (reason : String)
  | clone
  | dropSignal
  | dropListener
  | tryReceive
  | receive
  deriving DecidableEq, Repr

inductive Answer
  | delivered (listening : Bool)
  | signals (left : Nat)
  | dropped
  | tried (reason : Option String)
  | received (r : Received)
  | noSignal
  | noListener
  deriving DecidableEq, Repr

namespace Channel

/-- The end that a step needs may be gone; then nothing happens. -/
def step (c : Channel) : Step → Channel × Answer
  | .signal reason =>
    if c.signals = 0 then (c, .noSignal)
    else ((c.signal reason).1, .delivered (c.signal reason).2)
  | .clone => (c.clone, .signals c.clone.signals)
  | .dropSignal => (c.dropSignal, .signals c.dropSignal.signals)
  | .dropListener => (c.dropListener, .dropped)
  | .tryReceive => if c.listening then (c.receive.1, .tried c.queue.head?) else (c, .noListener)
  | .receive => if c.listening then (c.receive.1, .received c.receive.2) else (c, .noListener)

end Channel

end Turnstile.Shutdown
