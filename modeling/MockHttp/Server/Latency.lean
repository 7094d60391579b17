/-!
# Simulated latency

Before a handler runs, the server waits for a random time up to a greatest one. Waiting can be
switched off, which ends every wait that is going on, and on again.
-/

namespace MockHttp.Server

/-- How long the server waits. Times are in milliseconds. -/
structure Latency where
  /-- The greatest time; with zero there is no waiting. -/
  maxDelay : Nat
  /-- Waiting is switched off. -/
  disabled : Bool := false
  deriving DecidableEq, Repr

namespace Latency

def disable (l : Latency) : Latency := { l with disabled := true }

def enable (l : Latency) : Latency := { l with disabled := false }

/-- There is no waiting. -/
def isOff (l : Latency) : Bool := l.disabled || l.maxDelay == 0

/-- The time that a wait takes: the one that a random number picks, or the time after which waiting
is switched off if that comes first. -/
def wait (l : Latency) (random : Nat) (disabledAfter : Option Nat) : Nat :=
  if l.isOff then 0
  else
    let delay := random % (l.maxDelay + 1)
    match disabledAfter with
    | some time => min delay time
    | none => delay

end Latency

end MockHttp.Server
