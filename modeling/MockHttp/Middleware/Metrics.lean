import MockHttp.Step

/-!
# Metrics

Counters of requests and of their outcomes. They count what the observer for metrics is told, as
often as it is told.
-/

namespace MockHttp.Middleware

open Http

/-- Counters of requests and outcomes. -/
structure Metrics where
  requests : Nat := 0
  successes : Nat := 0
  failures : Nat := 0
  /-- The outcomes by the first of the three digits of their status, from 1 to 5. -/
  classes : List Nat := [0, 0, 0, 0, 0]
  deriving DecidableEq, Repr

namespace Metrics

/-- The counters by class with the class of a status counted, if it is one of them. -/
def countClass (classes : List Nat) (status : Nat) : List Nat :=
  if status < 100 then classes else classes.modify (status / 100 - 1) (· + 1)

def countRequest (m : Metrics) : Metrics := { m with requests := m.requests + 1 }

def countOutcome (m : Metrics) : Outcome → Metrics
  | .ok response =>
    { m with successes := m.successes + 1, classes := countClass m.classes response.status }
  | .error failure =>
    { m with
      failures := m.failures + 1
      classes := countClass m.classes failure.response.status }

def count (m : Metrics) : Step → Metrics
  | .before .metrics _ => m.countRequest
  | .after .metrics _ outcome => m.countOutcome outcome
  | _ => m

def countAll (m : Metrics) (steps : List Step) : Metrics := steps.foldl count m

def completed (m : Metrics) : Nat := m.successes + m.failures

end Metrics

end MockHttp.Middleware
