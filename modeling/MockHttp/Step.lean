import MockHttp.Http.Exchange
import MockHttp.Log.Event

/-!
# Steps

What happens while a request is under way, as steps in the order in which they are taken. All that
client and server do besides giving a result is a step, so that a list of steps says what ran, how
often and on what.
-/

namespace MockHttp

open Http

/-- Who is told about requests and their outcomes. -/
inductive Observer where
  /-- Counts them. -/
  | metrics
  /-- Reports them as log events. -/
  | tracing
  /-- Pays no attention. -/
  | silent
  /-- Records them under a name. -/
  | recorder (name : String)
  deriving DecidableEq, Repr

/-- A step on the way of a request. -/
inductive Step where
  /-- An event is logged. -/
  | log (event : Log.Event)
  /-- The request transform of a name is applied to a request. -/
  | transformRequest (name : String) (request : Request)
  /-- An observer is told about a request that is about to be sent. -/
  | before (observer : Observer) (request : Request)
  /-- The driver is called. -/
  | call (request : Request)
  /-- The server waits for a random time up to a greatest one. -/
  | wait (greatest : Nat)
  /-- The handler of the route with a number runs. -/
  | handle (route : Nat) (request : Request)
  /-- What answers the requests that no route matches is called. -/
  | fallback (request : Request)
  /-- A driver that was handed over takes a step of its own. -/
  | outside (step : Step)
  /-- The response transform of a name is applied to a response. -/
  | transformResponse (name : String) (response : Response)
  /-- An observer is told about the outcome of a request. -/
  | after (observer : Observer) (request : Request) (outcome : Outcome)

/-- The log event that a step is, whoever logs it. -/
def Step.event? : Step → Option Log.Event
  | log event => some event
  | outside step => step.event?
  | _ => none

/-- What answers requests. -/
abbrev Driver := Request → Traced Step Outcome

def Step.emit (level : Log.Level) (origin : Log.Origin) (message : String)
    (fields : List (String × Log.FieldValue)) : Traced Step Unit :=
  (Log.Logged.emit level origin message fields).mapSteps log

end MockHttp
