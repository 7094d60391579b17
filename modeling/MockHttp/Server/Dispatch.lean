import MockHttp.Server.Routes

/-!
# Dispatch

How a server answers a request. The earliest route that matches the url and has the method answers.
If routes match the url under other methods only, the method is not allowed; if none matches, the
request goes to the fallback as it came, or is not found.
-/

namespace MockHttp.Server

open Http Template

/-- What the routes say about a request. -/
inductive Selection where
  /-- The route with this number answers. -/
  | route (number : Nat) (route : Route) (found : RouteMatch)
  /-- The url matches, but under other methods. -/
  | otherMethod
  | nothing
  /-- The expression of a route could not be run to its end. -/
  | gaveUp (route : Route) (error : PatternError)

def idField (r : Request) : String × Log.FieldValue :=
  ("request_id", .text r.id.toString)

/-- The choice among some routes with their numbers, given whether an earlier one matches under
another method. -/
def choose (request : Request) (method : Method) (seen : Bool) :
    List (Route × Nat) → Traced Step Selection
  | [] => return if seen then .otherMethod else .nothing
  | (route, number) :: rest =>
    match route.matchUrl request.url with
    | .error e => return .gaveUp route e
    | .ok none => choose request method seen rest
    | .ok (some found) =>
      if route.method = method then return .route number route found
      else do
        Step.emit .trace .server "Path matched under another method, continuing"
          [idField request, ("route_method", .text route.method.name), ("path", .text route.path)]
        choose request method true rest

def fullUrl (s : Server) (r : Request) : String :=
  match r.baseUrl with
  | some base => (if base.isEmpty then s.baseUrl else base) ++ r.url
  | none => s.baseUrl ++ r.url

/-- The request that the routes are scanned for. -/
def framed (s : Server) (given : Request) : Request :=
  { given with url := s.fullUrl given, method := some (given.method.getD s.method) }

/-- The outcome of a handler that wrote a draft. -/
def conclude (request : Request) (draft : Draft) : Ending → Traced Step Outcome
  | .finished => draft.send
  | .failed message => do
    Step.emit .error .server "Mock handler failed" [idField request, ("error", .text message)]
    return .error (.handler message)
  | .panicked message => do
    let message := message.getD "handler panicked"
    Step.emit .error .server "Mock handler panicked" [idField request, ("panic", .text message)]
    return .error (.handler message)

/-! ## Waiting for others -/

/-- What others make of a server at a step for which it waits. They hold the same server: a handler
may register routes, and so may whoever runs while time passes. -/
abbrev Interference := Step → Server → Server

/-- The server after a step for which it has to wait. -/
def await (others : Interference) (s : Server) (step : Step) : Traced Step Server := do
  Traced.step step
  return others step s

/-- The server after the time that an answer takes at least. -/
def pause (others : Interference) (s : Server) : Traced Step Server :=
  if s.latency.isOff then return s else await others s (.wait s.latency.maxDelay)

/-! ## Answers -/

/-- What is logged before a handler is called: the route, and what the request carries if that may
be. -/
def opening (s : Server) (method : Method) (request : Request) (found : RouteMatch) :
    Traced Step Unit := do
  Step.emit .debug .server "Dispatching to mock route"
    [idField request, ("method", .text method.name), ("url", .text request.url),
      ("route", .text found.path), ("params", .params found.paramsMap)]
  if s.logPayloads then
    Step.emit .debug .server "Mock request payload"
      [idField request, ("payload", .payload request.payload)]

/-- What is logged of an outcome. -/
def closing (request : Request) : Outcome → Traced Step Unit
  | .ok response =>
    Step.emit .debug .server "Mock response" [idField request, ("status", .number response.status)]
  | .error failure =>
    Step.emit .debug .server "Mock failure"
      [idField request, ("status", .number failure.response.status),
        ("kind", .text failure.kind.text)]

/-- The server and the outcome after a request was answered by a route that matches it. -/
def answer (others : Interference) (s : Server) (method : Method) (request : Request)
    (number : Nat) (route : Route) (found : RouteMatch) : Traced Step (Server × Outcome) := do
  s.opening method request found
  let request := { request with routeMatch := some found }
  let s ← pause others s
  let s ← await others s (.handle number request)
  let written := route.handler request {}
  let outcome ← conclude request written.1 written.2
  closing request outcome
  return (s, outcome)

/-- The server and the outcome after a request about which the routes say something. -/
def settle (others : Interference) (s : Server) (given : Request) :
    Selection → Traced Step (Server × Outcome)
  | .route number route found =>
    answer others s (given.method.getD s.method) (s.framed given) number route found
  | .otherMethod => do
    Step.emit .warn .server "405 method not allowed"
      [idField given, ("method", .text (given.method.getD s.method).name),
        ("url", .text (s.fullUrl given))]
    return (s, .error .methodNotAllowed)
  | .gaveUp route e => do
    Step.emit .error .server "Route pattern failed to execute"
      [idField given, ("path", .text route.path), ("error", .text e.message)]
    return (s, .error (.handler e.message))
  | .nothing => do
    match s.fallback with
    | some driver =>
      Step.emit .debug .server "No mock route matched, delegating to fallback driver"
        [idField given, ("url", .text given.url)]
      let s ← await others s (.fallback given)
      let outcome ← (driver given).mapSteps .outside
      return (s, outcome)
    | none =>
      Step.emit .warn .server "404 not found"
        [idField given, ("method", .text (given.method.getD s.method).name),
          ("url", .text (s.fullUrl given))]
      return (s, .error .notFound)

/-- The server and the outcome after a request, while others act on the server as well. -/
def dispatchAmid (others : Interference) (s : Server) (given : Request) :
    Traced Step (Server × Outcome) := do
  let selection ← choose (s.framed given) (given.method.getD s.method) false s.routes.zipIdx
  settle others s given selection

/-- The server and the outcome after a request. -/
def dispatch (s : Server) : Request → Traced Step (Server × Outcome) :=
  dispatchAmid (fun _ s => s) s

/-- The server as a driver for others. -/
def driver (s : Server) : Driver := fun request => do
  let (_, outcome) ← s.dispatch request
  return outcome

end MockHttp.Server
