import MockHttp.Client.State
import MockHttp.Middleware.Observation

/-!
# Exchanges

What happens to a request: the request transforms, the observers, the driver, the response
transforms, the observers again. Transforms and observers are those that were registered when the
exchange began.
-/

namespace MockHttp.Client

open Http Middleware

inductive SendError where
  /-- There is nothing to send to. -/
  | missingDriver
  | failure (f : Failure)

def SendError.message : SendError → String
  | missingDriver => "no HTTP driver configured"
  | failure f => "request failed with status " ++ Nat.repr f.response.status

/-- The request with what it says nothing about taken from the configuration. -/
def fillIn (c : Client) (r : Request) : Request :=
  { r with
    timeoutSecs := some (r.timeoutSecs.getD c.config.timeoutSecs)
    withCredentials := some (r.withCredentials.getD c.config.withCredentials) }

/-- The outcome after every response transform, and what they registered. Whether it is a failure,
and of which kind, does not change. -/
def transformOutcome (c : Client) : Outcome → Traced Step (Outcome × List Registration)
  | .ok response => do
    let (response, made) ← c.responseChain.run .transformResponse response
    return (.ok response, made)
  | .error failure => do
    let (response, made) ← c.responseChain.run .transformResponse failure.response
    return (.error { failure with response := response }, made)

/-- The event before the driver is called. -/
def logRequest (c : Client) (r : Request) : Traced Step Unit :=
  Step.emit .debug .client "Sending request"
    ([Server.idField r] ++ Log.optionalText "method" (r.method.map Method.name) ++
      [("url", .text r.url)] ++
      if c.config.logPayloads then [("payload", .payload r.payload)] else [])

def logOutcome (c : Client) (r : Request) : Outcome → Traced Step Unit
  | .ok response =>
    Step.emit .debug .client "Received response"
      ([Server.idField r, ("status", .number response.status)] ++
        if c.config.logPayloads then [("payload", .payload (some response.payload))] else [])
  | .error failure =>
    Step.emit .warn .client "Request failed"
      [Server.idField r, ("status", .number failure.response.status),
        ("kind", .text failure.kind.text)]

/-- The server, the client and the outcome after a request went to what answers it. -/
def exchange (c : Client) (service : Service) (request : Request) :
    Traced Step (Server × Client × Outcome) := do
  let (request, early) ← c.requestChain.run .transformRequest (c.fillIn request)
  Observer.tellAll (Observer.before request) c.observers
  c.logRequest request
  Traced.step (.call request)
  let (s, outcome) ← service request
  let (outcome, late) ← c.transformOutcome outcome
  Observer.tellAll (Observer.after request outcome) c.observers
  c.logOutcome request outcome
  return (s, c.registerAll (early ++ late), outcome)

abbrev Reply := Except SendError Response

/-- The server, the client and the result after a request was sent to an endpoint, if there is
one. -/
def send (c : Client) (s : Server) (endpoint : Option Endpoint) (request : Request) :
    Traced Step (Server × Client × Reply) := do
  match endpoint with
  | none =>
    Step.emit .error .client "No HTTP driver configured"
      [Server.idField request, ("url", .text request.url)]
    return (s, c, .error .missingDriver)
  | some endpoint =>
    let (s, c, outcome) ← c.exchange (endpoint.service s) request
    return (s, c, outcome.mapError .failure)

/-! ## Requests to the endpoint that the client has -/

section

variable (c : Client) (s : Server)

def request (r : Request) : Traced Step (Server × Client × Reply) := c.send s c.endpoint r

/-- A new request with a method and what it carries. -/
def ask (method : Method) (fresh : RequestId) (url : String) (payload : Option Json) :
    Traced Step (Server × Client × Reply) :=
  c.request s { Request.new fresh url with method := some method, payload := payload }

def get (fresh : RequestId) (url : String) := c.ask s .get fresh url none

def post (fresh : RequestId) (url : String) (payload : Json) :=
  c.ask s .post fresh url (some payload)

def put (fresh : RequestId) (url : String) (payload : Json) := c.ask s .put fresh url (some payload)

def delete (fresh : RequestId) (url : String) := c.ask s .delete fresh url none

end

end MockHttp.Client
