import MockHttp.Client.Exchange
import MockHttp.Middleware.Metrics
import MockHttp.Server.Fixture

/-!
# Sessions

A session is a server together with a client that can send to it, and counters that outlast single
requests.
-/

namespace MockHttp

open Http Middleware
open Log (Logged)

/-- A server and a client. -/
structure Session where
  server : Server
  client : Client
  metrics : Metrics := {}

namespace Session

/-- A session without routes, transforms and observers. -/
def new (config : Config) : Session where
  server := .new config
  client := { config := config }

/-- The session after a use of its client. -/
def carry {α : Type} (s : Session) (use : Traced Step (Server × Client × α)) :
    Traced Step (Session × α) :=
  ⟨({ server := use.value.1, client := use.value.2.1, metrics := s.metrics.countAll use.steps },
    use.value.2.2), use.steps⟩

/-- The session after a request was sent to an endpoint, or to that of the client if none is
given. -/
def send (s : Session) (endpoint : Option Endpoint) (request : Request) :
    Traced Step (Session × Client.Reply) :=
  s.carry (s.client.send s.server (endpoint.or s.client.endpoint) request)

/-- The session after a request that goes to the server at once. -/
def dispatch (s : Session) (request : Request) : Traced Step (Session × Outcome) := do
  let (server, outcome) ← s.server.dispatch request
  return ({ s with server := server }, outcome)

/-- The session with a driver for the requests that no route matches. The server is not its own
fallback: it would ask itself for ever. -/
def setFallback (s : Session) (driver : Option Driver) : Session :=
  { s with server := { s.server with fallback := driver } }

def setEndpoint (s : Session) (endpoint : Endpoint) : Session :=
  { s with client := { s.client with endpoint := some endpoint } }

/-- The session with a transform registered or removed, or with an observer more. -/
def register (s : Session) (r : Registration) : Session :=
  { s with client := s.client.register r }

def observe (s : Session) (o : Observer) : Session :=
  { s with client := s.client.observe o }

def describe (s : Session) : String := s.server.describe ++ " " ++ s.client.describe

end Session

end MockHttp
