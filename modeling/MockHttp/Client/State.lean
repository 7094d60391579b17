import MockHttp.Middleware.Transform
import MockHttp.Server.Dispatch

/-!
# Clients

A client sends requests through a driver. It holds the transforms that requests and responses pass
through, and the observers that are told about them.
-/

namespace MockHttp

open Http Middleware

/-- What a client sends to. -/
inductive Endpoint where
  /-- The server, as it is when the request is sent. -/
  | server
  | custom (driver : Driver)

/-- What answers requests, and what becomes of a server by that. -/
abbrev Service := Request → Traced Step (Server × Outcome)

def Endpoint.service (s : Server) : Endpoint → Service
  | server => s.dispatch
  | custom driver => fun request => do
    let outcome ← (driver request).mapSteps .outside
    return (s, outcome)

structure Client where
  config : Config
  /-- What requests are sent to unless something else is given. -/
  endpoint : Option Endpoint := none
  requestChain : Chain (Transform Request) := .empty
  responseChain : Chain (Transform Response) := .empty
  /-- The observers in the order of their registration. -/
  observers : List Observer := []

namespace Client

def observe (c : Client) (o : Observer) : Client := { c with observers := c.observers ++ [o] }

/-- The client with a transform registered or removed, or with an observer more. -/
def register (c : Client) : Registration → Client
  | .request name t => { c with requestChain := c.requestChain.upsert name t }
  | .response name t => { c with responseChain := c.responseChain.upsert name t }
  | .observer o => c.observe o

def registerAll (c : Client) (made : List Registration) : Client := made.foldl register c

def describe (c : Client) : String :=
  "HttpClient \x7B config: " ++ c.config.describe ++ ", has_driver: " ++
    Text.truth c.endpoint.isSome ++ ", request_chain: " ++ c.requestChain.describe ++
    ", response_chain: " ++ c.responseChain.describe ++ " \x7D"

end Client

end MockHttp
