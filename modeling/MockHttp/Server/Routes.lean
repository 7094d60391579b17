import MockHttp.Config.Settings
import MockHttp.Server.Draft
import MockHttp.Server.Latency
import MockHttp.Step
import MockHttp.Template.Store

/-!
# The route table

A server holds routes in the order of their registration. A route keeps the pattern that was
compiled when it was registered, so later changes of the store do not concern it.
-/

namespace MockHttp

open Http Template
open Log (Logged)

namespace Server

structure Route where
  /-- The path as it was registered. -/
  path : String
  method : Method
  /-- The path with the common one in front, which urls are matched with. -/
  template : String
  pattern : Pattern
  handler : Handler

/-- The path of a route matches the whole url, letter for letter. -/
def routeFlags : MatchFlags := ⟨true, true, true⟩

/-- The match of a url with the template of a route. -/
def Route.matchUrl (r : Route) (url : String) : Except PatternError (Option RouteMatch) :=
  r.pattern.matchText r.template url true

def Route.describe (r : Route) : String :=
  "Route \x7B path: " ++ Text.quoted r.path ++ ", method: " ++ r.method.describe ++
    ", template: " ++ Text.quoted r.template ++ " \x7D"

end Server

open Server

/-- A route table that answers requests. -/
structure Server where
  /-- Put in front of the url of a request that has no base of its own. -/
  baseUrl : String
  /-- The method of requests that have none. -/
  method : Method
  /-- Put in front of the path of every route. -/
  routePrefix : String
  /-- Log events show what requests carry. -/
  logPayloads : Bool
  /-- The routes in the order of their registration. -/
  routes : List Route
  /-- What answers requests that no route matches. -/
  fallback : Option Driver
  store : Store
  latency : Latency

namespace Server

def new (config : Config) : Server where
  baseUrl := config.baseUrl
  method := config.method
  routePrefix := config.server.routePrefix
  logPayloads := config.logPayloads
  routes := []
  fallback := none
  store := .new config.server.cacheCapacity
  latency := { maxDelay := config.server.delayMs }

/-- The server with a route more. If its path cannot be compiled, there is no such route. -/
def addRoute (s : Server) (path : String) (method : Method) (handler : Handler) :
    Logged (Server × Except PatternError Unit) := do
  let template := s.routePrefix ++ path
  let (store, compiled) ← s.store.compile template routeFlags
  let s := { s with store := store }
  match compiled with
  | .error e => return (s, .error e)
  | .ok compiled =>
    .emit .info .server "Registered mock route"
      [("method", .text method.name), ("path", .text template),
        ("priority", .number s.routes.length)]
    return ({ s with routes := s.routes ++ [⟨path, method, template, compiled.pattern, handler⟩] },
      .ok ())

/-- The routes by method and registered path. -/
def routeList (s : Server) : List (Method × String) :=
  s.routes.map fun r => (r.method, r.path)

def describe (s : Server) : String :=
  "MockDriver \x7B routes: " ++ Text.listed (s.routes.map Route.describe) ++ ", cache: " ++
    s.store.describe ++ " \x7D"

end Server

end MockHttp
