import MockHttp.Server.Routes

/-!
# Fixtures

A fixture is a route whose answer is laid down beforehand.
-/

namespace MockHttp.Server

open Http Template
open Log (Logged)

/-- A route with its answer. -/
structure Fixture where
  path : String
  method : Method := .get
  status : Nat := 200
  /-- The headers by ascending name. -/
  headers : List (String × String) := []
  /-- The body as a JSON value. -/
  json : Option Json := none
  /-- The body as text, if there is no JSON value. -/
  body : Option String := none
  /-- The answer is what was asked: the parameters and what the request carries. -/
  echo : Bool := false
  deriving Repr

namespace Fixture

/-- The parameters of a request and what it carries. -/
def echoOf (r : Request) : Json :=
  let params := (r.routeMatch.map (·.paramsMap)).getD []
  .object [
    ("params", .object (params.map fun (name, value) => (name, .string value))),
    ("payload", r.body)]

def writeBody (f : Fixture) (r : Request) (d : Draft) : Draft :=
  if f.echo then d.setJson (echoOf r)
  else match f.json, f.body with
    | some value, _ => d.setJson value
    | none, some text => d.setBody text
    | none, none => d

def writeHeaders (f : Fixture) (d : Draft) : Draft :=
  f.headers.foldl (fun d (name, value) => d.setHeader name value) d

/-- What answers for the fixture. -/
def handler (f : Fixture) : Handler := fun r d =>
  (f.writeHeaders (f.writeBody r (d.setStatus f.status)), .finished)

end Fixture

/-- The server with a route more for each of some fixtures, and their number. The first that cannot
be compiled ends the run; those before it stay. -/
def addFixtures (s : Server) : List Fixture → Logged (Server × Except PatternError Nat)
  | [] => return (s, .ok 0)
  | f :: rest => do
    let (s, added) ← s.addRoute f.path f.method f.handler
    match added with
    | .error e => return (s, .error e)
    | .ok () =>
      let (s, count) ← s.addFixtures rest
      return (s, count.map (· + 1))

end MockHttp.Server
