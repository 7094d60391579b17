import MockHttp.Command.Command
import MockHttp.Config.File
import MockHttp.Server.FixtureList
import MockHttp.Session
import MockHttp.Template.Summary

/-!
# Running commands

What a command writes and whether it succeeds, given the environment, the texts of files and an
identifier for the request that it sends.
-/

namespace MockHttp.Command

open Http Template

/-- What a command depends on. -/
structure Context where
  env : Log.Environment
  /-- The text of a file, if it can be read. -/
  fileText : String → Option String
  /-- An identifier that is not in use. -/
  freshId : RequestId

/-- What a command leaves behind. -/
structure Report where
  output : String := ""
  errors : String := ""
  success : Bool

inductive RunError where
  | pattern (e : PatternError)
  | config (e : ConfigError)
  /-- A fixture has a path that cannot be compiled. -/
  | route (file : String) (e : PatternError)
  /-- What the request should carry is no JSON. -/
  | payload
  deriving DecidableEq, Repr

def RunError.message : RunError → String
  | pattern e => e.message
  | config e => e.message
  | route file e => "Invalid route in " ++ file ++ ": " ++ e.message
  | payload => "--payload is not valid JSON"

def printed (layout : Json.Layout) (success : Bool) : Report :=
  { output := layout.pretty ++ "\n", success := success }

def Compile.options (c : Compile) : Options :=
  { sensitive := c.sensitive, strict := c.strict, stop := !c.noEnd
    endsWith := c.endsWith.map String.toList }

def Compile.run (c : Compile) : Except RunError Report :=
  match (Source.template c.template.toList).compile c.options with
  | .ok p => .ok (printed p.layout true)
  | .error e => .error (.pattern e)

def Match.run (c : Match) : Except RunError Report :=
  let pattern : RoutePattern :=
    { paths := [c.template], exact := c.exact, strict := c.strict, sensitive := c.sensitive }
  match ((Store.new 1).matchPath c.path pattern).value.2 with
  | .ok (some m) => .ok (printed m.layout true)
  | .ok none => .ok { errors := "no match\n", success := false }
  | .error e => .error (.pattern e)

/-- The configuration of the command that dispatches. What the environment says counts more than
what the file says. -/
def Dispatch.loadConfig (c : Dispatch) (w : Context) : Except ConfigError Config :=
  match c.config with
  | none => Config.ofEnvironment w.env
  | some file => do
    let config ← Config.ofFile file (w.fileText file)
    match config.override w.env with
    | (config, none) => return config
    | (_, some e) => .error (.invalidValue e)

def loadFixtures (w : Context) (file : String) : Except ConfigError (List Server.Fixture) :=
  match w.fileText file with
  | none => .error (.unreadable file)
  | some text =>
    match Server.Fixture.parseList? text with
    | some fixtures => .ok fixtures
    | none => .error (.yaml file)

def resultLayout (id : RequestId) : Except Failure Response → Json.Layout
  | .ok r => .object [
      ("request_id", .value (.string id.toString)), ("ok", .value (.bool true)),
      ("response", r.layout)]
  | .error f => .object [
      ("request_id", .value (.string id.toString)), ("ok", .value (.bool false)),
      ("kind", .value (.string f.kind.name)), ("response", f.response.layout)]

def Dispatch.request (c : Dispatch) (id : RequestId) (payload : Option Json) : Request :=
  { Request.new id c.url with method := some c.method, payload := payload }

/-- What the request carries, if it is JSON. -/
def Dispatch.readPayload (c : Dispatch) : Except RunError (Option Json) :=
  match c.payload with
  | none => .ok none
  | some text =>
    match Json.parse? text with
    | some v => .ok (some v)
    | none => .error .payload

/-- A session whose server has the fixtures of a file and no delays if none are wanted. -/
def Dispatch.session (c : Dispatch) (config : Config) (fixtures : List Server.Fixture) :
    Log.Logged (Except RunError Session) := do
  let s := Session.new config
  let (server, added) ← s.server.addFixtures fixtures
  let server :=
    if c.noLatency then { server with latency := server.latency.disable } else server
  match added with
  | .error e => return .error (.route c.fixtures e)
  | .ok _ => return .ok (({ s with server := server }.observe .tracing).setEndpoint .server)

/-- The report on a request, with the steps on its way. -/
def Dispatch.run (c : Dispatch) (w : Context) : Traced Step (Except RunError Report) :=
  let given : Except RunError (Option Json × Config × List Server.Fixture) := do
    let payload ← c.readPayload
    let config ← (c.loadConfig w).mapError .config
    let fixtures ← (loadFixtures w c.fixtures).mapError .config
    return (payload, config, fixtures)
  match given with
  | .error e => return .error e
  | .ok (payload, config, fixtures) => do
    match ← (c.session config fixtures).mapSteps .log with
    | .error e => return .error e
    | .ok session =>
      match ← session.send none (c.request w.freshId payload) with
      | (_, .ok r) => return .ok (printed (resultLayout w.freshId (.ok r)) true)
      | (_, .error (.failure f)) =>
        return .ok (printed (resultLayout w.freshId (.error f)) false)
      | (_, .error .missingDriver) => return .ok { success := false }

/-- The report on a command, with the steps on its way. -/
def run (c : Command) (w : Context) : Traced Step (Except RunError Report) :=
  match c with
  | .compile c => return c.run
  | .match c => return c.run
  | .dispatch c => c.run w

end MockHttp.Command
