import MockHttp.Http.Method
import MockHttp.Text.Quoted

/-!
# Configuration

What the client fills in where a request says nothing, and how the server behaves.
-/

namespace MockHttp

/-- How the server behaves. -/
structure ServerConfig where
  /-- Put in front of the path of every route. -/
  routePrefix : String := ""
  /-- The greatest simulated delay in milliseconds; zero switches delays off. -/
  delayMs : Nat := 0
  /-- The number of compiled templates that are kept. -/
  cacheCapacity : Nat := 10000
  deriving DecidableEq, Repr

/-- How client and server behave. -/
structure Config where
  /-- Put in front of the url of a request that has no base of its own. -/
  baseUrl : String := ""
  timeoutSecs : Nat := 3600
  /-- The method of requests that have none. -/
  method : Http.Method := .post
  withCredentials : Bool := false
  /-- Log events show what requests and responses carry. -/
  logPayloads : Bool := false
  server : ServerConfig := {}
  deriving DecidableEq, Repr

def Text.truth (b : Bool) : String := if b then "true" else "false"

/-- The configuration of the server as it shows itself. -/
def ServerConfig.describe (c : ServerConfig) : String :=
  "MockConfig \x7B route_prefix: " ++ Text.quoted c.routePrefix ++ ", internet_delay_ms: " ++
    Nat.repr c.delayMs ++ ", cache_capacity: " ++ Nat.repr c.cacheCapacity ++ " \x7D"

def Config.describe (c : Config) : String :=
  "HttpConfig \x7B base_url: " ++ Text.quoted c.baseUrl ++ ", timeout_secs: " ++
    Nat.repr c.timeoutSecs ++ ", method: " ++ c.method.describe ++ ", with_credentials: " ++
    Text.truth c.withCredentials ++ ", log_payloads: " ++ Text.truth c.logPayloads ++ ", mock: " ++
    c.server.describe ++ " \x7D"

end MockHttp
