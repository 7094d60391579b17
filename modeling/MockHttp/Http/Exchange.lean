import MockHttp.Http.Headers
import MockHttp.Http.Method
import MockHttp.Http.RequestId
import MockHttp.Template.RouteMatch

/-!
# Requests and responses

What is sent and what comes back. An outcome is a response or a failure; a failure carries a
response too, and says why it is none that was hoped for.
-/

namespace MockHttp.Http

/-- A request on its way. What is absent is decided by those who handle it. -/
structure Request where
  id : RequestId
  url : String
  baseUrl : Option String
  method : Option Method
  headers : Headers
  payload : Option Json
  /-- The match of the route that answers, once there is one. -/
  routeMatch : Option Template.RouteMatch
  /-- Values left by transforms for those that follow, by name. -/
  values : List (String × Json)
  timeoutSecs : Option Nat
  withCredentials : Option Bool
  /-- Fields that the sender made up, by name. -/
  extensions : List (String × Json)
  deriving Repr

namespace Request

def new (id : RequestId) (url : String) : Request where
  id := id
  url := url
  baseUrl := none
  method := none
  headers := .empty
  payload := none
  routeMatch := none
  values := []
  timeoutSecs := none
  withCredentials := none
  extensions := []

/-- The header whose value may identify the request. -/
def idHeader : String := "x-request-id"

/-- The request with a header. A header that identifies the request gives it that identifier, or
the fresh one if its value is none. -/
def withHeader (r : Request) (fresh : RequestId) (name value : String) : Request :=
  { r with
    id := if Text.sameName name idHeader then RequestId.ofHeader (some value) fresh else r.id
    headers := r.headers.insert name value }

def param? (r : Request) (name : String) : Option String :=
  r.routeMatch.bind (·.get name)

/-- What the request carries; nothing is the same as null. -/
def body (r : Request) : Json := r.payload.getD .null

end Request

structure Response where
  status : Nat
  statusText : String
  headers : Headers
  payload : Json
  deriving Repr

namespace Response

/-- A response whose status text is that of its status. -/
def new (status : Nat) (headers : Headers) (payload : Json) : Response :=
  ⟨status, Http.statusText status, headers, payload⟩

def isSuccess (r : Response) : Bool := r.status < 400

def layout (r : Response) : Json.Layout :=
  .object [
    ("status", .value (.int r.status)), ("status_text", .value (.string r.statusText)),
    ("headers", r.headers.layout), ("payload", r.payload.toLayout)]

end Response

/-- Why a request did not succeed. -/
inductive FailureKind where
  /-- No route matches the path. -/
  | notFound
  /-- A route matches the path, but none with that method. -/
  | methodNotAllowed
  /-- The handler failed. -/
  | handler
  /-- The handler answered with a status from 400 on. -/
  | business
  /-- The body is announced as JSON and is none. -/
  | invalidBody
  /-- The request did not get through. -/
  | transport
  deriving DecidableEq, Repr

namespace FailureKind

def text : FailureKind → String
  | notFound => "not found"
  | methodNotAllowed => "method not allowed"
  | handler => "handler error"
  | business => "business error"
  | invalidBody => "invalid body"
  | transport => "transport error"

/-- The kind as a name in a document. -/
def name : FailureKind → String
  | notFound => "not_found"
  | methodNotAllowed => "method_not_allowed"
  | handler => "handler"
  | business => "business"
  | invalidBody => "invalid_body"
  | transport => "transport"

end FailureKind

/-- A failure and the response that goes with it. -/
structure Failure where
  kind : FailureKind
  response : Response
  deriving Repr

namespace Failure

/-- A failure whose response has no headers. -/
def bare (kind : FailureKind) (status : Nat) (payload : Json) : Failure :=
  ⟨kind, .new status .empty payload⟩

def notFound : Failure := bare .notFound 404 (.string (statusText 404))

def methodNotAllowed : Failure := bare .methodNotAllowed 405 (.string (statusText 405))

def handler (message : String) : Failure := bare .handler 500 (.string message)

/-- The body is no JSON; it is kept as it is. -/
def invalidBody (headers : Headers) (body : String) : Failure :=
  ⟨.invalidBody, .new 500 headers (.string body)⟩

def business (response : Response) : Failure := ⟨.business, response⟩

def transport (status : Nat) (message : String) : Failure :=
  bare .transport status (.string message)

def text (f : Failure) : String := f.kind.text ++ ": " ++ f.response.statusText

end Failure

/-- What comes of a request. -/
abbrev Outcome := Except Failure Response

end MockHttp.Http
