import MockHttp.Json.Value
import MockHttp.Text.Ascii

/-!
# Methods and statuses

The methods that requests have, and the reason phrases of statuses.
-/

namespace MockHttp.Http

/-- What a request asks to be done. -/
inductive Method where
  | get
  | post
  | put
  | delete
  deriving DecidableEq, Repr

namespace Method

def name : Method → String
  | get => "GET"
  | post => "POST"
  | put => "PUT"
  | delete => "DELETE"

/-- The method with exactly this name. -/
def ofName? : String → Option Method
  | "GET" => some get
  | "POST" => some post
  | "PUT" => some put
  | "DELETE" => some delete
  | _ => none

/-- The method that a text names in any case. -/
def parse? (text : String) : Option Method :=
  ofName? (Text.asciiUpper text)

/-- The method that a value names: its name, or an object whose only member has that name and holds
nothing. -/
def ofJson? : Json → Option Method
  | .string s => ofName? s
  | .object [(name, .null)] => ofName? name
  | _ => none

def describe : Method → String
  | get => "Get"
  | post => "Post"
  | put => "Put"
  | delete => "Delete"

end Method

/-- The phrase that explains a status, in lower case. -/
def reason? : Nat → Option String
  | 100 => some "continue"
  | 101 => some "switching protocols"
  | 102 => some "processing"
  | 103 => some "early hints"
  | 200 => some "ok"
  | 201 => some "created"
  | 202 => some "accepted"
  | 203 => some "non authoritative information"
  | 204 => some "no content"
  | 205 => some "reset content"
  | 206 => some "partial content"
  | 207 => some "multi-status"
  | 208 => some "already reported"
  | 226 => some "im used"
  | 300 => some "multiple choices"
  | 301 => some "moved permanently"
  | 302 => some "found"
  | 303 => some "see other"
  | 304 => some "not modified"
  | 305 => some "use proxy"
  | 307 => some "temporary redirect"
  | 308 => some "permanent redirect"
  | 400 => some "bad request"
  | 401 => some "unauthorized"
  | 402 => some "payment required"
  | 403 => some "forbidden"
  | 404 => some "not found"
  | 405 => some "method not allowed"
  | 406 => some "not acceptable"
  | 407 => some "proxy authentication required"
  | 408 => some "request timeout"
  | 409 => some "conflict"
  | 410 => some "gone"
  | 411 => some "length required"
  | 412 => some "precondition failed"
  | 413 => some "payload too large"
  | 414 => some "uri too long"
  | 415 => some "unsupported media type"
  | 416 => some "range not satisfiable"
  | 417 => some "expectation failed"
  | 418 => some "i'm a teapot"
  | 421 => some "misdirected request"
  | 422 => some "unprocessable entity"
  | 423 => some "locked"
  | 424 => some "failed dependency"
  | 425 => some "too early"
  | 426 => some "upgrade required"
  | 428 => some "precondition required"
  | 429 => some "too many requests"
  | 431 => some "request header fields too large"
  | 451 => some "unavailable for legal reasons"
  | 500 => some "internal server error"
  | 501 => some "not implemented"
  | 502 => some "bad gateway"
  | 503 => some "service unavailable"
  | 504 => some "gateway timeout"
  | 505 => some "http version not supported"
  | 506 => some "variant also negotiates"
  | 507 => some "insufficient storage"
  | 508 => some "loop detected"
  | 510 => some "not extended"
  | 511 => some "network authentication required"
  | _ => none

/-- The status with its phrase, if it has one. -/
def statusText (status : Nat) : String :=
  match reason? status with
  | some phrase => Nat.repr status ++ " " ++ phrase
  | none => Nat.repr status

end MockHttp.Http
