import MockHttp.Step

/-!
# Observation

How observers are told about requests and outcomes. Only the observer for tracing does something
that is seen at once: it logs an event for each.
-/

namespace MockHttp.Observer

open Http

/-- An observer is told about a request that is about to be sent. -/
def before (request : Request) (o : Observer) : Traced Step Unit := do
  Traced.step (.before o request)
  match o with
  | tracing =>
    Step.emit .info .observer "request"
      ([("request_id", .text request.id.toString)] ++
        Log.optionalText "method" (request.method.map Method.name) ++
        [("url", .text request.url)] ++ Log.optionalText "base_url" request.baseUrl)
  | _ => return

/-- An observer is told about the outcome of a request. -/
def after (request : Request) (outcome : Outcome) (o : Observer) : Traced Step Unit := do
  Traced.step (.after o request outcome)
  match o, outcome with
  | tracing, .ok response =>
    Step.emit .info .observer "response"
      [("request_id", .text request.id.toString), ("status", .number response.status)]
  | tracing, .error failure =>
    Step.emit .warn .observer "response failed"
      [("request_id", .text request.id.toString), ("status", .number failure.response.status),
        ("kind", .text failure.kind.text)]
  | _, _ => return

/-- Every observer does something, in order. -/
def tellAll (tell : Observer → Traced Step Unit) : List Observer → Traced Step Unit
  | [] => return
  | o :: rest => do
    tell o
    tellAll tell rest

end MockHttp.Observer
