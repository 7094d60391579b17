import MockHttp.Middleware.Chain
import MockHttp.Step

/-!
# Transforms

A transform changes a request or a response that passes through a client. While it runs it may
register and remove transforms of the client itself, and register observers; all of that takes
effect for later requests.
-/

namespace MockHttp.Middleware

open Http

/-- A transform registered under a name, or removed from it; or an observer registered. -/
inductive Registration where
  | request (name : String) (transform : Option (Request → Request × List Registration))
  | response (name : String) (transform : Option (Response → Response × List Registration))
  | observer (observer : Observer)

/-- What becomes of a value, and what is registered meanwhile. -/
abbrev Transform (α : Type) := α → α × List Registration

/-- The value after some transforms, first to last, and what they registered. `step` is the step
that applying a transform is. -/
def runAll {α : Type} (step : String → α → Step) :
    List (String × Transform α) → α → Traced Step (α × List Registration)
  | [], a => return (a, [])
  | (name, f) :: rest, a => do
    Traced.step (step name a)
    let (b, first) := f a
    let (c, later) ← runAll step rest b
    return (c, first ++ later)

/-- The value after every transform of a chain, and what they registered. -/
def Chain.run {α : Type} (c : Chain (Transform α)) (step : String → α → Step) (a : α) :
    Traced Step (α × List Registration) :=
  runAll step c.entries a

end MockHttp.Middleware
