import MockHttp.Json.Value
import MockHttp.Traced

/-!
# Log events

What the parts of the library report while they work. An event has a level, the part it comes from,
a message and named fields; an absent optional field is left out. `Logged` carries a result together
with the events on the way to it.
-/

namespace MockHttp.Log

inductive Level where
  | trace
  | debug
  | info
  | warn
  | error
  deriving DecidableEq, Repr

/-- The part of the library that an event comes from. -/
inductive Origin where
  /-- The store of compiled templates. -/
  | store
  /-- The route table. -/
  | server
  /-- The client. -/
  | client
  /-- The observer that reports requests and outcomes. -/
  | observer
  deriving DecidableEq, Repr

inductive FieldValue where
  | text (s : String)
  | number (n : Nat)
  | flag (b : Bool)
  /-- The parameters of a match by name. -/
  | params (values : List (String × String))
  /-- What a request or a response carries, if anything. -/
  | payload (value : Option Json)
  deriving Repr

structure Event where
  level : Level
  origin : Origin
  message : String
  fields : List (String × FieldValue)
  deriving Repr

/-- A result and the events on the way to it. -/
abbrev Logged (α : Type) := Traced Event α

def Logged.emit (level : Level) (origin : Origin) (message : String)
    (fields : List (String × FieldValue)) : Logged Unit :=
  Traced.step ⟨level, origin, message, fields⟩

/-- A field whose text may be absent. -/
def optionalText (name : String) (text : Option String) : List (String × FieldValue) :=
  match text with
  | some s => [(name, .text s)]
  | none => []

end MockHttp.Log
