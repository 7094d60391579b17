import MockHttp.Server.Fixture
import MockHttp.Yaml.Value

/-!
# Lists of fixtures

Fixtures are laid down in a YAML document, a sequence of records. A fixture must have a path; what
else is absent has its default.
-/

namespace MockHttp.Server

open Yaml (Document Node)

/-- The nesting that is left to the JSON value of a fixture. -/
def jsonDepth : Nat := 126

/-- The field of a record, if it is there and not null. -/
def optionalField {α : Type} (d : Document) (fields : List (String × Node)) (name : String)
    (read : Node → Option α) : Option (Option α) :=
  match fields.lookup name with
  | none => some none
  | some n =>
    match d.optional? n with
    | none => none
    | some none => some none
    | some (some n) => (read n).map some

/-- The headers in a record, by ascending name. -/
def headers? (d : Document) (n : Node) : Option (List (String × String)) := do
  let members ← d.members? n
  let pairs ← members.mapM fun (name, value) => (d.text? value).map (name, ·)
  return sortMembers pairs

def Fixture.read? (d : Document) (n : Node) : Option Fixture := do
  let fields ← d.format.fields? ["path", "method", "status", "headers", "json", "body", "echo"] n
  return {
    path := ← (fields.lookup "path").bind d.text?
    method := ← Config.field fields "method" d.method? .get
    status := ← Config.field fields "status" (d.number? 65535) 200
    headers := ← Config.field fields "headers" (headers? d) []
    json := ← optionalField d fields "json" (d.json? jsonDepth)
    body := ← optionalField d fields "body" d.text?
    echo := ← Config.field fields "echo" d.flag? false }

def Fixture.parseList? (text : String) : Option (List Fixture) := do
  let d ← Document.parse? text
  (← d.items? d.root).mapM (Fixture.read? d)

end MockHttp.Server
