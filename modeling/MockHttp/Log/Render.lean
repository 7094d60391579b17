import MockHttp.Json.Printer
import MockHttp.Log.Filter

/-!
# Log lines

How an event is written: as a JSON document on a line, or as text for people.
-/

namespace MockHttp.Log

def FieldValue.toJson : FieldValue → Json
  | text s => .string s
  | number n => .int n
  | flag b => .bool b
  | params values => .object (values.map fun (name, value) => (name, .string value))
  | payload (some v) => v
  | payload none => .null

def FieldValue.toText : FieldValue → String
  | text s => s
  | v => v.toJson.compact

def Event.render (e : Event) : Format → String
  | .json =>
    (Json.Layout.object [
      ("level", .value (.string e.level.name)),
      ("fields", .object (("message", .value (.string e.message)) ::
        e.fields.map fun (name, v) => (name, v.toJson.toLayout))),
      ("target", .value (.string e.origin.target))]).compact
  | .pretty =>
    "  " ++ e.level.name ++ " " ++ e.origin.target ++ ": " ++
      ", ".intercalate (e.message :: e.fields.map fun (name, v) => name ++ ": " ++ v.toText)

/-- The lines for those of some events that are shown. -/
def Display.lines (d : Display) (events : List Event) : List String :=
  (events.filter d.filter.shows).map (·.render d.settings.format)

end MockHttp.Log
