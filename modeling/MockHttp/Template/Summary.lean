import MockHttp.Json.Printer
import MockHttp.Template.Expression

/-!
# Summaries of patterns

A compiled template as a document: its expression and its parameters.
-/

namespace MockHttp.Template

/-- The name as a value: text, or the number of a parameter without a name. -/
def ParamName.toJson : ParamName → Json
  | named name => .string name
  | index i => .int i

def Param.layout (p : Param) : Json.Layout :=
  let text (cs : List Char) : Json.Layout := .value (.string (String.ofList cs))
  .object [
    ("name", .value p.name.toJson), ("prefix", text p.leadText),
    ("delimiter", text p.delimiter), ("pattern", text p.pattern),
    ("optional", .value (.bool p.optional)), ("repeat", .value (.bool p.repeated)),
    ("partial", .value (.bool p.inSegment))]

def Pattern.layout (p : Pattern) : Json.Layout :=
  .object [
    ("regex", .value (.string p.regex.source)), ("keys", .array (p.params.map Param.layout))]

end MockHttp.Template
