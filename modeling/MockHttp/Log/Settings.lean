import MockHttp.Log.Event

/-!
# Log settings

How events are shown, read from the variables of an environment.
-/

namespace MockHttp.Log

inductive Format where
  /-- One JSON document for each event. -/
  | json
  /-- Several lines for people to read. -/
  | pretty
  deriving DecidableEq, Repr

/-- The format that a text names in any case; every other text stands for the one for people. -/
def Format.parse (text : String) : Format :=
  if text.toList.map Char.toLower = "json".toList then .json else .pretty

structure Settings where
  /-- The name of the least level shown. -/
  level : String := "warn"
  format : Format := .pretty
  /-- Directives that add to what is shown, with commas between them. -/
  targetFilter : Option String := none
  /-- The place in the program is shown too. -/
  includeLocation : Bool := false
  deriving DecidableEq, Repr

abbrev Environment := List (String × String)

/-- A truth value, written out. -/
def truth? : String → Option Bool
  | "true" => some true
  | "false" => some false
  | _ => none

def Settings.ofEnvironment (env : Environment) : Settings where
  level := (env.lookup "PATHMOCK_LOG_LEVEL").getD "warn"
  format := ((env.lookup "PATHMOCK_LOG_FORMAT").map Format.parse).getD .pretty
  targetFilter := env.lookup "PATHMOCK_LOG_TARGET_FILTER"
  includeLocation := ((env.lookup "PATHMOCK_LOG_INCLUDE_LOCATION").bind truth?).getD false

end MockHttp.Log
