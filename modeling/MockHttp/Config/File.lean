import MockHttp.Config.Override
import MockHttp.Text.Ascii
import MockHttp.Toml.Record
import MockHttp.Yaml.Value

/-!
# Configuration files

The ending of a file's name tells its format: TOML for that of TOML, otherwise YAML, of which JSON
is a part.
-/

namespace MockHttp

inductive ConfigError where
  /-- The file cannot be read. -/
  | unreadable (file : String)
  /-- The file is no YAML, or not that of a configuration. -/
  | yaml (file : String)
  /-- The file is no TOML, or not that of a configuration. -/
  | toml (file : String)
  | invalidValue (e : InvalidValue)
  deriving DecidableEq, Repr

/-- The error in words, without what the format has to say about it. -/
def ConfigError.message : ConfigError → String
  | unreadable file => "failed to read " ++ file
  | yaml file => "failed to parse YAML/JSON in " ++ file
  | toml file => "failed to parse TOML in " ++ file
  | invalidValue e => e.message

/-- What follows the last dot of a file's name, unless that is also the first character. -/
def fileEnding? (name : String) : Option String :=
  let (ending, stem) := name.toList.reverse.span (· ≠ '.')
  match stem with
  | [] => none
  | [_] => none
  | _ => some (String.ofList ending.reverse)

namespace Config

def isToml (file : String) : Bool := (fileEnding? file).any (Text.sameName · "toml")

/-- The configuration in a file with some text, if it can be read at all. -/
def ofFile (file : String) (text : Option String) : Except ConfigError Config :=
  match text with
  | none => .error (.unreadable file)
  | some text =>
    if isToml file then
      match (Toml.parse? text).bind (read? Toml.format) with
      | some c => .ok c
      | none => .error (.toml file)
    else
      match (Yaml.Document.parse? text).bind fun d => read? d.format d.root with
      | some c => .ok c
      | none => .error (.yaml file)

/-- The configuration in which an environment takes the place of the defaults. -/
def ofEnvironment (env : Log.Environment) : Except ConfigError Config :=
  match override {} env with
  | (c, none) => .ok c
  | (_, some e) => .error (.invalidValue e)

end Config

end MockHttp
