import MockHttp.Command.Words
import MockHttp.Config.Override

/-!
# Commands

The commands of the command line and how they are read from its words.
-/

namespace MockHttp

namespace Command

structure Compile where
  template : String
  strict : Bool
  sensitive : Bool
  noEnd : Bool
  endsWith : List String
  deriving DecidableEq, Repr

structure Match where
  template : String
  path : String
  exact : Bool
  strict : Bool
  sensitive : Bool
  deriving DecidableEq, Repr

structure Dispatch where
  /-- The file of the fixtures. -/
  fixtures : String
  /-- The file of the configuration. -/
  config : Option String
  /-- What the request carries, as JSON. -/
  payload : Option String
  /-- The server does not wait. -/
  noLatency : Bool
  method : Http.Method
  url : String
  deriving DecidableEq, Repr

end Command

inductive Command where
  | compile (c : Command.Compile)
  | «match» (c : Command.Match)
  | dispatch (c : Command.Dispatch)
  deriving DecidableEq, Repr

namespace Command

def compileSignature : Signature where
  options := [
    { name := "strict", shape := .flag }, { name := "sensitive", shape := .flag },
    { name := "no-end", shape := .flag }, { name := "ends-with", shape := .many }]
  operands := [{ name := "TEMPLATE", shape := .single, required := true }]

def matchSignature : Signature where
  options := [
    { name := "exact", shape := .flag }, { name := "strict", shape := .flag },
    { name := "sensitive", shape := .flag }]
  operands := [
    { name := "TEMPLATE", shape := .single, required := true },
    { name := "PATH", shape := .single, required := true }]

/-- A file must have a name. -/
def fileFault (value : String) : Option UsageError :=
  if value.isEmpty then some .invalidValue else none

/-- A method must be known. -/
def methodFault (value : String) : Option UsageError :=
  if (Http.Method.parse? value).isSome then none else some .valueValidation

def dispatchSignature : Signature where
  options := [
    { name := "fixtures", short := some 'f', shape := .single, required := true
      fault := fileFault },
    { name := "config", short := some 'c', shape := .single, fault := fileFault },
    { name := "payload", shape := .single }, { name := "no-latency", shape := .flag }]
  operands := [
    { name := "METHOD", shape := .single, required := true, fault := methodFault },
    { name := "URL", shape := .single, required := true }]

def readCompile (words : List String) : Except UsageError Command := do
  let t ← compileSignature.read words
  return .compile {
    template := (t.value? "TEMPLATE").getD "", strict := t.has "strict"
    sensitive := t.has "sensitive", noEnd := t.has "no-end", endsWith := t.valuesOf "ends-with" }

def readMatch (words : List String) : Except UsageError Command := do
  let t ← matchSignature.read words
  return .match {
    template := (t.value? "TEMPLATE").getD "", path := (t.value? "PATH").getD ""
    exact := t.has "exact", strict := t.has "strict", sensitive := t.has "sensitive" }

def readDispatch (words : List String) : Except UsageError Command := do
  let t ← dispatchSignature.read words
  return .dispatch {
    fixtures := (t.value? "fixtures").getD "", config := t.value? "config"
    payload := t.value? "payload", noLatency := t.has "no-latency"
    method := ((t.value? "METHOD").bind Http.Method.parse?).getD .get
    url := (t.value? "URL").getD "" }

/-- The names of the commands, and of the one that asks for help. -/
def names : List String := ["compile", "match", "dispatch", "help"]

/-- The words after the name of the command that asks for help name a command at most. -/
def helpError : List String → UsageError
  | [] => .displayHelp
  | [name] => if names.contains name then .displayHelp else .invalidSubcommand
  | _ => .invalidSubcommand

/-- What a word of short names asks for where no command has been named. -/
def shortError : List Char → UsageError
  | 'h' :: _ => .displayHelp
  | 'V' :: _ => .displayVersion
  | _ => .unknownArgument

/-- What a word of a long name asks for where no command has been named. -/
def longError (word : List Char) : UsageError :=
  let (name, value) := word.span (· ≠ '=')
  if name = "help".toList then (if value.isEmpty then .displayHelp else .tooManyValues)
  else if name = "version".toList then (if value.isEmpty then .displayVersion else .tooManyValues)
  else .unknownArgument

/-- The command that the words of a command line name. -/
def parse : List String → Except UsageError Command
  | [] => .error .displayHelpOnMissingArgumentOrSubcommand
  | "compile" :: words => readCompile words
  | "match" :: words => readMatch words
  | "dispatch" :: words => readDispatch words
  | "help" :: words => .error (helpError words)
  | word :: words =>
    .error (match word.toList with
      | ['-', '-'] =>
        match words with
        | [] => .displayHelpOnMissingArgumentOrSubcommand
        | next :: _ => if names.contains next then .unknownArgument else .invalidSubcommand
      | '-' :: '-' :: name => longError name
      | '-' :: c :: rest => shortError (c :: rest)
      | _ => .invalidSubcommand)

end Command

end MockHttp
