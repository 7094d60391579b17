/-!
# Words of a command line

How the words after the name of a command are taken for flags, options with values and operands. A
long name follows two hyphens, a short one a single hyphen, where several can be joined; a value
follows its option as the next word or in the same word. After a word of two hyphens all words are
operands.

An option's value or an operand is looked at only when the next one begins, so that of two faults
the one that comes to light first is reported.
-/

namespace MockHttp.Command

inductive UsageError where
  /-- A value is missing. -/
  | invalidValue
  | unknownArgument
  | invalidSubcommand
  /-- A value is not one of those that the option admits. -/
  | valueValidation
  /-- A flag is given a value. -/
  | tooManyValues
  /-- What may be given once is given twice. -/
  | argumentConflict
  | missingRequiredArgument
  /-- Help is asked for. -/
  | displayHelp
  /-- The version is asked for. -/
  | displayVersion
  /-- There is no command. -/
  | displayHelpOnMissingArgumentOrSubcommand
  deriving DecidableEq, Repr

/-- What an argument takes. -/
inductive Shape where
  /-- It is there or not. -/
  | flag
  /-- It has one value. -/
  | single
  /-- It has a value each time that it is given. -/
  | many
  /-- It asks for help. -/
  | help
  deriving DecidableEq, Repr

structure Argument where
  /-- The long name of an option, or what the operand is called. -/
  name : String
  short : Option Char := none
  shape : Shape
  required : Bool := false
  /-- What is wrong with a value. -/
  fault : String → Option UsageError := fun _ => none

structure Signature where
  /-- Flags and options. -/
  options : List Argument
  /-- Operands in their order. -/
  operands : List Argument

def helpFlag : Argument := { name := "help", short := some 'h', shape := .help }

/-- A flag or an option by its long name. -/
def Signature.long? (s : Signature) (name : String) : Option Argument :=
  (helpFlag :: s.options).find? (·.name == name)

def Signature.short? (s : Signature) (name : Char) : Option Argument :=
  (helpFlag :: s.options).find? (·.short == some name)

/-- What has been taken from the words so far. -/
structure Taken where
  /-- The names of arguments with their values, first to last; a flag has the empty one. -/
  values : List (String × String) := []
  /-- An argument that has not been looked at yet, with its value if that is there. -/
  pending : Option (Argument × Option String) := none
  /-- The number of operands. -/
  operands : Nat := 0
  /-- All further words are operands. -/
  operandsOnly : Bool := false

namespace Taken

/-- An argument with a value is taken. -/
def record (t : Taken) (a : Argument) (value : String) : Except UsageError Taken :=
  if a.shape ≠ .many && t.values.any (·.1 == a.name) then .error .argumentConflict
  else match a.fault value with
    | some e => .error e
    | none => .ok { t with values := t.values ++ [(a.name, value)] }

/-- The pending argument is looked at. -/
def settle (t : Taken) : Except UsageError Taken :=
  match t.pending with
  | none => .ok t
  | some (_, none) => .error .invalidValue
  | some (a, some value) => { t with pending := none }.record a value

def flag (t : Taken) (a : Argument) : Except UsageError Taken := do
  let t ← t.settle
  if a.shape = .help then .error .displayHelp else t.record a ""

/-- An option is taken, with its value if that is in the same word. -/
def option (t : Taken) (a : Argument) (value : Option String) : Except UsageError Taken := do
  let t ← t.settle
  match value with
  | some v => t.record a v
  | none => return { t with pending := some (a, none) }

def operand (s : Signature) (t : Taken) (word : String) : Except UsageError Taken :=
  match s.operands[t.operands]? with
  | some a => do
    let t ← t.settle
    return { t with pending := some (a, some word), operands := t.operands + 1 }
  | none => .error .unknownArgument

/-- A word of a long name is taken, perhaps with a value after an equals sign. -/
def longWord (s : Signature) (t : Taken) (word : List Char) : Except UsageError Taken :=
  let (name, rest) := word.span (· ≠ '=')
  let value := match rest with
    | _ :: value => some (String.ofList value)
    | [] => none
  match s.long? (String.ofList name) with
  | none => .error .unknownArgument
  | some a =>
    if a.shape = .flag || a.shape = .help then
      if value.isSome then .error .tooManyValues else t.flag a
    else t.option a value

/-- A word of short names is taken. What follows the name of an option is its value, perhaps after
an equals sign. -/
def shortWord (s : Signature) (t : Taken) : List Char → Except UsageError Taken
  | [] => .ok t
  | c :: rest =>
    match s.short? c with
    | none => .error .unknownArgument
    | some a =>
      if a.shape = .flag || a.shape = .help then do shortWord s (← t.flag a) rest
      else
        t.option a (match rest with
          | [] => none
          | '=' :: value => some (String.ofList value)
          | value => some (String.ofList value))

def word (s : Signature) (t : Taken) (text : String) : Except UsageError Taken :=
  if t.operandsOnly then t.operand s text
  else match text.toList with
    | ['-', '-'] => .ok { t with operandsOnly := true }
    | '-' :: '-' :: name => t.longWord s name
    | '-' :: c :: rest => t.shortWord s (c :: rest)
    | _ =>
      match t.pending with
      | some (a, none) => .ok { t with pending := some (a, some text) }
      | _ => t.operand s text

def valuesOf (t : Taken) (name : String) : List String :=
  (t.values.filter (·.1 == name)).map (·.2)

/-- The value of an argument that has at most one. -/
def value? (t : Taken) (name : String) : Option String := (t.valuesOf name).head?

def has (t : Taken) (name : String) : Bool := t.values.any (·.1 == name)

end Taken

/-- What the words after the name of a command give. -/
def Signature.read (s : Signature) (words : List String) : Except UsageError Taken := do
  let t ← words.foldlM (Taken.word s) {}
  let t ← t.settle
  if (s.options ++ s.operands).all fun a => !a.required || t.has a.name then return t
  else .error .missingRequiredArgument

end MockHttp.Command
