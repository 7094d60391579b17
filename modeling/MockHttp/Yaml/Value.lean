import MockHttp.Config.Record
import MockHttp.Decimal.Text
import MockHttp.Yaml.Node

/-!
# Values of YAML nodes

What a node stands for, by what is asked of it. As text every scalar stands for itself, however it
is written; only a plain scalar can be null, a truth value or a number.
-/

namespace MockHttp.Yaml

def isNull (text : String) : Bool := ["null", "Null", "NULL", "~"].contains text

def truth? (text : String) : Option Bool :=
  if ["true", "True", "TRUE"].contains text then some true
  else if ["false", "False", "FALSE"].contains text then some false
  else none

/-- A number with leading zeros, which counts as text. -/
def hasLeadingZero (cs : List Char) : Bool :=
  let digits := match cs with
    | '-' :: rest => rest
    | '+' :: rest => rest
    | _ => cs
  match digits with
  | '0' :: more => !more.isEmpty && more.all Char.isDigit
  | _ => false

/-- The number that digits write, to the base that their beginning tells. -/
def digits? (cs : List Char) : Option Nat :=
  match cs with
  | '0' :: 'x' :: rest => Text.digitsValue? 16 rest
  | '0' :: 'o' :: rest => Text.digitsValue? 8 rest
  | '0' :: 'b' :: rest => Text.digitsValue? 2 rest
  | _ => if hasLeadingZero cs then none else Text.digitsValue? 10 cs

def integer? (text : String) : Option Int :=
  match text.toList with
  | '-' :: rest => (digits? rest).map fun n => -(n : Int)
  | '+' :: rest => (digits? rest).map Int.ofNat
  | cs => (digits? cs).map Int.ofNat

/-- A number that is no integer: a finite one, an infinite one or none at all, the last two of which
have no value. -/
def real? (text : String) : Option (Option Double) :=
  if [".inf", ".Inf", ".INF", "+.inf", "+.Inf", "+.INF", "-.inf", "-.Inf", "-.INF", ".nan", ".NaN",
    ".NAN"].contains text then some none
  else (Double.ofText? text.toList).map some

/-- The value of an integer, which must be one of 64 bits. -/
def integerValue? (n : Int) : Option Json :=
  if -(Nat.pow 2 63) ≤ n ∧ n < Nat.pow 2 64 then some (.int n) else none

def realValue : Option Double → Json
  | some x => .real x
  | none => .null

/-- The value of a plain scalar. An integer of more than 64 but at most 128 bits is an error; beyond
that it is a real number. -/
def plainValue? (text : String) : Option Json :=
  if text.isEmpty || isNull text then some .null
  else match truth? text with
    | some b => some (.bool b)
    | none =>
      match integer? text with
      | some n =>
        if -(Nat.pow 2 127) ≤ n ∧ n < Nat.pow 2 128 then integerValue? n
        else match real? text with
          | some x => some (realValue x)
          | none => some (.string text)
      | none =>
        if hasLeadingZero text.toList then some (.string text)
        else match real? text with
          | some x => some (realValue x)
          | none => some (.string text)

/-- What the tags of the core schema begin with. -/
def coreTag : String := "tag:yaml.org,2002:"

/-- The tag is one of the application. -/
def isLocal (tag : Option String) : Bool := tag.any (·.startsWith "!")

def scalarValue? (style : Style) (tag : Option String) (text : String) : Option Json :=
  match tag with
  | none => if style = .plain then plainValue? text else some (.string text)
  | some tag =>
    if tag.startsWith "!" then none
    else if tag = coreTag ++ "bool" then (truth? text).map .bool
    else if tag = coreTag ++ "int" then (integer? text).bind integerValue?
    else if tag = coreTag ++ "float" then (real? text).map realValue
    else if tag = coreTag ++ "null" then (if isNull text then some .null else none)
    else some (.string text)

namespace Document

/-- The node itself, or the one that it is an alias of. -/
def target? (d : Document) : Node → Option Node
  | .alias i => d.anchored.lookup i
  | n => some n

def text? (d : Document) (n : Node) : Option String :=
  match d.target? n with
  | some (.scalar _ _ text) => some text
  | _ => none

/-- The text of a scalar that may stand for something other than text, being plain, or a literal
block with the tag of that. -/
def plainText? (d : Document) (kind : String) (n : Node) : Option String :=
  match d.target? n with
  | some (.scalar .plain _ text) => some text
  | some (.scalar .literal tag text) => if tag = some (coreTag ++ kind) then some text else none
  | _ => none

/-- A number from zero to a greatest one. -/
def number? (d : Document) (greatest : Nat) (n : Node) : Option Nat :=
  match (d.plainText? "int" n).map String.toList with
  | some ('-' :: _) => none
  | some ('+' :: rest) => (digits? rest).filter (· ≤ greatest)
  | some cs => (digits? cs).filter (· ≤ greatest)
  | none => none

def flag? (d : Document) (n : Node) : Option Bool :=
  (d.plainText? "bool" n).bind truth?

/-- A method: its name, or a tag with its name at nothing. -/
def method? (d : Document) (n : Node) : Option Http.Method :=
  match d.target? n with
  | some (.scalar style tag text) =>
    match tag.map String.toList with
    | some ('!' :: name) =>
      if style = .plain && (text.isEmpty || isNull text) then
        Http.Method.ofName? (String.ofList name)
      else none
    | _ => Http.Method.ofName? text
  | _ => none

/-- The pairs of a mapping whose keys are scalars, by the text of those. Nothing at all counts as an
empty mapping. -/
def members? (d : Document) (n : Node) : Option (List (String × Node)) :=
  match d.target? n with
  | some (.mapping _ pairs) => pairs.mapM fun (key, value) => (d.text? key).map (·, value)
  | some (.scalar .plain _ "") => some []
  | _ => none

/-- The items of a sequence. Nothing at all counts as an empty sequence. -/
def items? (d : Document) (n : Node) : Option (List Node) :=
  match d.target? n with
  | some (.sequence _ items) => some items
  | some (.scalar .plain _ "") => some []
  | _ => none

/-- There is nothing where a value may be missing, or there is a value. An error if something is
tagged as null and is not. -/
def optional? (d : Document) (n : Node) : Option (Option Node) :=
  match d.target? n with
  | some (.scalar .plain tag text) =>
    match tag with
    | none => some (if text.isEmpty || isNull text then none else some n)
    | some tag =>
      if tag = coreTag ++ "null" then (if isNull text then some none else none)
      else some (if text.isEmpty then none else some n)
  | some _ => some (some n)
  | none => none

/-- The node as a JSON value, in which sequences and mappings are nested `depth` deep at most. -/
def json? (d : Document) : Nat → Node → Option Json
  | depth, n =>
    match d.target? n with
    | some (.scalar style tag text) => scalarValue? style tag text
    | some (.sequence tag items) =>
      match depth with
      | 0 => none
      | depth + 1 => if isLocal tag then none else (items.mapM (d.json? depth)).map .array
    | some (.mapping tag pairs) =>
      match depth with
      | 0 => none
      | depth + 1 =>
        if isLocal tag then none
        else (pairs.mapM fun (key, value) => do
          return (← d.text? key, ← d.json? depth value)).map Json.ofMembers
    | _ => none

def format (d : Document) : Config.Format Node where
  text? := d.text?
  number? := d.number?
  flag? := d.flag?
  method? := d.method?
  fields? names n := (d.members? n).bind (Config.selectFields names)

end Document

end MockHttp.Yaml
