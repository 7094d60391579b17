import MockHttp.Regex
import MockHttp.Template.Scan

/-!
# Templates as expressions

`expressionOf` writes the expression that matches what the tokens of a template describe; `Pattern`
is a template compiled in this way, with its parameters in the order of the groups they are matched
by. `Source.compile` compiles one template, several as alternatives, or an expression that is given
as such.
-/

namespace MockHttp.Template

structure Options where
  /-- Case counts in literal text. -/
  sensitive : Bool := false
  /-- A delimiter at the end is not tolerated. -/
  strict : Bool := false
  /-- The match begins at the start of the text. -/
  start : Bool := true
  /-- The match reaches to the end of the text. -/
  stop : Bool := true
  /-- The delimiters of the template. -/
  delimiters : Delimiters := {}
  /-- What may follow a match in place of the end of the text. -/
  endsWith : List (List Char) := []
  deriving DecidableEq, Repr

/-- The items with a separator between each two of them. -/
def joinWith (separator : List Char) : List (List Char) → List Char
  | [] => []
  | [item] => item
  | item :: items => item ++ separator ++ joinWith separator items

/-- The text as a group that is not remembered. -/
def groupText (body : List Char) : List Char :=
  ['(', '?', ':'] ++ body ++ [')']

/-- The text as a group that is remembered. -/
def captureText (body : List Char) : List Char :=
  '(' :: body ++ [')']

/-- The text as a condition on what follows. -/
def aheadText (body : List Char) : List Char :=
  ['(', '?', '='] ++ body ++ [')']

/-- The expression of a parameter's value, or of its values with the delimiter between them. -/
def Param.valueText (p : Param) : List Char :=
  if p.repeated then
    groupText p.pattern ++ groupText (escapeLiteral p.delimiter ++ groupText p.pattern) ++ ['*']
  else p.pattern

/-- The delimiter that a parameter takes along, as text. -/
def Param.leadText (p : Param) : List Char :=
  p.lead.toList

def Param.expressionText (p : Param) : List Char :=
  let lead := escapeLiteral p.leadText
  let value := captureText p.valueText
  if p.optional then
    if p.inSegment then lead ++ value ++ ['?'] else groupText (lead ++ value) ++ ['?']
  else lead ++ value

def Token.expressionText : Token → List Char
  | literal text => escapeLiteral text
  | param p => p.expressionText

/-- The tokens end in a delimiter: there are none, or the last one is a literal text whose last
character is one that parameters take along. -/
def endsDelimited (delimiters : Delimiters) (tokens : List Token) : Bool :=
  match tokens.getLast? with
  | none => true
  | some (.literal text) => text.getLast?.any delimiters.leads.contains
  | some (.param _) => false

namespace Options

/-- The expression of what may stand after a match: an accepted terminator or the end of the
text. -/
def terminatorText (options : Options) : List Char :=
  joinWith ['|'] (options.endsWith.map escapeLiteral ++ [['$']])

/-- The expression of how a match ends. `delimited` says that the tokens end in a delimiter. -/
def endingText (options : Options) (delimited : Bool) : List Char :=
  let delimiter := escapeLiteral options.delimiters.default
  let terminator := options.terminatorText
  if options.stop then
    (if options.strict then [] else groupText delimiter ++ ['?']) ++
      (if terminator = ['$'] then ['$'] else aheadText terminator)
  else
    (if options.strict then [] else groupText (delimiter ++ aheadText terminator) ++ ['?']) ++
      (if delimited then [] else aheadText (delimiter ++ '|' :: terminator))

def flagText (options : Options) : List Char :=
  if options.sensitive then [] else ['(', '?', 'i', ')']

end Options

/-- The expression of some tokens, without flags. -/
def expressionOf (options : Options) (tokens : List Token) : List Char :=
  (if options.start then ['^'] else []) ++ tokens.flatMap Token.expressionText ++
    options.endingText (endsDelimited options.delimiters tokens)

/-- What can go wrong between a template and its values. -/
inductive PatternError where
  /-- The expression cannot be read. -/
  | invalidExpression (source : String) (cause : Regex.SyntaxError)
  /-- A value could not be compared with its pattern. -/
  | undecidedValue (pattern : String) (cause : Regex.Failure)
  /-- A parameter that must have a value has none. -/
  | missingParam (name : String)
  /-- A value does not match the pattern of its parameter. -/
  | invalidParam (name pattern value : String)
  /-- A parameter that has one value is given several. -/
  | unexpectedRepeat (name : String)
  /-- The search for a match was given up. -/
  | gaveUp (cause : Regex.Failure)
  deriving DecidableEq, Repr

namespace PatternError

/-- The sentence that names an expression as invalid. -/
def invalidText (source : String) : String :=
  "invalid pattern expression `" ++ source ++ "`"

def message : PatternError → String
  | invalidExpression source cause => invalidText source ++ ": " ++ cause.message
  | undecidedValue pattern cause => invalidText pattern ++ ": " ++ cause.message
  | missingParam name => "expected parameter `" ++ name ++ "` to be provided"
  | invalidParam name pattern value =>
    "expected parameter `" ++ name ++ "` to match `" ++ pattern ++ "`, got `" ++ value ++ "`"
  | unexpectedRepeat name => "expected parameter `" ++ name ++ "` to not repeat"
  | gaveUp cause => "pattern execution failed: " ++ cause.message

end PatternError

/-- A template compiled to an expression: the value of a parameter is what the group with the same
place in the order remembers. -/
structure Pattern where
  regex : Regex
  params : List Param
  deriving DecidableEq, Repr

def readExpression (text : List Char) : Except PatternError Regex :=
  let source := String.ofList text
  match Regex.ofPattern source with
  | .ok re => .ok re
  | .error cause => .error (.invalidExpression source cause)

def compileTokens (options : Options) (tokens : List Token) : Except PatternError Pattern := do
  let re ← readExpression (options.flagText ++ expressionOf options tokens)
  return ⟨re, paramsOf tokens⟩

/-- The parameter of a group that no template describes. -/
def positionalParam (i : Nat) : Param where
  name := .index i
  lead := none
  delimiter := []
  pattern := []
  optional := false
  repeated := false
  inSegment := false

/-- What a pattern is compiled from. -/
inductive Source where
  /-- A template. -/
  | template (text : List Char)
  /-- Several templates, earlier ones preferred. -/
  | anyOf (templates : List (List Char))
  /-- An expression; its groups are parameters without names. -/
  | expression (re : Regex)

namespace Source

def compile (options : Options) : Source → Except PatternError Pattern
  | template text => compileTokens options (tokenize options.delimiters text)
  | anyOf templates => do
    let all := templates.map (tokenize options.delimiters)
    let body := joinWith ['|'] (all.map (expressionOf options))
    let re ← readExpression (options.flagText ++ groupText body)
    return ⟨re, all.flatMap paramsOf⟩
  | expression re => .ok ⟨re, (List.range re.groups).map positionalParam⟩

end Source

end MockHttp.Template
