import MockHttp.Template.Escaping
import MockHttp.Template.Token

/-!
# Reading templates

`pieces` splits a template into escaped characters, markers and plain characters; a marker is
`:name`, `:name(body)` or `(body)`, each perhaps followed by `?`, `+` or `*`. `assemble` joins the
characters between markers to literal texts and turns the markers into parameters.
-/

namespace MockHttp.Template

/-- How often a marker asks for a value. -/
inductive Modifier where
  /-- `?`: at most once. -/
  | optional
  /-- `+`: at least once. -/
  | repeated
  /-- `*`: any number of times. -/
  | optionalRepeated
  deriving DecidableEq, Repr

namespace Modifier

def ofChar? : Char → Option Modifier
  | '?' => some optional
  | '+' => some repeated
  | '*' => some optionalRepeated
  | _ => none

def isOptional : Modifier → Bool
  | optional | optionalRepeated => true
  | repeated => false

def isRepeated : Modifier → Bool
  | repeated | optionalRepeated => true
  | optional => false

end Modifier

/-- A marker: the name and the body of the group, at least one of which is there, the modifier, and
the character that follows. -/
structure Marker where
  name : Option (List Char)
  body : Option (List Char)
  modifier : Option Modifier
  next : Option Char
  deriving DecidableEq, Repr

/-- A piece of a template. -/
inductive Piece where
  | plain (c : Char)
  | escaped (c : Char)
  | marker (m : Marker)
  deriving DecidableEq, Repr

def isNameChar (c : Char) : Bool :=
  c.isAlphanum || c == '_'

/-- The text before the parenthesis that closes a group, and the text after it. A group holds no
parenthesis that is not escaped. -/
def closeGroup : List Char → Option (List Char × List Char)
  | [] | ['\\'] | '(' :: _ => none
  | ')' :: rest => some ([], rest)
  | '\\' :: c :: rest => (closeGroup rest).map fun (body, rest) => ('\\' :: c :: body, rest)
  | c :: rest => (closeGroup rest).map fun (body, rest) => (c :: body, rest)

/-- The body of the group that the text begins with, which is not empty, and the text after it. -/
def group? : List Char → Option (List Char × List Char)
  | '(' :: rest => (closeGroup rest).filter fun (body, _) => !body.isEmpty
  | _ => none

/-- The modifier that the text begins with, and the text after it. -/
def modifier (cs : List Char) : Option Modifier × List Char :=
  match cs with
  | c :: rest =>
    match Modifier.ofChar? c with
    | some m => (some m, rest)
    | none => (none, cs)
  | [] => (none, [])

/-- The marker with that name and body, whose modifier the text begins with, and the text after
it. -/
def completeMarker (name body : Option (List Char)) (cs : List Char) : Marker × List Char :=
  let (found, rest) := modifier cs
  (⟨name, body, found, rest.head?⟩, rest)

/-- The marker that the text begins with, and the text after it. -/
def marker? : List Char → Option (Marker × List Char)
  | ':' :: cs =>
    let name := cs.takeWhile isNameChar
    let rest := cs.dropWhile isNameChar
    if name.isEmpty then none
    else match group? rest with
      | some (body, rest) => some (completeMarker (some name) (some body) rest)
      | none => some (completeMarker (some name) none rest)
  | cs => (group? cs).map fun (body, rest) => completeMarker none (some body) rest

def pieces (cs : List Char) : List Piece :=
  match cs with
  | [] => []
  | '\\' :: c :: rest => .escaped c :: pieces rest
  | c :: rest =>
    match marker? (c :: rest) with
    | some (m, after) =>
      if _h : after.length ≤ rest.length then .marker m :: pieces after else []
    | none => .plain c :: pieces rest
termination_by cs.length

structure Delimiters where
  /-- What separates the values of a parameter that takes no delimiter along. -/
  default : List Char := ['/']
  /-- The characters that a parameter takes along. -/
  leads : List Char := ['.', '/']
  deriving DecidableEq, Repr

/-- The expression of a value that holds no character of the delimiter. -/
def defaultPattern (delimiter : List Char) : List Char :=
  ['[', '^'] ++ escapeBrackets delimiter ++ [']', '+', '?']

/-- The parameter of a marker, `index` being its number should it have no name. -/
def Marker.toParam (delimiters : Delimiters) (m : Marker) (lead : Option Char) (index : Nat) :
    Param :=
  let delimiter := match lead with
    | some c => [c]
    | none => delimiters.default
  { name := match m.name with
      | some name => .named (String.ofList name)
      | none => .index index
    lead := lead
    delimiter := delimiter
    pattern := match m.body with
      | some body => escapeGroup body
      | none => defaultPattern delimiter
    optional := m.modifier.any Modifier.isOptional
    repeated := m.modifier.any Modifier.isRepeated
    inSegment := lead.isSome && m.next.isSome && m.next != lead }

/-- The literal token of a text that comes latest character first; none for the empty text. -/
def literalOf (text : List Char) : List Token :=
  if text.isEmpty then [] else [.literal text.reverse]

/-- The tokens of the pieces. `text` is the literal text before them, latest character first,
`escaped` says that it holds an escaped character, and `index` is the number of the next parameter
without a name. A parameter takes no delimiter along from text that holds an escaped character. -/
def assemble (delimiters : Delimiters) (text : List Char) (escaped : Bool) (index : Nat) :
    List Piece → List Token
  | [] => literalOf text
  | .plain c :: rest => assemble delimiters (c :: text) escaped index rest
  | .escaped c :: rest => assemble delimiters (c :: text) true index rest
  | .marker m :: rest =>
    let (lead, text) := match text with
      | c :: before =>
        if !escaped && delimiters.leads.contains c then (some c, before) else (none, text)
      | [] => (none, [])
    let next := if m.name.isNone then index + 1 else index
    literalOf text ++
      .param (m.toParam delimiters lead index) ::
        assemble delimiters [] false next rest

def tokenize (delimiters : Delimiters) (template : List Char) : List Token :=
  assemble delimiters [] false 0 (pieces template)

end MockHttp.Template
