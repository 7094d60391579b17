import MockHttp.Json.Printer
import MockHttp.Template.Expression

/-!
# Matches of templates

A `RouteMatch` says which template matched, which part of the text, and the values of the
parameters in their order. A name that occurs several times refers to its last parameter.
-/

namespace MockHttp.Template

structure RouteMatch where
  /-- The template. -/
  path : String
  /-- The part of the text that matched. -/
  url : String
  /-- That part is the whole text. -/
  isExact : Bool
  /-- The parameters with their values, absent where the parameter took no part. -/
  params : List (ParamName × Option String)
  deriving DecidableEq, Repr

namespace RouteMatch

/-- The value of the last parameter that the test selects. -/
def lastWhere (m : RouteMatch) (test : ParamName → Bool) : Option String :=
  (m.params.reverse.find? (test ·.1)).bind (·.2)

/-- The value of the last parameter that a text refers to. -/
def get (m : RouteMatch) (name : String) : Option String :=
  m.lastWhere (·.answersTo name)

/-- The value of the last parameter without a name that has this number. -/
def getIndex (m : RouteMatch) (i : Nat) : Option String :=
  m.lastWhere (· == .index i)

/-- The values that are there by the names as text, in the order of the names. -/
def paramsMap (m : RouteMatch) : List (String × String) :=
  sortMembers (m.params.filterMap fun (name, value) => value.map (name.toString, ·))

/-- The parameters that no later one shares the name of. -/
def lastParams : List (ParamName × Option String) → List (ParamName × Option String)
  | [] => []
  | (name, value) :: rest =>
    if rest.any (·.1 == name) then lastParams rest else (name, value) :: lastParams rest

def layout (m : RouteMatch) : Json.Layout :=
  .object [
    ("path", .value (.string m.path)), ("url", .value (.string m.url)),
    ("is_exact", .value (.bool m.isExact)),
    ("params", .object ((lastParams m.params).map fun (name, value) =>
      (name.toString, .value (Json.ofString? value))))]

end RouteMatch

/-- What the pattern of a template says about a text. With `exact` a match must be the whole text.
The template `/` matches the empty text as if it were a slash. -/
def Pattern.matchText (p : Pattern) (template text : String) (exact : Bool) :
    Except PatternError (Option RouteMatch) :=
  match p.regex.find text.toList with
  | .error cause => .error (.gaveUp cause)
  | .ok none => .ok none
  | .ok (some found) =>
    let part := String.ofList (found.span.text text.toList)
    let url := if template = "/" ∧ part = "" then "/" else part
    let isExact := text = url
    if exact ∧ ¬isExact then .ok none
    else .ok (some {
      path := template
      url := url
      isExact := isExact
      params := p.params.zipIdx.map fun (param, i) =>
        (param.name, (found.group? (i + 1)).map fun span =>
          String.ofList (span.text text.toList)) })

/-- The flags that select the compiled form of a template. -/
structure MatchFlags where
  /-- The match reaches to the end of the text. -/
  stop : Bool
  /-- A delimiter at the end is not tolerated. -/
  strict : Bool
  /-- Case counts in literal text. -/
  sensitive : Bool
  deriving DecidableEq, Repr

def MatchFlags.options (flags : MatchFlags) : Options :=
  { stop := flags.stop, strict := flags.strict, sensitive := flags.sensitive }

/-- The compiled form of a template under some flags. -/
def MatchFlags.compile (flags : MatchFlags) (template : String) : Except PatternError Pattern :=
  (Source.template template.toList).compile flags.options

/-- What a text is matched with: templates, earlier ones preferred. -/
structure RoutePattern where
  paths : List String
  /-- The whole text must match. -/
  exact : Bool := false
  strict : Bool := false
  sensitive : Bool := false
  deriving DecidableEq, Repr

def RoutePattern.flags (p : RoutePattern) : MatchFlags :=
  ⟨p.exact, p.strict, p.sensitive⟩

end MockHttp.Template
