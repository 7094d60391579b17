import MockHttp.Template.Expression

/-!
# Paths from templates

`pathOf` puts values in the places of parameters. Every value is compared with the pattern of its
parameter before it is used.
-/

namespace MockHttp.Template

/-- The values of parameters. A later entry for a name replaces an earlier one. -/
abbrev Values := List (ParamName × List (List Char))

namespace Values

/-- The values of a parameter; no entry is the same as no values. -/
def get (values : Values) (name : ParamName) : List (List Char) :=
  match values.reverse.lookup name with
  | some found => found
  | none => []

/-- The values with those of one parameter replaced. -/
def set (values : Values) (name : ParamName) (given : List (List Char)) : Values :=
  values.filter (·.1 != name) ++ [(name, given)]

end Values

/-- The expression that a whole value of the parameter matches. -/
def Param.valueExpression (p : Param) : List Char :=
  '^' :: groupText p.pattern ++ ['$']

/-- The value matches the pattern of the parameter. -/
def Param.admits (p : Param) (value : List Char) : Except PatternError Bool := do
  let re ← readExpression p.valueExpression
  match re.isMatch value with
  | .ok answer => return answer
  | .error cause => throw (.undecidedValue (String.ofList p.pattern) cause)

/-- The values of a parameter as they stand in a path: the first one after the delimiter that the
parameter takes along, every other one after the delimiter between values. -/
def Param.write (p : Param) (before : List Char) :
    List (List Char) → Except PatternError (List Char)
  | [] => .ok []
  | value :: rest => do
    if ← p.admits value then
      return before ++ value ++ (← p.write p.delimiter rest)
    else
      throw (.invalidParam p.name.toString (String.ofList p.pattern) (String.ofList value))

/-- The part of a path that a parameter with these values stands for. -/
def Param.fill (p : Param) (values : List (List Char)) : Except PatternError (List Char) :=
  if values.isEmpty then
    if p.optional then .ok [] else .error (.missingParam p.name.toString)
  else if values.length > 1 && !p.repeated then .error (.unexpectedRepeat p.name.toString)
  else p.write p.leadText values

/-- The path that some tokens and values describe. -/
def pathOf (values : Values) : List Token → Except PatternError (List Char)
  | [] => .ok []
  | .literal text :: rest => return text ++ (← pathOf values rest)
  | .param p :: rest => do
    let part ← p.fill (values.get p.name)
    return part ++ (← pathOf values rest)

end MockHttp.Template
