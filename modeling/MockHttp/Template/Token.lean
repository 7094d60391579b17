import MockHttp.Text.Number

/-!
# Template tokens

A path template such as `/users/:id(\d+)?` is a sequence of literal texts and parameters. A
parameter may take the delimiter before it along, so that the delimiter is absent where the
parameter is.
-/

namespace MockHttp.Template

/-- What a parameter is called: its name in the template, or its number among the parameters that
have none. -/
inductive ParamName where
  | named (name : String)
  | index (i : Nat)
  deriving DecidableEq, Repr

namespace ParamName

def toString : ParamName → String
  | named name => name
  | index i => Nat.repr i

/-- The text refers to the parameter. A parameter without a name is referred to by any spelling of
its number. -/
def answersTo (name : ParamName) (text : String) : Bool :=
  match name with
  | named n => n == text
  | index i =>
    match Text.readWord text with
    | .ok n => n == i
    | .error _ => false

end ParamName

structure Param where
  /-- What it is called. -/
  name : ParamName
  /-- The delimiter that stands before the value and is absent with it. -/
  lead : Option Char
  /-- What separates repeated values. -/
  delimiter : List Char
  /-- The expression that each value matches. -/
  pattern : List Char
  /-- The value may be absent. -/
  optional : Bool
  /-- There may be several values. -/
  repeated : Bool
  /-- The text goes on after the parameter without the delimiter that stands before it; if the value
  is absent, that delimiter stays. -/
  inSegment : Bool
  deriving DecidableEq, Repr

inductive Token where
  | literal (text : List Char)
  | param (p : Param)
  deriving DecidableEq, Repr

def Token.param? : Token → Option Param
  | literal _ => none
  | param p => some p

def paramsOf (tokens : List Token) : List Param :=
  tokens.filterMap Token.param?

end MockHttp.Template
