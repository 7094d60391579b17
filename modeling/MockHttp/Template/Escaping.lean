/-!
# Text inside expressions

Three ways to bring text into an expression so that it cannot change what stands around it: as
literal text, as the content of a bracket expression, and as the body of a group.
-/

namespace MockHttp.Template

/-- A character that means something outside of brackets. -/
def isOperator (c : Char) : Bool :=
  ['\\', '.', '+', '*', '?', '(', ')', '|', '[', ']', '\x7B', '\x7D', '^', '$'].contains c

/-- A character that means something inside of brackets. -/
def isBracketOperator (c : Char) : Bool :=
  ['\\', '[', ']', '^', '-', '&', '~'].contains c

/-- The text with a backslash before every character that `special` selects. -/
def escapeWhere (special : Char → Bool) : List Char → List Char
  | [] => []
  | c :: cs =>
    if special c then '\\' :: c :: escapeWhere special cs else c :: escapeWhere special cs

/-- The text as an expression that matches it. -/
def escapeLiteral : List Char → List Char := escapeWhere isOperator

/-- The text as the content of a bracket expression that holds its characters. -/
def escapeBrackets : List Char → List Char := escapeWhere isBracketOperator

/-- The body of a group with a backslash before every parenthesis and every dollar sign that has
none. Pairs of a backslash and a character stay as they are. -/
def escapeGroup : List Char → List Char
  | [] => []
  | ['\\'] => ['\\']
  | '\\' :: c :: cs => '\\' :: c :: escapeGroup cs
  | c :: cs =>
    if c = '(' ∨ c = ')' ∨ c = '$' then '\\' :: c :: escapeGroup cs else c :: escapeGroup cs

end MockHttp.Template
