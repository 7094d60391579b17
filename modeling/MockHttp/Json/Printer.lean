import MockHttp.Json.Value

/-!
# Writing JSON

`Json.compact` writes a value without blanks, `Json.pretty` over several lines with two blanks for
each level. Members are written in the order of their names. A document whose members have an order
of their own is a `Layout`, which both printers write as it stands.
-/

namespace MockHttp

namespace Json

/-- The lowercase hexadecimal digit of a value below sixteen. -/
def hexDigit (n : Nat) : Char :=
  if n < 10 then Char.ofNat ('0'.toNat + n) else Char.ofNat ('a'.toNat + (n - 10))

def escapeChar (c : Char) : List Char :=
  match c with
  | '"' => ['\\', '"']
  | '\\' => ['\\', '\\']
  | '\n' => ['\\', 'n']
  | '\r' => ['\\', 'r']
  | '\t' => ['\\', 't']
  | '\x08' => ['\\', 'b']
  | '\x0C' => ['\\', 'f']
  | c =>
    if c.toNat < 0x20 then ['\\', 'u', '0', '0', hexDigit (c.toNat / 16), hexDigit (c.toNat % 16)]
    else [c]

def quote (s : String) : List Char :=
  '"' :: s.toList.flatMap escapeChar ++ ['"']

def natText (n : Nat) : List Char := Nat.toDigits 10 n

def intText : Int → List Char
  | .ofNat n => natText n
  | .negSucc n => '-' :: natText (n + 1)

def zeros (count : Nat) : List Char := List.replicate count '0'

/-- The exponent of a number: a sign and at least two digits. -/
def exponentText (e : Int) : List Char :=
  let digits := natText e.natAbs
  let digits := if digits.length < 2 then '0' :: digits else digits
  'e' :: (if e < 0 then '-' else '+') :: digits

/-- The digits of a positive number as JSON writes them: with a point if the first digit stands for
at least `10 ^ -5` and less than `10 ^ 16`, and with an exponent otherwise. -/
def digitsText (digits : List Char) (k : Int) : List Char :=
  let point : Int := digits.length + k
  if 0 ≤ k ∧ point ≤ 16 then digits ++ zeros k.toNat ++ ['.', '0']
  else if 0 < point ∧ point ≤ 16 then
    digits.take point.toNat ++ '.' :: digits.drop point.toNat
  else if -5 < point ∧ point ≤ 0 then ['0', '.'] ++ zeros (-point).toNat ++ digits
  else match digits with
    | [d] => d :: exponentText (point - 1)
    | d :: ds => d :: '.' :: ds ++ exponentText (point - 1)
    | [] => []

/-- A double in the fewest digits that read back as it. -/
def doubleText (x : Double) : List Char :=
  let sign := if x.negative then ['-'] else []
  if x.significand = 0 then sign ++ ['0', '.', '0']
  else
    let (m, k) := x.shortest
    sign ++ digitsText (natText m) k

/-- A document: values, and objects whose members have an order of their own. -/
inductive Layout where
  | value (v : Json)
  | array (items : List Layout)
  | object (members : List (String × Layout))
  deriving Inhabited

def commaSeparated : List (List Char) → List Char
  | [] => []
  | [item] => item
  | item :: items => item ++ ',' :: commaSeparated items

mutual

/-- A value without blanks. -/
def compactText : Json → List Char
  | null => "null".toList
  | bool true => "true".toList
  | bool false => "false".toList
  | int n => intText n
  | real x => doubleText x
  | string s => quote s
  | array items => '[' :: commaSeparated (compactItems items) ++ [']']
  | object members => '\x7B' :: commaSeparated (compactMembers members) ++ ['\x7D']

def compactItems : List Json → List (List Char)
  | [] => []
  | v :: vs => compactText v :: compactItems vs

def compactMembers : List (String × Json) → List (List Char)
  | [] => []
  | (name, v) :: rest => (quote name ++ ':' :: compactText v) :: compactMembers rest

end

def compact (v : Json) : String := String.ofList (compactText v)

mutual

def toLayout : Json → Layout
  | array items => .array (itemLayouts items)
  | object members => .object (memberLayouts members)
  | v => .value v

def itemLayouts : List Json → List Layout
  | [] => []
  | v :: vs => toLayout v :: itemLayouts vs

def memberLayouts : List (String × Json) → List (String × Layout)
  | [] => []
  | (name, v) :: rest => (name, toLayout v) :: memberLayouts rest

end

namespace Layout

/-- A line break and the blanks of a level. -/
def newline (level : Nat) : List Char :=
  '\n' :: List.replicate (2 * level) ' '

/-- The lines between two brackets; nothing if there are none. -/
def block (opening closing : Char) (level : Nat) (lines : List (List Char)) : List Char :=
  if lines.isEmpty then [opening, closing]
  else opening :: newline (level + 1) ++ join lines ++ newline level ++ [closing]
where
  /-- The lines with commas and line breaks between them. -/
  join : List (List Char) → List Char
    | [] => []
    | [line] => line
    | line :: lines => line ++ ',' :: newline (level + 1) ++ join lines

mutual

/-- A document over several lines, `level` levels deep. -/
def prettyText (level : Nat) : Layout → List Char
  | value v => compactText v
  | array items => block '[' ']' level (prettyItems level items)
  | object members => block '\x7B' '\x7D' level (prettyMembers level members)

def prettyItems (level : Nat) : List Layout → List (List Char)
  | [] => []
  | v :: vs => prettyText (level + 1) v :: prettyItems level vs

def prettyMembers (level : Nat) : List (String × Layout) → List (List Char)
  | [] => []
  | (name, v) :: rest =>
    (quote name ++ ':' :: ' ' :: prettyText (level + 1) v) :: prettyMembers level rest

end

mutual

def compactText : Layout → List Char
  | value v => Json.compactText v
  | array items => '[' :: commaSeparated (compactItems items) ++ [']']
  | object members => '\x7B' :: commaSeparated (compactMembers members) ++ ['\x7D']

def compactItems : List Layout → List (List Char)
  | [] => []
  | v :: vs => compactText v :: compactItems vs

def compactMembers : List (String × Layout) → List (List Char)
  | [] => []
  | (name, v) :: rest => (quote name ++ ':' :: compactText v) :: compactMembers rest

end

def pretty (doc : Layout) : String := String.ofList (doc.prettyText 0)

def compact (doc : Layout) : String := String.ofList doc.compactText

end Layout

def pretty (v : Json) : String := v.toLayout.pretty

end Json

end MockHttp
