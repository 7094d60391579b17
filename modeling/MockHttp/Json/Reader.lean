import MockHttp.Json.Printer
import MockHttp.Text.Number

/-!
# Reading JSON

`Json.parse?` reads a document and refuses everything else: blanks are space, tab, line feed and
carriage return; arrays and objects may be nested `maxDepth` levels deep; a number must be in the
range of a double; an escaped surrogate must be half of a pair.

A number with a point or an exponent is the product or quotient of two doubles, its digits and a
power of ten, and may be one step away from the double nearest to it.
-/

namespace MockHttp.Json

def hex4? (a b c d : Char) : Option Nat :=
  [a, b, c, d].foldlM (fun n digit => (Text.hexDigit? digit).map (n * 16 + ·)) 0

/-- The character that a letter after a backslash writes. -/
def unescape? : Char → Option Char
  | '"' => some '"'
  | '\\' => some '\\'
  | '/' => some '/'
  | 'b' => some '\x08'
  | 'f' => some '\x0C'
  | 'n' => some '\n'
  | 'r' => some '\r'
  | 't' => some '\t'
  | _ => none

/-- The characters up to the quotation mark that ends a string, and the text after it. -/
def stringBody : List Char → Option (List Char × List Char)
  | [] => none
  | '"' :: rest => some ([], rest)
  | '\\' :: 'u' :: a :: b :: c :: d :: rest => do
    let n ← hex4? a b c d
    if 0xDC00 ≤ n ∧ n < 0xE000 then none
    else if 0xD800 ≤ n ∧ n < 0xDC00 then
      match rest with
      | '\\' :: 'u' :: a :: b :: c :: d :: rest =>
        let m ← hex4? a b c d
        if 0xDC00 ≤ m ∧ m < 0xE000 then
          let (body, rest) ← stringBody rest
          return (Char.ofNat (0x10000 + (n - 0xD800) * 0x400 + (m - 0xDC00)) :: body, rest)
        else none
      | _ => none
    else
      let (body, rest) ← stringBody rest
      return (Char.ofNat n :: body, rest)
  | '\\' :: c :: rest => do
    let c ← unescape? c
    let (body, rest) ← stringBody rest
    return (c :: body, rest)
  | c :: rest =>
    if c.toNat < 0x20 || c = '\\' then none
    else (stringBody rest).map fun (body, rest) => (c :: body, rest)

def skipBlank : List Char → List Char
  | c :: rest => if c = ' ' ∨ c = '\n' ∨ c = '\t' ∨ c = '\r' then skipBlank rest else c :: rest
  | [] => []

def digitValue (c : Char) : Nat := c.toNat - '0'.toNat

/-- The significand that the digits add to the one before them, as long as it stays below `2 ^ 64`;
how many digits it took, and the text after those. -/
def takeDigits (significand taken : Nat) : List Char → Nat × Nat × List Char
  | c :: rest =>
    if c.isDigit && significand * 10 + digitValue c < Nat.pow 2 64 then
      takeDigits (significand * 10 + digitValue c) (taken + 1) rest
    else (significand, taken, c :: rest)
  | [] => (significand, taken, [])

/-- The double `significand * 10 ^ exponent`: the significand is rounded, and the rounded power of
ten is multiplied with it or divides it. -/
def doubleOf? (negative : Bool) (significand : Nat) (exponent : Int) : Option Double := do
  let x ← Double.ofRatio? negative significand 1
  if exponent < -616 then return .zero negative
  else if exponent < -308 then
    let y ← x.div? (← Double.ofRatio? false (Nat.pow 10 308) 1)
    y.div? (← Double.ofRatio? false (Nat.pow 10 (-exponent - 308).toNat) 1)
  else if exponent < 0 then
    x.div? (← Double.ofRatio? false (Nat.pow 10 (-exponent).toNat) 1)
  else if exponent ≤ 308 then
    x.mul? (← Double.ofRatio? false (Nat.pow 10 exponent.toNat) 1)
  else if significand = 0 then return .zero negative
  else none

/-- The number whose significand has been read, from its exponent on. -/
def exponentPart (negative : Bool) (significand : Nat) (exponent : Int) :
    List Char → Option (Double × List Char)
  | 'e' :: rest | 'E' :: rest => do
    let (minus, rest) := match rest with
      | '+' :: rest => (false, rest)
      | '-' :: rest => (true, rest)
      | _ => (false, rest)
    let digits := rest.takeWhile Char.isDigit
    if digits.isEmpty then none
    else
      let n : Int := digits.foldl (fun n c => n * 10 + digitValue c) 0
      let after := rest.dropWhile Char.isDigit
      let x ←
        if n < Nat.pow 2 31 then
          doubleOf? negative significand (if minus then exponent - n else exponent + n)
        else if significand = 0 || minus then some (.zero negative)
        else none
      return (x, after)
  | rest => do return (← doubleOf? negative significand exponent, rest)

/-- The number whose integral part has been read, from its point on. -/
def fractionPart (negative : Bool) (significand : Nat) (exponent : Int) :
    List Char → Option (Double × List Char)
  | '.' :: rest =>
    let (significand, taken, after) := takeDigits significand 0 rest
    if !(rest.head?.any Char.isDigit) then none
    else
      exponentPart negative significand (exponent - taken) (after.dropWhile Char.isDigit)
  | rest => exponentPart negative significand exponent rest

/-- The number, whose sign has been read. -/
def number (negative : Bool) (cs : List Char) : Option (Json × List Char) :=
  let (significand, taken, rest) := takeDigits 0 0 cs
  if taken = 0 ∨ (cs.head? = some '0' ∧ 1 < taken) then none
  else match rest with
    | '.' :: _ | 'e' :: _ | 'E' :: _ =>
      (fractionPart negative significand 0 rest).map fun (x, rest) => (.real x, rest)
    | c :: _ =>
      if c.isDigit then
        let more := (rest.takeWhile Char.isDigit).length
        (fractionPart negative significand more (rest.dropWhile Char.isDigit)).map
          fun (x, rest) => (.real x, rest)
      else integer significand rest
    | [] => integer significand rest
where
  /-- An integer, unless it is a negative zero or below all of them. -/
  integer (significand : Nat) (rest : List Char) : Option (Json × List Char) :=
    if !negative then some (.int significand, rest)
    else if significand = 0 ∨ Nat.pow 2 63 < significand then
      (Double.ofRatio? true significand 1).map fun x => (.real x, rest)
    else some (.int (-significand), rest)

/-- The name of a member and the text after its colon, from the value on. -/
def memberName? : List Char → Option (String × List Char)
  | '"' :: rest =>
    match stringBody rest with
    | some (name, rest) =>
      match skipBlank rest with
      | ':' :: rest => some (String.ofList name, skipBlank rest)
      | _ => none
    | none => none
  | _ => none

/-- Arrays and objects may be nested this deeply. -/
def maxDepth : Nat := 127

mutual

/-- The value that the text begins with, in which arrays and objects are nested `depth` deep at
most, and the text after it. -/
def value (depth : Nat) (cs : List Char) : Option (Json × List Char) :=
  match cs with
  | 'n' :: 'u' :: 'l' :: 'l' :: rest => some (.null, rest)
  | 't' :: 'r' :: 'u' :: 'e' :: rest => some (.bool true, rest)
  | 'f' :: 'a' :: 'l' :: 's' :: 'e' :: rest => some (.bool false, rest)
  | '"' :: rest => (stringBody rest).map fun (s, rest) => (.string (String.ofList s), rest)
  | '-' :: rest => number true rest
  | '[' :: rest =>
    match depth with
    | 0 => none
    | depth + 1 =>
      match skipBlank rest with
      | ']' :: rest => some (.array [], rest)
      | rest => (items depth rest).map fun (vs, rest) => (.array vs, rest)
  | '\x7B' :: rest =>
    match depth with
    | 0 => none
    | depth + 1 =>
      match skipBlank rest with
      | '\x7D' :: rest => some (.object [], rest)
      | rest => (members depth rest).map fun (ms, rest) => (ofMembers ms, rest)
  | cs => number false cs
termination_by (depth, cs.length, 0)

/-- The items up to the bracket that ends an array, of which there is at least one. -/
def items (depth : Nat) (cs : List Char) : Option (List Json × List Char) :=
  match value depth cs with
  | none => none
  | some (v, rest) =>
    match skipBlank rest with
    | ']' :: rest => some ([v], rest)
    | ',' :: rest =>
      if _h : (skipBlank rest).length < cs.length then
        (items depth (skipBlank rest)).map fun (vs, rest) => (v :: vs, rest)
      else none
    | _ => none
termination_by (depth, cs.length, 1)

/-- The members up to the brace that ends an object, of which there is at least one. -/
def members (depth : Nat) (cs : List Char) : Option (List (String × Json) × List Char) :=
  match memberName? cs with
  | none => none
  | some (name, rest) =>
    if _h : rest.length < cs.length then
      match value depth rest with
      | none => none
      | some (v, rest) =>
        match skipBlank rest with
        | '\x7D' :: rest => some ([(name, v)], rest)
        | ',' :: rest =>
          if _h : (skipBlank rest).length < cs.length then
            (members depth (skipBlank rest)).map fun (ms, rest) => ((name, v) :: ms, rest)
          else none
        | _ => none
    else none
termination_by (depth, cs.length, 1)

end

def parse? (text : String) : Option Json :=
  match value maxDepth (skipBlank text.toList) with
  | some (v, rest) => if (skipBlank rest).isEmpty then some v else none
  | none => none

end MockHttp.Json
