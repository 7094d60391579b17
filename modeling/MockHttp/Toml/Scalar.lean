import MockHttp.Text.Number
import MockHttp.Toml.Table

/-!
# TOML scalars

Values that are written without quotes: truth values, numbers, dates and times.
-/

namespace MockHttp.Toml

/-- The digits of a number without the lines between them, each of which must stand between two
digits. -/
def digitRun? (isDigit : Char → Bool) : List Char → Option (List Char)
  | [] => none
  | [c] => if isDigit c then some [c] else none
  | c :: '_' :: rest => if isDigit c then (digitRun? isDigit rest).map (c :: ·) else none
  | c :: rest => if isDigit c then (digitRun? isDigit rest).map (c :: ·) else none

/-- The text after an optional sign, and whether the sign is minus. -/
def takeSign : List Char → Bool × List Char
  | '-' :: rest => (true, rest)
  | '+' :: rest => (false, rest)
  | cs => (false, cs)

/-- The value of digits to a base. -/
def baseValue? (base : Nat) (cs : List Char) : Option Nat :=
  (digitRun? (fun c => (Text.hexDigit? c).any (· < base)) cs).bind (Text.digitsValue? base)

/-- The value of decimal digits; the first of several is not zero. -/
def decimalValue? (cs : List Char) : Option Nat :=
  match cs with
  | ['0'] => some 0
  | '0' :: _ => none
  | _ => baseValue? 10 cs

def integer? (cs : List Char) : Option Int :=
  match cs with
  | '0' :: 'x' :: rest => (baseValue? 16 rest).map Int.ofNat
  | '0' :: 'o' :: rest => (baseValue? 8 rest).map Int.ofNat
  | '0' :: 'b' :: rest => (baseValue? 2 rest).map Int.ofNat
  | _ =>
    let (negative, digits) := takeSign cs
    (decimalValue? digits).map fun n => if negative then -(n : Int) else n

/-- The text is a number with a point or an exponent. -/
def isReal (cs : List Char) : Bool :=
  let (_, cs) := takeSign cs
  if cs = "inf".toList || cs = "nan".toList then true
  else
    let (whole, rest) := cs.span fun c => c ≠ '.' && c ≠ 'e' && c ≠ 'E'
    let (hasPoint, fraction, rest) := match rest with
      | '.' :: rest =>
        let (fraction, rest) := rest.span fun c => c ≠ 'e' && c ≠ 'E'
        (true, fraction, rest)
      | _ => (false, [], rest)
    let fractionFits := !hasPoint || (digitRun? Char.isDigit fraction).isSome
    let exponentFits := match rest with
      | [] => hasPoint
      | _ :: exponent => (digitRun? Char.isDigit (takeSign exponent).2).isSome
    (decimalValue? whole).isSome && fractionFits && exponentFits

/-- A number of so many digits at the beginning of a text. -/
def takeNumber? (count : Nat) (cs : List Char) : Option (Nat × List Char) :=
  let digits := cs.take count
  if digits.length = count && digits.all Char.isDigit then
    (Text.digitsValue? 10 digits).map (·, cs.drop count)
  else none

/-- A number of two digits after some character. -/
def takePart? (mark : Char) (greatest : Nat) (cs : List Char) : Option (Nat × List Char) :=
  match cs with
  | c :: rest =>
    if c = mark then (takeNumber? 2 rest).filter (·.1 ≤ greatest) else none
  | [] => none

def daysIn (year month : Nat) : Nat :=
  if month = 2 then
    (if year % 4 = 0 ∧ (year % 100 ≠ 0 ∨ year % 400 = 0) then 29 else 28)
  else if [4, 6, 9, 11].contains month then 30 else 31

def takeDate? (cs : List Char) : Option (List Char) := do
  let (year, cs) ← takeNumber? 4 cs
  let (month, cs) ← takePart? '-' 12 cs
  let (day, cs) ← takePart? '-' 31 cs
  if 1 ≤ month && 1 ≤ day && day ≤ daysIn year month then some cs else none

/-- The text after a time. The seconds may be missing, and they may have a fraction. -/
def takeTime? (cs : List Char) : Option (List Char) := do
  let (hour, cs) ← takeNumber? 2 cs
  if 23 < hour then none
  let (_, cs) ← takePart? ':' 59 cs
  match cs with
  | ':' :: _ =>
    let (_, cs) ← takePart? ':' 60 cs
    match cs with
    | '.' :: rest =>
      let fraction := rest.takeWhile Char.isDigit
      if fraction.isEmpty then none else some (rest.drop fraction.length)
    | _ => some cs
  | _ => some cs

/-- The text is the distance of a time zone from universal time, or nothing. -/
def isOffset (cs : List Char) : Bool :=
  match cs with
  | [] => true
  | ['Z'] => true
  | ['z'] => true
  | c :: rest =>
    (c = '+' || c = '-') &&
      match (takeNumber? 2 rest).filter (·.1 ≤ 23) with
      | some (_, rest) => (takePart? ':' 59 rest).any (·.2.isEmpty)
      | none => false

/-- The text is a date, a time or both. -/
def isMoment (cs : List Char) : Bool :=
  match takeDate? cs with
  | some [] => true
  | some (c :: rest) => (c = 'T' || c = 't' || c = ' ') && (takeTime? rest).any isOffset
  | none => (takeTime? cs).any (·.isEmpty)

/-- The value that is written without quotes. An integer has 128 bits at most. -/
def scalar? (cs : List Char) : Option Value :=
  if cs = "true".toList then some (.bool true)
  else if cs = "false".toList then some (.bool false)
  else match integer? cs with
    | some n => if -(Nat.pow 2 127) ≤ n ∧ n < Nat.pow 2 128 then some (.integer n) else none
    | none => if isReal cs then some .real else if isMoment cs then some .moment else none

end MockHttp.Toml
