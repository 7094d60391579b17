import MockHttp.Decimal.Double

/-!
# Doubles in text

A decimal number with an optional sign, an optional point and an optional exponent; on one side of
the point there must be a digit. It is rounded once.
-/

namespace MockHttp.Double

/-- The number that some decimal digits continue. -/
def digitsValue (n : Nat) (digits : List Char) : Nat :=
  digits.foldl (fun n c => n * 10 + (c.toNat - '0'.toNat)) n

/-- An exponent with an optional sign. -/
def exponent? : List Char → Option Int
  | '-' :: digits => if isNumber digits then some (-(digitsValue 0 digits : Int)) else none
  | '+' :: digits => if isNumber digits then some (digitsValue 0 digits) else none
  | digits => if isNumber digits then some (digitsValue 0 digits) else none
where
  /-- There are digits and nothing else. -/
  isNumber (cs : List Char) : Bool := !cs.isEmpty && cs.all Char.isDigit

/-- The double that a text without a sign writes, unless it is too large. -/
def ofDigits? (negative : Bool) (cs : List Char) : Option Double :=
  let (whole, rest) := cs.span Char.isDigit
  let (fraction, rest) := match rest with
    | '.' :: rest => rest.span Char.isDigit
    | _ => ([], rest)
  if whole.isEmpty && fraction.isEmpty then none
  else
    let exponent : Option Int := match rest with
      | [] => some 0
      | 'e' :: rest => exponent? rest
      | 'E' :: rest => exponent? rest
      | _ => none
    exponent.bind fun e =>
      ofDecimal? negative (digitsValue (digitsValue 0 whole) fraction) (e - fraction.length)

/-- The double that a text writes, unless it is too large. -/
def ofText? : List Char → Option Double
  | '-' :: rest => ofDigits? true rest
  | '+' :: rest => ofDigits? false rest
  | rest => ofDigits? false rest

end MockHttp.Double
