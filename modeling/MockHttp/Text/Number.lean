/-!
# Numbers in text

Numbers without a minus sign. Where there is a greatest value, reading goes from the first digit to
the last, so that of two faults the one that comes first is reported.
-/

namespace MockHttp.Text

inductive NumberError where
  | empty
  | invalidDigit
  /-- The number is greater than the greatest value. -/
  | tooLarge
  deriving DecidableEq, Repr

def NumberError.message : NumberError → String
  | empty => "cannot parse integer from empty string"
  | invalidDigit => "invalid digit found in string"
  | tooLarge => "number too large to fit in target type"

/-- The number that some digits continue. -/
def readDigits (greatest : Nat) : Nat → List Char → Except NumberError Nat
  | n, [] => .ok n
  | n, c :: rest =>
    if ¬c.isDigit then .error .invalidDigit
    else
      let m := n * 10 + (c.toNat - '0'.toNat)
      if m ≤ greatest then readDigits greatest m rest else .error .tooLarge

/-- The number that a text writes: digits, perhaps after a plus sign. -/
def readNumber (greatest : Nat) : List Char → Except NumberError Nat
  | [] => .error .empty
  | ['+'] => .error .invalidDigit
  | '+' :: digits => readDigits greatest 0 digits
  | digits => readDigits greatest 0 digits

def hexDigit? (c : Char) : Option Nat :=
  if '0' ≤ c ∧ c ≤ '9' then some (c.toNat - '0'.toNat)
  else if 'a' ≤ c ∧ c ≤ 'f' then some (c.toNat - 'a'.toNat + 10)
  else if 'A' ≤ c ∧ c ≤ 'F' then some (c.toNat - 'A'.toNat + 10)
  else none

/-- The number that some digits to a base of at most 16 write. -/
def digitsValue? (base : Nat) (digits : List Char) : Option Nat :=
  if digits.isEmpty then none
  else digits.foldlM (fun n c =>
    match hexDigit? c with
    | some d => if d < base then some (n * base + d) else none
    | none => none) 0

/-- The greatest number of 64 bits. -/
def maxWord : Nat := Nat.pow 2 64 - 1

/-- The number of 64 bits that a text writes. -/
def readWord (text : String) : Except NumberError Nat :=
  readNumber maxWord text.toList

end MockHttp.Text
