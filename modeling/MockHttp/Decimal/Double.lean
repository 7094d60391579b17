/-!
# Double precision numbers

A finite double is a sign, a significand below `2 ^ 53` and a binary exponent. `Double.ofRatio?`
rounds a fraction to the nearest double, a tie to the even significand; arithmetic is exact until
it rounds.
-/

namespace MockHttp

/-- A finite double precision number, `significand * 2 ^ exponent` with a sign. Those that
`ofRatio?` makes have the largest significand that their value admits, but no exponent below
`-1074`. -/
structure Double where
  negative : Bool
  significand : Nat
  exponent : Int
  deriving DecidableEq, Repr

namespace Double

def minExponent : Int := -1074

def maxExponent : Int := 971

def zero (negative : Bool) : Double := ⟨negative, 0, minExponent⟩

/-- The quotient rounded to the nearest natural number, a tie to the even one. -/
def roundDiv (num den : Nat) : Nat :=
  let q := num / den
  let twice := 2 * (num % den)
  if twice < den then q else if den < twice then q + 1 else q + q % 2

/-- `num / (den * 2 ^ e)` as a fraction. -/
def scaled (num den : Nat) (e : Int) : Nat × Nat :=
  if 0 ≤ e then (num, den * Nat.pow 2 e.toNat) else (num * Nat.pow 2 (-e).toNat, den)

/-- The double nearest to `num / den`; `none` if it is too large to be one. -/
def ofRatio? (negative : Bool) (num den : Nat) : Option Double :=
  if num = 0 then some (zero negative)
  else
    let guess : Int := (num.log2 : Int) - den.log2 - 52
    let (n, d) := scaled num den guess
    let e := max minExponent (if n / d < Nat.pow 2 52 then guess - 1 else guess)
    let (n, d) := scaled num den e
    let q := roundDiv n d
    let (q, e) := if q = Nat.pow 2 53 then (Nat.pow 2 52, e + 1) else (q, e)
    if maxExponent < e then none else some ⟨negative, q, e⟩

/-- The size of the number as a fraction. -/
def magnitude (x : Double) : Nat × Nat :=
  if 0 ≤ x.exponent then (x.significand * Nat.pow 2 x.exponent.toNat, 1)
  else (x.significand, Nat.pow 2 (-x.exponent).toNat)

/-- The product, rounded. -/
def mul? (x y : Double) : Option Double :=
  let (a, b) := x.magnitude
  let (c, d) := y.magnitude
  ofRatio? (x.negative != y.negative) (a * c) (b * d)

/-- The quotient by a number that is not zero, rounded. -/
def div? (x y : Double) : Option Double :=
  let (a, b) := x.magnitude
  let (c, d) := y.magnitude
  ofRatio? (x.negative != y.negative) (a * d) (b * c)

/-- `digits * 10 ^ exponent` rounded once. -/
def ofDecimal? (negative : Bool) (digits : Nat) (exponent : Int) : Option Double :=
  if digits = 0 then some (zero negative)
  else if exponent < -400 - digits.log2 then some (zero negative)
  else if 400 < exponent then none
  else if 0 ≤ exponent then ofRatio? negative (digits * Nat.pow 10 exponent.toNat) 1
  else ofRatio? negative digits (Nat.pow 10 (-exponent).toNat)

/-- `m * 10 ^ k` as a fraction. -/
def decimal (m : Nat) (k : Int) : Nat × Nat :=
  if 0 ≤ k then (m * Nat.pow 10 k.toNat, 1) else (m, Nat.pow 10 (-k).toNat)

/-- The fraction `num / den` is nearer to the number than to any other double, or as near and the
significand is even. The gap below a power of two is half as wide as the one above. -/
def isNearest (x : Double) (num den : Nat) : Bool :=
  let below := if x.significand = Nat.pow 2 52 ∧ minExponent < x.exponent then 1 else 2
  let (grain, scale) := scaled 1 1 (2 - x.exponent)
  let lo := (4 * x.significand - below) * grain * den
  let hi := (4 * x.significand + 2) * grain * den
  let mid := num * scale
  let even := x.significand % 2 = 0
  (lo < mid || (even && lo == mid)) && (mid < hi || (even && mid == hi))

/-- The multiple of `10 ^ k` that reads back as the number, the nearer one if there are two. -/
def multiple? (x : Double) (k : Int) : Option Nat :=
  let (num, den) := x.magnitude
  let (n, d) := scaledDecimal num den k
  let q := n / d
  let low := q ≠ 0 ∧ x.isNearest (decimal q k).1 (decimal q k).2
  let high := x.isNearest (decimal (q + 1) k).1 (decimal (q + 1) k).2
  if low ∧ high then some (roundDiv n d)
  else if low then some q
  else if high then some (q + 1)
  else none
where
  /-- `num / (den * 10 ^ k)` as a fraction. -/
  scaledDecimal (num den : Nat) (k : Int) : Nat × Nat :=
    if 0 ≤ k then (num, den * Nat.pow 10 k.toNat) else (num * Nat.pow 10 (-k).toNat, den)

/-- The first hit among the multiples of `10 ^ k`, `10 ^ (k - 1)` and so on, `fuel` powers in
all. -/
def firstMultiple (x : Double) : Nat → Int → Nat × Int
  | 0, k => (0, k)
  | fuel + 1, k =>
    match x.multiple? k with
    | some m => (m, k)
    | none => firstMultiple x fuel (k - 1)

/-- The number without its trailing zeros, and the power of ten that makes up for them; at most
`fuel` zeros are taken off. -/
def dropZeros : Nat → Nat → Int → Nat × Int
  | 0, m, k => (m, k)
  | fuel + 1, m, k =>
    if m ≠ 0 ∧ m % 10 = 0 then dropZeros fuel (m / 10) (k + 1) else (m, k)

/-- The fewest decimal digits that read back as the number, as a natural number, and the power of
ten to multiply them with. Seventeen digits are always enough. The number is not zero. -/
def shortest (x : Double) : Nat × Int :=
  let (num, den) := x.magnitude
  let top : Int := (((num.log2 : Int) - den.log2) * 30103) / 100000
  let (m, k) := x.firstMultiple 24 (top + 2)
  dropZeros 20 m k

end Double

end MockHttp
