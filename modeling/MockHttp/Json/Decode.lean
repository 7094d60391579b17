import MockHttp.Json.Value

/-!
# Reading JSON values as other types

Each function gives the value of its type that a JSON value stands for, if it stands for one. No
value is converted: an integer is not read from a double, nor a number from a string.
-/

namespace MockHttp.Json

def intBetween? (lo hi : Int) : Json → Option Int
  | int n => if lo ≤ n ∧ n ≤ hi then some n else none
  | _ => none

/-- An integer without a sign, of some bits. -/
def unsigned? (bits : Nat) (v : Json) : Option Nat :=
  (v.intBetween? 0 (Nat.pow 2 bits - 1)).map Int.toNat

def int64? : Json → Option Int := intBetween? (-(Nat.pow 2 63)) (Nat.pow 2 63 - 1)

/-- Null, or a value of another type. -/
def nullable? {α : Type} (read : Json → Option α) : Json → Option (Option α)
  | null => some none
  | v => (read v).map some

def listOf? {α : Type} (read : Json → Option α) : Json → Option (List α)
  | array items => items.mapM read
  | _ => none

def mapOf? {α : Type} (read : Json → Option α) : Json → Option (List (String × α))
  | object members => members.mapM fun (name, v) => (read v).map (name, ·)
  | _ => none

def pairOf? {α β : Type} (first : Json → Option α) (second : Json → Option β) :
    Json → Option (α × β)
  | array [a, b] => do return (← first a, ← second b)
  | _ => none

end MockHttp.Json
