import MockHttp.Config.Record
import MockHttp.Toml.Reader

/-!
# Records in TOML

No value is taken for one of another type. A record may be written as an array of the values of its
fields, whose surplus does not count.
-/

namespace MockHttp.Toml

/-- The value is an array or a table without anything in it. -/
def Value.isVoid : Value → Bool
  | array [] => true
  | table _ [] => true
  | _ => false

/-- A method: its name, or a table whose only entry has that name and holds nothing. -/
def method? : Value → Option Http.Method
  | .string s => Http.Method.ofName? s
  | .table _ [(name, v)] => if v.isVoid then Http.Method.ofName? name else none
  | _ => none

def format : Config.Format Value where
  text? v :=
    match v with
    | .string s => some s
    | _ => none
  number? greatest v :=
    match v with
    | .integer n => if 0 ≤ n ∧ n ≤ greatest then some n.toNat else none
    | _ => none
  flag? v :=
    match v with
    | .bool b => some b
    | _ => none
  method? := method?
  fields? names v :=
    match v with
    | .table _ entries => Config.selectFields names entries
    | .array items => some (names.zip items)
    | _ => none

end MockHttp.Toml
