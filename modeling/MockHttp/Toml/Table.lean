/-!
# TOML tables

A document is a table of values. How a table came about decides what may still be added to it: the
body of a header is complete once and for all, a table that is only implied by the header of another
one can still get a header of its own, one that dotted keys brought about can be added to by dotted
keys alone, and an inline table is closed.
-/

namespace MockHttp.Toml

/-- How a table came about. -/
inductive Origin where
  /-- By a header of its own. -/
  | header
  /-- By the header of a table inside of it. -/
  | implied
  /-- By a dotted key. -/
  | dotted
  /-- As a value between braces. -/
  | inline
  deriving DecidableEq, Repr

inductive Value where
  | string (s : String)
  | integer (n : Int)
  /-- A number with a point or an exponent, whose value is of no concern. -/
  | real
  | bool (b : Bool)
  /-- A date, a time or both. -/
  | moment
  | array (items : List Value)
  | table (origin : Origin) (entries : List (String × Value))
  /-- Tables with one header, in the order of its occurrences. -/
  | tables (items : List (List (String × Value)))
  deriving Repr, Inhabited

abbrev Entries := List (String × Value)

/-- The entries with what is at a key changed, or added at the end if there is nothing yet. -/
def alter (key : String) (f : Option Value → Option Value) : Entries → Option Entries
  | [] => (f none).map fun v => [(key, v)]
  | (k, v) :: rest =>
    if k = key then (f (some v)).map fun v => (k, v) :: rest
    else (alter key f rest).map ((k, v) :: ·)

/-- The tables with the last one changed. -/
def alterLast (f : Entries → Option Entries) : List Entries → Option (List Entries)
  | [] => none
  | [t] => (f t).map ([·])
  | t :: rest => (alterLast f rest).map (t :: ·)

/-- The entries with a value at a key that has none yet. -/
def insertNew (key : String) (value : Value) : Entries → Option Entries :=
  alter key fun
    | none => some value
    | some _ => none

/-- The entries with a value at the end of a dotted key. The last table on the way must be there by
dotted keys alone. -/
def insertDotted (key : String) (value : Value) : List String → Origin → Entries → Option Entries
  | [], origin, es => if origin = .dotted then insertNew key value es else none
  | k :: path, _, es =>
    es |> alter k fun
      | none => (insertDotted key value path .dotted []).map (.table .dotted)
      | some (.table .implied t) => (insertDotted key value path .implied t).map (.table .implied)
      | some (.table .dotted t) => (insertDotted key value path .dotted t).map (.table .dotted)
      | some (.tables ts) => (alterLast (insertDotted key value path .header) ts).map .tables
      | some _ => none

/-- The entries with a value at a key, which may be dotted. -/
def insertKey (path : List String) (key : String) (value : Value) (es : Entries) :
    Option Entries :=
  if path.isEmpty then insertNew key value es else insertDotted key value path .header es

/-- The entries with the table at a path changed. Tables that are missing on the way are implied. -/
def alterAt (f : Entries → Option Entries) : List String → Entries → Option Entries
  | [], es => f es
  | k :: path, es =>
    es |> alter k fun
      | none => (alterAt f path []).map (.table .implied)
      | some (.table .inline _) => none
      | some (.table origin t) => (alterAt f path t).map (.table origin)
      | some (.tables ts) => (alterLast (alterAt f path) ts).map .tables
      | some _ => none

/-- The entries with an empty table at a key that a header names. -/
def openTable (key : String) : Entries → Option Entries :=
  alter key fun
    | none => some (.table .header [])
    | some (.table .implied t) => some (.table .header t)
    | some _ => none

/-- The entries with one more empty table among those that a header for several names. -/
def openItem (key : String) : Entries → Option Entries :=
  alter key fun
    | none => some (.tables [[]])
    | some (.tables ts) => some (.tables (ts ++ [[]]))
    | some _ => none

end MockHttp.Toml
