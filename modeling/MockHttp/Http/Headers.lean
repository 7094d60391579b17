import MockHttp.Json.Printer
import MockHttp.Text.Ascii

/-!
# Headers

Headers keep the order in which their names were first set. Names are compared without regard to
the case of ASCII letters and are kept in lower case.
-/

namespace MockHttp.Http

structure Headers where
  entries : List (String × String)
  deriving DecidableEq, Repr

namespace Headers

def empty : Headers := ⟨[]⟩

def get? (h : Headers) (name : String) : Option String :=
  (h.entries.find? (Text.sameName ·.1 name)).map (·.2)

/-- The entries with the value of one set, in its place or at the end. -/
def insertEntry (name value : String) : List (String × String) → List (String × String)
  | [] => [(Text.asciiLower name, value)]
  | (n, v) :: rest =>
    if Text.sameName n name then (n, value) :: rest else (n, v) :: insertEntry name value rest

def insert (h : Headers) (name value : String) : Headers :=
  ⟨insertEntry name value h.entries⟩

/-- The entries without the first one of a name. -/
def eraseEntry (name : String) : List (String × String) → List (String × String)
  | [] => []
  | (n, v) :: rest => if Text.sameName n name then rest else (n, v) :: eraseEntry name rest

def erase (h : Headers) (name : String) : Headers :=
  ⟨eraseEntry name h.entries⟩

/-- The headers without one of them, and the value that it had. -/
def remove (h : Headers) (name : String) : Headers × Option String :=
  match h.entries.findIdx? (Text.sameName ·.1 name) with
  | some i => (⟨h.entries.eraseIdx i⟩, h.entries[i]?.map (·.2))
  | none => (h, none)

/-- The headers that the pairs set one after the other. -/
def ofList (pairs : List (String × String)) : Headers :=
  pairs.foldl (fun h (name, value) => h.insert name value) empty

def toList (h : Headers) : List (String × String) := h.entries

def size (h : Headers) : Nat := h.entries.length

def layout (h : Headers) : Json.Layout :=
  .object (h.entries.map fun (name, value) => (name, .value (.string value)))

end Headers

end MockHttp.Http
