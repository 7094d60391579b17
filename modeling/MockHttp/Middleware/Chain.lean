import MockHttp.Text.Quoted

/-!
# Chains of transforms

A chain holds transforms by name, in the order in which the names were registered. A name that is
registered again keeps its place; one that is removed and registered again moves to the end.
-/

namespace MockHttp.Middleware

/-- Named values in the order of their registration. -/
structure Chain (τ : Type) where
  entries : List (String × τ)

namespace Chain

variable {τ : Type}

def empty : Chain τ := ⟨[]⟩

/-- The entries with one set, in its place or at the end. -/
def insertEntry (name : String) (t : τ) : List (String × τ) → List (String × τ)
  | [] => [(name, t)]
  | (n, u) :: rest => if n = name then (n, t) :: rest else (n, u) :: insertEntry name t rest

def insert (c : Chain τ) (name : String) (t : τ) : Chain τ :=
  ⟨insertEntry name t c.entries⟩

def eraseEntry (name : String) : List (String × τ) → List (String × τ)
  | [] => []
  | (n, u) :: rest => if n = name then rest else (n, u) :: eraseEntry name rest

def erase (c : Chain τ) (name : String) : Chain τ :=
  ⟨eraseEntry name c.entries⟩

/-- The chain with a name registered, or without it if nothing is given. -/
def upsert (c : Chain τ) (name : String) : Option τ → Chain τ
  | some t => c.insert name t
  | none => c.erase name

def names (c : Chain τ) : List String := c.entries.map (·.1)

def contains (c : Chain τ) (name : String) : Bool := c.names.contains name

def size (c : Chain τ) : Nat := c.entries.length

/-- The chain without a name, and whether that has made it shorter. -/
def remove (c : Chain τ) (name : String) : Chain τ × Bool :=
  let rest := c.upsert name none
  (rest, rest.size != c.size)

def transforms (c : Chain τ) : List τ := c.entries.map (·.2)

def describe (c : Chain τ) : String :=
  "MiddlewareChain \x7B names: " ++ Text.listed (c.names.map Text.quoted) ++ " \x7D"

/-- The value after every transform, first to last. -/
def apply {α : Type} (c : Chain (α → α)) (a : α) : α :=
  c.transforms.foldl (fun a f => f a) a

end Chain

end MockHttp.Middleware
