import MockHttp.Regex.Backtrack
import MockHttp.Regex.Reader

/-!
# Regular expressions

`Regex.ofPattern` reads a pattern, `Regex.find` looks for its first match in a text. Matches are
those that backtracking finds first: the leftmost one, earlier alternatives preferred, repetitions
as long as possible unless marked reluctant. A plain pattern is matched in time bounded by the
length of the text; any other is given a number of steps, and may give up.
-/

namespace MockHttp

/-- A pattern that has been read. -/
structure Regex where
  /-- The pattern as it was written. -/
  source : String
  /-- What the pattern says. -/
  expr : Regex.Expr
  /-- The number of remembered groups. -/
  groups : Nat
  deriving DecidableEq, Repr

namespace Regex

/-- The positions between which a match or one of its groups lies, in characters. -/
structure Span where
  first : Nat
  last : Nat
  deriving DecidableEq, Repr

def Span.text (span : Span) (text : List Char) : List Char :=
  (text.drop span.first).take (span.last - span.first)

/-- A match: its span and the spans of the groups `1`, `2`, …, absent where a group took no part. -/
structure Found where
  span : Span
  groups : List (Option Span)
  deriving DecidableEq, Repr

/-- The span of a group, `0` being the whole match. -/
def Found.group? (m : Found) : Nat → Option Span
  | 0 => some m.span
  | n + 1 => (m.groups[n]?).join

/-- The number of steps that a search may spend. -/
def stepLimit : Nat := 1000000

/-- The search was given up. -/
inductive Failure where
  | stepsSpent
  deriving DecidableEq, Repr

def Failure.message : Failure → String
  | .stepsSpent => "Error executing regex: Max limit for backtracking count exceeded"

def ofPattern (source : String) : Except SyntaxError Regex := do
  let (expr, groups) ← readPattern source.toList
  return ⟨source, expr, groups⟩

/-- The pattern is matched without a step limit. -/
def isPlain (re : Regex) : Bool :=
  re.expr.isPlain re.expr.references

/-- The match that ends with the thread. -/
def foundAt (re : Regex) (t : Thread) : Found where
  span := ⟨t.first, t.place.pos⟩
  groups := (List.range re.groups).map fun i =>
    (t.capture? (i + 1)).map fun c => ⟨c.first, c.last⟩

/-- The best thread of a plain expression that begins at the first place where one does. -/
def findPlainFrom (e : Expr) (p : Place) : Option Thread :=
  match e.ends [.start p] with
  | t :: _ => some t
  | [] =>
    match h : p.rest with
    | [] => none
    | c :: rest => findPlainFrom e ⟨c :: p.past, rest, p.pos + 1, by simp [p.pos_eq]⟩
termination_by p.rest.length
decreasing_by simp [h]

/-- The verdict on the first place where the expression has a match, or where the search ends.
Moving on to the next place is a step. -/
def searchFrom (e : Expr) (p : Place) (steps : Nat) : Verdict :=
  match e.search e.references false (.start p) .succeed steps with
  | .exhausted 0 => .gaveUp
  | .exhausted (steps + 1) =>
    match h : p.rest with
    | [] => .exhausted steps
    | c :: rest => searchFrom e ⟨c :: p.past, rest, p.pos + 1, by simp [p.pos_eq]⟩ steps
  | verdict => verdict
termination_by p.rest.length
decreasing_by simp [h]

/-- The first match in the text, if the search for it takes no more than `limit` steps. -/
def findWithin (re : Regex) (limit : Nat) (text : List Char) : Except Failure (Option Found) :=
  if re.isPlain then .ok ((findPlainFrom re.expr (.start text)).map re.foundAt)
  else match searchFrom re.expr (.start text) limit with
    | .found t _ => .ok (some (re.foundAt t))
    | .exhausted _ => .ok none
    | .gaveUp => .error .stepsSpent

def find (re : Regex) (text : List Char) : Except Failure (Option Found) :=
  re.findWithin stepLimit text

def isMatch (re : Regex) (text : List Char) : Except Failure Bool :=
  (re.find text).map (·.isSome)

end Regex

end MockHttp
