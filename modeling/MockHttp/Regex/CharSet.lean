import MockHttp.Unicode.Property
import MockHttp.Unicode.CaseFold

/-!
# Sets of characters

What one character of a text is tested against: ranges, named properties and their combinations.
`CharSet.contains` decides membership; nothing is ever listed.
-/

namespace MockHttp.Regex

open Unicode (Property)

inductive CharSet where
  /-- No character. -/
  | empty
  /-- The characters from `lo` to `hi`. -/
  | range (lo hi : Char)
  /-- The characters that have a property. -/
  | property (p : Property)
  /-- The characters of either set. -/
  | union (s t : CharSet)
  /-- The characters of both sets. -/
  | inter (s t : CharSet)
  /-- The characters of the first set that are not in the second. -/
  | diff (s t : CharSet)
  /-- The characters of exactly one of the sets. -/
  | symmDiff (s t : CharSet)
  /-- All other characters. -/
  | compl (s : CharSet)
  /-- The characters that equal one of the set when case is ignored. -/
  | fold (s : CharSet)
  deriving DecidableEq, Repr

namespace CharSet

def contains : CharSet → Char → Bool
  | empty, _ => false
  | range lo hi, c => lo ≤ c && c ≤ hi
  | property p, c => p.holds c
  | union s t, c => s.contains c || t.contains c
  | inter s t, c => s.contains c && t.contains c
  | diff s t, c => s.contains c && !t.contains c
  | symmDiff s t, c => s.contains c != t.contains c
  | compl s, c => !s.contains c
  | fold s, c => s.contains c || (Unicode.caseVariants c).any s.contains

def single (c : Char) : CharSet := range c c

def digit : CharSet := property (.ranges [Unicode.decimalDigit])

def space : CharSet := property (.ranges [Unicode.whiteSpace])

def word : CharSet := property (.ranges [Unicode.word])

def hexDigit : CharSet := union (range '0' '9') (union (range 'A' 'F') (range 'a' 'f'))

/-- The set itself, or all other characters. -/
def complIf (negated : Bool) (s : CharSet) : CharSet :=
  if negated then compl s else s

/-- The set itself, or the set with case ignored. -/
def foldIf (ignoreCase : Bool) (s : CharSet) : CharSet :=
  if ignoreCase then fold s else s

/-- The classes that stand between `[:` and `:]`. -/
def ofPosixName? : String → Option CharSet
  | "alnum" => some (union (range '0' '9') (union (range 'A' 'Z') (range 'a' 'z')))
  | "alpha" => some (union (range 'A' 'Z') (range 'a' 'z'))
  | "ascii" => some (range '\x00' '\x7F')
  | "blank" => some (union (single '\t') (single ' '))
  | "cntrl" => some (union (range '\x00' '\x1F') (single '\x7F'))
  | "digit" => some (range '0' '9')
  | "graph" => some (range '!' '~')
  | "lower" => some (range 'a' 'z')
  | "print" => some (range ' ' '~')
  | "punct" => some (union (range '!' '/') (union (range ':' '@')
      (union (range '[' '\x60') (range '\x7B' '~'))))
  | "space" => some (union (range '\t' '\r') (single ' '))
  | "upper" => some (range 'A' 'Z')
  | "word" => some (union (range '0' '9') (union (range 'A' 'Z')
      (union (single '_') (range 'a' 'z'))))
  | "xdigit" => some hexDigit
  | _ => none

/-- The characters that have the property of that name, or with `negated` all others; `none` if no
property has the name. Case is ignored before the set is negated. -/
def ofProperty? (negated ignoreCase : Bool) (name : List Char) : Option CharSet :=
  (Property.ofName? name).map fun (p, inside) =>
    complIf negated (foldIf ignoreCase (complIf (!inside) (property p)))

end CharSet

end MockHttp.Regex
