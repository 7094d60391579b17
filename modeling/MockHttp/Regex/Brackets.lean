import MockHttp.Regex.Escape

/-!
# Bracket expressions

A bracket expression is read in two steps. `Brackets.split` finds its end, counting the brackets it
opens and closes and resolving escapes; `Brackets.build` then reads ranges, named classes, nested
brackets and the operations `&&` (both), `--` (first only) and `~~` (exactly one) from the parts.
-/

namespace MockHttp.Regex.Brackets

/-- A part of a bracket expression. -/
inductive Part where
  /-- A character as it was written. -/
  | raw (c : Char)
  /-- An escaped character, which stands for itself. -/
  | literal (c : Char)
  /-- A set named by an escape. -/
  | set (s : CharSet)
  /-- A set that an escape writes out in brackets of its own. -/
  | brackets (s : CharSet)
  deriving DecidableEq, Repr

/-- The parts up to the bracket that closes the outermost of `depth + 1` open ones, that one
included, and the text after it. The parts read so far come latest first. -/
def splitFrom (ignoreCase : Bool) (depth : Nat) (parts : List Part) (cs : List Char) :
    Except SyntaxError (List Part × List Char) :=
  match cs with
  | [] => .error .badBrackets
  | '\\' :: rest =>
    match Escape.read true ignoreCase rest with
    | .error e => .error e
    | .ok (found, after) =>
      let part? : Option Part := match found with
        | .char c _ => some (.literal c)
        | .set s => some (.set s)
        | .brackets s => some (.brackets s)
        | _ => none
      match part? with
      | none => .error .badBrackets
      | some part =>
        if _h : after.length ≤ rest.length then splitFrom ignoreCase depth (part :: parts) after
        else .error .badBrackets
  | '[' :: rest => splitFrom ignoreCase (depth + 1) (.raw '[' :: parts) rest
  | ']' :: rest =>
    match depth with
    | 0 => .ok ((Part.raw ']' :: parts).reverse, rest)
    | depth + 1 => splitFrom ignoreCase depth (.raw ']' :: parts) rest
  | c :: rest => splitFrom ignoreCase depth (.raw c :: parts) rest
termination_by cs.length

/-- The parts of the bracket expression whose opening bracket has been read, and the text after it.
A closing bracket at the very start, or after a leading caret, stands for itself. -/
def split (ignoreCase : Bool) (cs : List Char) : Except SyntaxError (List Part × List Char) :=
  match cs with
  | '^' :: ']' :: rest => splitFrom ignoreCase 0 [.raw ']', .raw '^'] rest
  | '^' :: rest => splitFrom ignoreCase 0 [.raw '^'] rest
  | ']' :: rest => splitFrom ignoreCase 0 [.raw ']'] rest
  | rest => splitFrom ignoreCase 0 [] rest

/-- An operation between the sets to its sides. -/
inductive Op where
  /-- The characters of both. -/
  | both
  /-- The characters of the first only. -/
  | firstOnly
  /-- The characters of exactly one. -/
  | exactlyOne
  deriving DecidableEq, Repr

/-- The result of an operation. Case is ignored before the operation is carried out. -/
def Op.apply (ignoreCase : Bool) (op : Op) (s t : CharSet) : CharSet :=
  let s := s.foldIf ignoreCase
  let t := t.foldIf ignoreCase
  match op with
  | both => s.inter t
  | firstOnly => s.diff t
  | exactlyOne => s.symmDiff t

/-- An open bracket: whether it is negated, the operation whose right side is being read with its
left side, and the union of the items of that side. -/
structure Level where
  negated : Bool
  pending : Option (CharSet × Op)
  items : CharSet

namespace Level

def add (level : Level) (s : CharSet) : Level :=
  { level with items := level.items.union s }

/-- The set of all sides that have been read. -/
def side (ignoreCase : Bool) (level : Level) : CharSet :=
  match level.pending with
  | none => level.items
  | some (left, op) => op.apply ignoreCase left level.items

def operate (ignoreCase : Bool) (op : Op) (level : Level) : Level :=
  { level with pending := some (level.side ignoreCase, op), items := .empty }

def close (ignoreCase : Bool) (level : Level) : CharSet :=
  ((level.side ignoreCase).foldIf ignoreCase).complIf level.negated

end Level

/-- A new level and the parts after its opening: a caret negates, hyphens stand for themselves, and
so does a closing bracket before any item. -/
def openLevel (parts : List Part) : Level × List Part :=
  let (negated, parts) := match parts with
    | .raw '^' :: rest => (true, rest)
    | _ => (false, parts)
  let hyphens := parts.takeWhile (· == .raw '-')
  let items := if hyphens.isEmpty then CharSet.empty else .single '-'
  match hyphens, parts.dropWhile (· == .raw '-') with
  | [], .raw ']' :: rest => (⟨negated, none, .single ']'⟩, rest)
  | _, rest => (⟨negated, none, items⟩, rest)

/-- The named class `[:name:]` or `[:^name:]` whose opening bracket has been read, and the parts
after it; `none` if the parts spell no such class. -/
def posixClass? (ignoreCase : Bool) (parts : List Part) : Option (CharSet × List Part) :=
  match parts with
  | .raw ':' :: rest =>
    let (negated, rest) := match rest with
      | .raw '^' :: after => (true, after)
      | _ => (false, rest)
    let name := rest.takeWhile (· != .raw ':')
    let letters := name.filterMap fun
      | .raw c => some c
      | _ => none
    match rest.dropWhile (· != .raw ':') with
    | .raw ':' :: .raw ']' :: after =>
      if letters.length = name.length then
        (CharSet.ofPosixName? (String.ofList letters)).map fun s =>
          ((s.foldIf ignoreCase).complIf negated, after)
      else none
    | _ => none
  | _ => none

/-- The character that a part can stand for as an end of a range. -/
def Part.char? : Part → Option Char
  | .raw c | .literal c => some c
  | _ => none

def Part.toSet : Part → CharSet
  | .raw c | .literal c => .single c
  | .set s | .brackets s => s

/-- The item that starts with `first`, and the parts after it: a range if a hyphen follows that is
neither the last part of its level nor half of an operation sign. -/
def readItem (first : Part) (rest : List Part) : Except SyntaxError (CharSet × List Part) :=
  let alone := Except.ok (first.toSet, rest)
  match first, rest with
  | .brackets _, _ => alone
  | _, .raw '-' :: .raw ']' :: _ | _, .raw '-' :: .raw '-' :: _ => alone
  | _, .raw '-' :: last :: after =>
    match first.char?, last.char? with
    | some lo, some hi =>
      if lo ≤ hi then .ok (.range lo hi, after) else .error .badBrackets
    | _, _ => .error .badBrackets
  | _, _ => alone

/-- The set that the parts describe, `level` being the innermost open bracket and `outer` those
around it. -/
def buildFrom (ignoreCase : Bool) (level : Level) (outer : List Level) (parts : List Part) :
    Except SyntaxError CharSet :=
  match parts with
  | [] => .error .badBrackets
  | .raw '[' :: rest =>
    match posixClass? ignoreCase rest with
    | some (s, after) =>
      if _h : after.length ≤ rest.length then buildFrom ignoreCase (level.add s) outer after
      else .error .badBrackets
    | none =>
      let (inner, after) := openLevel rest
      if _h : after.length ≤ rest.length then buildFrom ignoreCase inner (level :: outer) after
      else .error .badBrackets
  | .raw ']' :: rest =>
    let s := level.close ignoreCase
    match outer with
    | [] => if rest.isEmpty then .ok s else .error .badBrackets
    | around :: outer => buildFrom ignoreCase (around.add s) outer rest
  | .raw '&' :: .raw '&' :: rest =>
    buildFrom ignoreCase (level.operate ignoreCase .both) outer rest
  | .raw '-' :: .raw '-' :: rest =>
    buildFrom ignoreCase (level.operate ignoreCase .firstOnly) outer rest
  | .raw '~' :: .raw '~' :: rest =>
    buildFrom ignoreCase (level.operate ignoreCase .exactlyOne) outer rest
  | part :: rest =>
    match readItem part rest with
    | .error e => .error e
    | .ok (s, after) =>
      if _h : after.length ≤ rest.length then buildFrom ignoreCase (level.add s) outer after
      else .error .badBrackets
termination_by parts.length

/-- The set that the parts of a bracket expression describe. -/
def build (ignoreCase : Bool) (parts : List Part) : Except SyntaxError CharSet :=
  let (level, rest) := openLevel parts
  buildFrom ignoreCase level [] rest

/-- The bracket expression whose opening bracket has been read, and the text after it. -/
def read (ignoreCase : Bool) (cs : List Char) : Except SyntaxError (CharSet × List Char) := do
  let (parts, rest) ← split ignoreCase cs
  return (← build ignoreCase parts, rest)

end MockHttp.Regex.Brackets
