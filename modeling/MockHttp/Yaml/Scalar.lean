import MockHttp.Text.Number
import MockHttp.Yaml.Cursor
import MockHttp.Yaml.Token

/-!
# YAML scalars

How the text of a scalar is read in each of the five styles. All functions give the text and the
place after it, or nothing if the scalar is malformed.
-/

namespace MockHttp.Yaml

/-- A bracket or a comma, which structure flow collections. -/
def isFlowMark (c : Char) : Bool :=
  c = ',' || c = '[' || c = ']' || c = '\x7B' || c = '\x7D'

/-- The characters of a plain scalar up to the next gap or indicator. -/
def plainPiece (inFlow : Bool) : List Char → Option (List Char)
  | [] => some []
  | c :: rest =>
    if isBlank c || isBreak c then some []
    else if inFlow && c = ':' && rest.head?.any (fun d => isFlowMark d || d = '?') then none
    else if c = ':' && rest.head?.all (fun d => isBlank d || isBreak d) then some []
    else if inFlow && isFlowMark c then some []
    else (plainPiece inFlow rest).map (c :: ·)

/-- A plain scalar goes on, given the text and the gap before. The last result says that the scalar
ends after the end of a line. -/
def plainRest (margin : Nat) (inFlow : Bool) :
    Nat → List Char → Gap → Cursor → Option (List Char × Cursor × Bool)
  | 0, text, _, c => some (text, c, false)
  | fuel + 1, text, gap, c =>
    let done := some (text, c, !gap.breaks.isEmpty)
    if c.atDocumentMark || c.starts '#' then done
    else match plainPiece inFlow c.rest with
      | none => none
      | some [] => done
      | some piece =>
        let text := text ++ gap.text ++ piece
        let c := c.advance piece.length
        if !c.isGap 0 || c.rest.isEmpty then some (text, c, false)
        else match takeGap (some margin) c.rest.length {} c with
          | none => none
          | some (gap, c) =>
            if !inFlow && c.column < margin then some (text, c, !gap.breaks.isEmpty)
            else plainRest margin inFlow fuel text gap c

/-- The plain scalar that begins here. Its later lines must reach beyond the margin. -/
def scanPlain (margin : Nat) (inFlow : Bool) (c : Cursor) :
    Option (List Char × Cursor × Bool) :=
  plainRest margin inFlow (c.rest.length + 1) [] {} c

/-- The character with a number that is written with so many hexadecimal digits. -/
def hexChar? (count : Nat) (rest : List Char) : Option Char :=
  let digits := rest.take count
  if digits.length < count then none
  else match Text.digitsValue? 16 digits with
    | some n => if Nat.isValidChar n then some (Char.ofNat n) else none
    | none => none

/-- The character that an escape stands for, from the character after the backslash on, and the
number of characters that it takes. -/
def escape? : List Char → Option (Char × Nat)
  | [] => none
  | c :: rest =>
    match c with
    | '0' => some ('\x00', 1)
    | 'a' => some ('\x07', 1)
    | 'b' => some ('\x08', 1)
    | 't' => some ('\t', 1)
    | '\t' => some ('\t', 1)
    | 'n' => some ('\n', 1)
    | 'v' => some ('\x0B', 1)
    | 'f' => some ('\x0C', 1)
    | 'r' => some ('\r', 1)
    | 'e' => some ('\x1B', 1)
    | ' ' => some (' ', 1)
    | '"' => some ('"', 1)
    | '/' => some ('/', 1)
    | '\\' => some ('\\', 1)
    | 'N' => some ('\u0085', 1)
    | '_' => some ('\u00A0', 1)
    | 'L' => some ('\u2028', 1)
    | 'P' => some ('\u2029', 1)
    | 'x' => (hexChar? 2 rest).map (·, 3)
    | 'u' => (hexChar? 4 rest).map (·, 5)
    | 'U' => (hexChar? 8 rest).map (·, 9)
    | _ => none

/-- The characters of a quoted scalar up to the next gap or the closing quote. The last result says
that the piece ends with an escaped end of a line. -/
def quotedPiece (quote : Char) : Nat → List Char → Cursor → Option (List Char × Cursor × Bool)
  | 0, _, _ => none
  | fuel + 1, text, c =>
    match c.rest with
    | [] => none
    | ch :: rest =>
      if isBlank ch || isBreak ch then some (text, c, false)
      else if ch = quote then
        if quote = '\'' && rest.head? == some '\'' then
          quotedPiece quote fuel (text ++ ['\'']) (c.advance 2)
        else some (text, c, false)
      else if quote = '"' && ch = '\\' then
        if rest.head?.any isBreak then some (text, ((c.advance 1).takeBreak).2, true)
        else match escape? rest with
          | some (escaped, count) =>
            quotedPiece quote fuel (text ++ [escaped]) (c.advance (count + 1))
          | none => none
      else quotedPiece quote fuel (text ++ [ch]) (c.advance 1)

/-- A quoted scalar goes on. -/
def quotedRest (quote : Char) : Nat → List Char → Cursor → Option (List Char × Cursor)
  | 0, _, _ => none
  | fuel + 1, text, c =>
    if c.atDocumentMark then none
    else match quotedPiece quote (c.rest.length + 1) text c with
      | none => none
      | some (text, c, escapedBreak) =>
        if !escapedBreak && c.starts quote then some (text, c.advance 1)
        else match takeGap none c.rest.length { breaks := if escapedBreak then [[]] else [] } c with
          | none => none
          | some (gap, c) => quotedRest quote fuel (text ++ gap.text) c

/-- The quoted scalar whose opening quote stands here. -/
def scanQuoted (quote : Char) (c : Cursor) : Option (List Char × Cursor) :=
  quotedRest quote (c.rest.length + 1) [] (c.advance 1)

/-- What becomes of the ends of lines at the end of a block scalar. -/
inductive Chomping where
  | strip
  | clip
  | keep
  deriving DecidableEq, Repr

def chomping? : Char → Option Chomping
  | '-' => some .strip
  | '+' => some .keep
  | _ => none

/-- The indentation, counted from that of the parent, and the chomping that the header of a block
scalar asks for, in either order. -/
def scanHeader (c : Cursor) : Option (Option Nat × Chomping × Cursor) :=
  let increment (c : Cursor) : Option (Option Nat × Cursor) :=
    match c.rest.head? with
    | some d =>
      if d = '0' then none
      else if d.isDigit then some (some (d.toNat - '0'.toNat), c.advance 1)
      else some (none, c)
    | none => some (none, c)
  match c.rest.head?.bind chomping? with
  | some chomping => (increment (c.advance 1)).map fun (n, c) => (n, chomping, c)
  | none =>
    match increment c with
    | none => none
    | some (none, c) => some (none, .clip, c)
    | some (some n, c) =>
      match c.rest.head?.bind chomping? with
      | some chomping => some (some n, chomping, c.advance 1)
      | none => some (some n, .clip, c)

/-- The empty lines that follow, with the greatest column that a line reaches by spaces alone. With
an indentation, spaces beyond it belong to the text. -/
def blockBreaks (indent : Option Nat) :
    Nat → List Char → Nat → Cursor → Option (List Char × Nat × Cursor)
  | 0, breaks, reached, c => some (breaks, reached, c)
  | fuel + 1, breaks, reached, c =>
    let spaces := (c.rest.takeWhile (· = ' ')).length
    let c := c.advance (match indent with
      | some n => min spaces (n - c.column)
      | none => spaces)
    let reached := max reached c.column
    if c.starts '\t' && indent.all (c.column < ·) then none
    else if c.rest.head?.any isBreak then
      let (text, c) := c.takeBreak
      blockBreaks indent fuel (breaks ++ text) reached c
    else some (breaks, reached, c)

/-- The lines of a block scalar. `lead` is the end of the line before, `breaks` are the empty lines
after it, and `indented` says that the line before begins with a blank. -/
def blockLines (folded : Bool) (indent : Nat) :
    Nat → List Char → List Char → List Char → Bool → Cursor →
      Option (List Char × List Char × List Char × Cursor)
  | 0, text, lead, breaks, _, c => some (text, lead, breaks, c)
  | fuel + 1, text, lead, breaks, indented, c =>
    if c.column ≠ indent || c.rest.isEmpty then some (text, lead, breaks, c)
    else
      let blankStart := c.rest.head?.any isBlank
      let joint :=
        if folded && lead == ['\n'] && !indented && !blankStart then
          if breaks.isEmpty then [' '] else []
        else lead
      let (line, c) := c.takeWhile (!isBreak ·)
      let (lead, c) := c.takeBreak
      let text := text ++ joint ++ breaks ++ line
      match blockBreaks (some indent) (c.rest.length + 1) [] 0 c with
      | none => none
      | some (breaks, _, c) => blockLines folded indent fuel text lead breaks blankStart c

/-- The block scalar whose indicator stands here, inside a block that is indented by `parent`. -/
def scanBlock (folded : Bool) (parent : Int) (c : Cursor) : Option (List Char × Cursor) := do
  let (increment, chomping, c) ← scanHeader (c.advance 1)
  let c := c.skipWhile isBlank
  let c := if c.starts '#' then c.skipWhile (!isBreak ·) else c
  if !c.atLineEnd then none
  let (_, c) := c.takeBreak
  let given := increment.map fun n => (max parent 0).toNat + n
  let (breaks, reached, c) ← blockBreaks given (c.rest.length + 1) [] 0 c
  let indent := given.getD (max reached (max (parent + 1) 1).toNat)
  let (text, lead, breaks, c) ← blockLines folded indent (c.rest.length + 1) [] [] breaks false c
  return match chomping with
    | .strip => (text, c)
    | .clip => (text ++ lead, c)
    | .keep => (text ++ lead ++ breaks, c)

end MockHttp.Yaml
