/-!
# Places in a YAML text

A `Cursor` is a place in a text: what follows, and the line and the column of the next character.
Besides line feed and carriage return there are three more characters that end a line.
-/

namespace MockHttp.Yaml

/-- A blank: space or tab. -/
def isBlank (c : Char) : Bool := c = ' ' || c = '\t'

def isBreak (c : Char) : Bool :=
  c = '\n' || c = '\r' || c = '\u0085' || c = '\u2028' || c = '\u2029'

def isAllowed (c : Char) : Bool :=
  let n := c.toNat
  n = 0x09 || n = 0x0A || n = 0x0D || (0x20 ≤ n && n ≤ 0x7E) || n = 0x85 ||
    (0xA0 ≤ n && n ≤ 0xD7FF) || (0xE000 ≤ n && n ≤ 0xFFFD && n ≠ 0xFEFF) || 0x10000 ≤ n

/-- A letter, a digit, a line or a hyphen: what names are made of. -/
def isWord (c : Char) : Bool :=
  c.isAlphanum || c = '_' || c = '-'

structure Cursor where
  rest : List Char
  index : Nat := 0
  line : Nat := 0
  column : Nat := 0
  deriving Repr

namespace Cursor

def peek (c : Cursor) (distance : Nat) : Option Char := c.rest[distance]?

def starts (c : Cursor) (ch : Char) : Bool := c.rest.head? == some ch

/-- The text ends at a distance, or there is a blank or the end of a line. -/
def isGap (c : Cursor) (distance : Nat) : Bool :=
  (c.peek distance).all fun ch => isBlank ch || isBreak ch

def atLineEnd (c : Cursor) : Bool := c.rest.head?.all isBreak

/-- The place after some characters of the line. -/
def advance (c : Cursor) (count : Nat) : Cursor :=
  { c with
    rest := c.rest.drop count
    index := c.index + count
    column := c.column + count }

/-- The characters of the line that a test selects, and the place after them. -/
def takeWhile (c : Cursor) (test : Char → Bool) : List Char × Cursor :=
  let text := c.rest.takeWhile test
  (text, c.advance text.length)

/-- The place after the characters that a test selects. -/
def skipWhile (c : Cursor) (test : Char → Bool) : Cursor := (c.takeWhile test).2

def nextLine (c : Cursor) (count : Nat) : Cursor :=
  { rest := c.rest.drop count, index := c.index + count, line := c.line + 1, column := 0 }

/-- The end of the line as it counts in a value, and the place after it. -/
def takeBreak (c : Cursor) : List Char × Cursor :=
  match c.rest with
  | '\r' :: '\n' :: _ => (['\n'], c.nextLine 2)
  | ch :: _ =>
    if ch = '\u2028' || ch = '\u2029' then ([ch], c.nextLine 1)
    else if isBreak ch then (['\n'], c.nextLine 1)
    else ([], c)
  | [] => ([], c)

/-- A line begins here with a mark between documents. -/
def atDocumentMark (c : Cursor) : Bool :=
  c.column == 0 && (c.rest.take 3 == ['-', '-', '-'] || c.rest.take 3 == ['.', '.', '.']) &&
    c.isGap 3

end Cursor

/-- Blanks and ends of lines between two pieces of a scalar. -/
structure Gap where
  /-- The blanks before the first end of a line. -/
  blanks : List Char := []
  /-- The ends of lines; the first is empty if it does not count. -/
  breaks : List (List Char) := []

/-- What a gap stands for: blanks within a line are kept, one end of a line is a space, and of
several the first is dropped. -/
def Gap.text (g : Gap) : List Char :=
  match g.breaks with
  | [] => g.blanks
  | [['\n']] => [' ']
  | ['\n'] :: more => more.flatten
  | other => other.flatten

/-- The gap that goes on here. Where `margin` is given, a tab before that column of a line after the
first is an error. -/
def takeGap (margin : Option Nat) : Nat → Gap → Cursor → Option (Gap × Cursor)
  | 0, g, c => some (g, c)
  | fuel + 1, g, c =>
    match c.rest.head? with
    | none => some (g, c)
    | some ch =>
      if isBlank ch then
        if g.breaks.isEmpty then
          takeGap margin fuel { g with blanks := g.blanks ++ [ch] } (c.advance 1)
        else if ch = '\t' && margin.any (c.column < ·) then none
        else takeGap margin fuel g (c.advance 1)
      else if isBreak ch then
        let (text, c) := c.takeBreak
        takeGap margin fuel { g with breaks := g.breaks ++ [text] } c
      else some (g, c)

end MockHttp.Yaml
