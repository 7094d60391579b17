import MockHttp.Text.Number

/-!
# TOML strings

Strings are written between quotation marks, where a backslash begins an escape, or between
apostrophes, where all is meant as it stands. Three marks on either side make a string that may
extend over several lines.
-/

namespace MockHttp.Toml

/-- The character may stand in a text of one line. -/
def isTextChar (c : Char) : Bool :=
  c = '\t' || (0x20 ≤ c.toNat && c.toNat ≠ 0x7F)

/-- The character with a number that is written with so many hexadecimal digits, and the text after
it. -/
def hexChar? (count : Nat) (cs : List Char) : Option (Char × List Char) :=
  let digits := cs.take count
  if digits.length < count then none
  else match Text.digitsValue? 16 digits with
    | some n => if Nat.isValidChar n then some (Char.ofNat n, cs.drop count) else none
    | none => none

/-- The character that an escape stands for, from the character after the backslash on, and the text
after it. -/
def unescape? : List Char → Option (Char × List Char)
  | 'b' :: rest => some ('\x08', rest)
  | 't' :: rest => some ('\t', rest)
  | 'n' :: rest => some ('\n', rest)
  | 'f' :: rest => some ('\x0C', rest)
  | 'r' :: rest => some ('\r', rest)
  | 'e' :: rest => some ('\x1B', rest)
  | '"' :: rest => some ('"', rest)
  | '\\' :: rest => some ('\\', rest)
  | 'x' :: rest => hexChar? 2 rest
  | 'u' :: rest => hexChar? 4 rest
  | 'U' :: rest => hexChar? 8 rest
  | _ => none

/-- The text after a backslash at the end of a line and the blanks and empty lines that follow, if
the line ends there. -/
def skipLineEnd? (cs : List Char) : Option (List Char) :=
  match cs.dropWhile fun c => c = ' ' || c = '\t' with
  | '\n' :: rest => some (rest.dropWhile fun c => " \t\r\n".contains c)
  | '\r' :: '\n' :: rest => some (rest.dropWhile fun c => " \t\r\n".contains c)
  | _ => none

/-- The text of a string of one line, and the text after the mark that ends it. -/
def lineString (mark : Char) : Nat → List Char → Option (List Char × List Char)
  | 0, _ => none
  | fuel + 1, cs =>
    match cs with
    | [] => none
    | c :: rest =>
      if c = mark then some ([], rest)
      else if mark = '"' && c = '\\' then do
        let (c, rest) ← unescape? rest
        let (text, rest) ← lineString mark fuel rest
        return (c :: text, rest)
      else if isTextChar c then do
        let (text, rest) ← lineString mark fuel rest
        return (c :: text, rest)
      else none

/-- The text of a string of several lines, and the text after the three marks that end it. Up to two
marks before those belong to the text. -/
def blockString (mark : Char) : Nat → List Char → Option (List Char × List Char)
  | 0, _ => none
  | fuel + 1, cs =>
    match cs with
    | [] => none
    | c :: rest =>
      if c = mark then
        let marks := (cs.takeWhile (· = mark)).length
        if marks < 3 then do
          let (text, rest) ← blockString mark fuel rest
          return (c :: text, rest)
        else
          let inside := min marks 5 - 3
          some (List.replicate inside mark, cs.drop (inside + 3))
      else if mark = '"' && c = '\\' then
        match skipLineEnd? rest with
        | some rest => blockString mark fuel rest
        | none => do
          let (c, rest) ← unescape? rest
          let (text, rest) ← blockString mark fuel rest
          return (c :: text, rest)
      else if isTextChar c || c = '\n' || (c = '\r' && rest.head? == some '\n') then do
        let (text, rest) ← blockString mark fuel rest
        return (c :: text, rest)
      else none

def dropLineEnd : List Char → List Char
  | '\n' :: rest => rest
  | '\r' :: '\n' :: rest => rest
  | cs => cs

/-- The string that the text begins with, and the text after it. Only where `block` is given, it may
extend over several lines. -/
def takeString? (block : Bool) (cs : List Char) : Option (String × List Char) :=
  match cs with
  | c :: rest =>
    if c = '"' || c = '\'' then
      let read :=
        if block && rest.take 2 == [c, c] then
          blockString c (rest.length + 1) (dropLineEnd (rest.drop 2))
        else lineString c (rest.length + 1) rest
      read.map fun (text, rest) => (String.ofList text, rest)
    else none
  | [] => none

end MockHttp.Toml
