import MockHttp.Toml.Scalar
import MockHttp.Toml.Text

/-!
# Reading TOML

A document is a sequence of lines: an entry of the current table, the header of another table, a
comment or nothing. Arrays and inline tables may extend over several lines and may end with a comma.
-/

namespace MockHttp.Toml

def skipBlank (cs : List Char) : List Char := cs.dropWhile fun c => c = ' ' || c = '\t'

/-- The text after a comment, if there is one; characters that may not be in a comment end it. -/
def skipComment (cs : List Char) : List Char :=
  match cs with
  | '#' :: rest => rest.dropWhile isTextChar
  | _ => cs

def lineEnd? : List Char → Option (List Char)
  | '\n' :: rest => some rest
  | '\r' :: '\n' :: rest => some rest
  | _ => none

/-- The text after blanks, comments and ends of lines. -/
def skipLines : Nat → List Char → List Char
  | 0, cs => cs
  | fuel + 1, cs =>
    let cs := skipComment (skipBlank cs)
    match lineEnd? cs with
    | some rest => skipLines fuel rest
    | none => cs

/-- The text from the next line on, if there is nothing but a comment on this one. -/
def finishLine? (cs : List Char) : Option (List Char) :=
  match skipComment (skipBlank cs) with
  | [] => some []
  | rest => lineEnd? rest

/-- A key without quotes may have this character. -/
def isBareChar (c : Char) : Bool := c.isAlphanum || c = '_' || c = '-'

def takeKeyPart? (cs : List Char) : Option (String × List Char) :=
  match cs with
  | '"' :: _ => takeString? false cs
  | '\'' :: _ => takeString? false cs
  | _ =>
    let (text, rest) := cs.span isBareChar
    if text.isEmpty then none else some (String.ofList text, rest)

/-- The parts of a key and the text after it and after blanks. -/
def takeKey? : Nat → List Char → Option (List String × List Char)
  | 0, _ => none
  | fuel + 1, cs => do
    let (part, rest) ← takeKeyPart? (skipBlank cs)
    match skipBlank rest with
    | '.' :: rest =>
      let (parts, rest) ← takeKey? fuel rest
      return (part :: parts, rest)
    | rest => return ([part], rest)

/-- The parts of a key before the last one, and the last one. -/
def splitKey? (parts : List String) : Option (List String × String) :=
  parts.getLast?.map (parts.dropLast, ·)

/-- The text ends a value that is written without quotes. -/
def endsScalar (c : Char) : Bool := " \t\r\n,]\x7D#=[\x7B\"'".contains c

/-- The value without quotes that the text begins with, and the text after it. A blank may stand
between a date and a time. -/
def takeScalar? (cs : List Char) : Option (Value × List Char) :=
  let (text, rest) := cs.span (!endsScalar ·)
  match rest with
  | ' ' :: more =>
    let (time, after) := more.span (!endsScalar ·)
    if (takeDate? text).any List.isEmpty && time.head?.any Char.isDigit then
      (scalar? (text ++ [' '] ++ time)).map (·, after)
    else (scalar? text).map (·, rest)
  | _ => (scalar? text).map (·, rest)

mutual

/-- The value that the text begins with, and the text after it. -/
def takeValue? : Nat → List Char → Option (Value × List Char)
  | 0, _ => none
  | fuel + 1, cs =>
    match cs with
    | '[' :: rest => (takeItems? fuel rest).map fun (items, rest) => (.array items, rest)
    | '\x7B' :: rest =>
      (takeEntries? fuel [] rest).map fun (entries, rest) => (.table .inline entries, rest)
    | '"' :: _ => (takeString? true cs).map fun (s, rest) => (.string s, rest)
    | '\'' :: _ => (takeString? true cs).map fun (s, rest) => (.string s, rest)
    | _ => takeScalar? cs

/-- The items of an array up to the bracket that ends it. -/
def takeItems? : Nat → List Char → Option (List Value × List Char)
  | 0, _ => none
  | fuel + 1, cs =>
    match skipLines (cs.length + 1) cs with
    | ']' :: rest => some ([], rest)
    | cs => do
      let (item, rest) ← takeValue? fuel cs
      match skipLines (rest.length + 1) rest with
      | ',' :: rest =>
        let (items, rest) ← takeItems? fuel rest
        return (item :: items, rest)
      | ']' :: rest => return ([item], rest)
      | _ => none

/-- The entries of an inline table up to the brace that ends it, after those before. -/
def takeEntries? : Nat → Entries → List Char → Option (Entries × List Char)
  | 0, _, _ => none
  | fuel + 1, entries, cs =>
    match skipLines (cs.length + 1) cs with
    | '\x7D' :: rest => some (entries, rest)
    | cs => do
      let (parts, rest) ← takeKey? (cs.length + 1) cs
      let (path, key) ← splitKey? parts
      match rest with
      | '=' :: rest =>
        let (value, rest) ← takeValue? fuel (skipBlank rest)
        let entries ← insertKey path key value entries
        match skipLines (rest.length + 1) rest with
        | ',' :: rest => takeEntries? fuel entries rest
        | '\x7D' :: rest => return (entries, rest)
        | _ => none
      | _ => none

end

/-- The document from a line on. `path` is that of the current table. -/
def takeLines? : Nat → List String → Entries → List Char → Option Entries
  | 0, _, _, _ => none
  | fuel + 1, path, doc, cs =>
    match skipLines (cs.length + 1) cs with
    | [] => some doc
    | '[' :: '[' :: rest => do
      let (parts, rest) ← takeKey? (rest.length + 1) rest
      let (parents, key) ← splitKey? parts
      match rest with
      | ']' :: ']' :: rest =>
        let doc ← alterAt (openItem key) parents doc
        takeLines? fuel parts doc (← finishLine? rest)
      | _ => none
    | '[' :: rest => do
      let (parts, rest) ← takeKey? (rest.length + 1) rest
      let (parents, key) ← splitKey? parts
      match rest with
      | ']' :: rest =>
        let doc ← alterAt (openTable key) parents doc
        takeLines? fuel parts doc (← finishLine? rest)
      | _ => none
    | cs => do
      let (parts, rest) ← takeKey? (cs.length + 1) cs
      let (parents, key) ← splitKey? parts
      match rest with
      | '=' :: rest =>
        let (value, rest) ← takeValue? (rest.length + 1) (skipBlank rest)
        let doc ← alterAt (insertKey parents key value) path doc
        takeLines? fuel path doc (← finishLine? rest)
      | _ => none

def parse? (text : String) : Option Value :=
  let cs := match text.toList with
    | '\uFEFF' :: rest => rest
    | cs => cs
  (takeLines? (cs.length + 1) [] [] cs).map (.table .header)

end MockHttp.Toml
