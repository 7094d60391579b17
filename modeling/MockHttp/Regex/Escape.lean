import MockHttp.Regex.Expr

/-!
# Escapes

What may follow a backslash in a pattern, inside brackets and outside of them. A letter without a
meaning of its own is refused; every other character stands for itself.
-/

namespace MockHttp.Regex

inductive SyntaxError where
  /-- A parenthesis is opened and not closed. -/
  | unclosedGroup
  /-- A parenthesis is closed and not opened. -/
  | unopenedGroup
  /-- Groups are nested too deeply. -/
  | tooDeep
  /-- A repetition has nothing to repeat. -/
  | nothingToRepeat
  /-- A repetition asks for more than it allows. -/
  | repeatBounds
  /-- The pattern ends in a backslash. -/
  | trailingBackslash
  /-- The escaped character has no meaning. -/
  | unknownEscape
  /-- A code point is not written in hexadecimal digits or is no character. -/
  | codePoint
  /-- No property has the name. -/
  | unknownProperty
  /-- A bracket is opened and not closed, or holds what it cannot hold. -/
  | badBrackets
  /-- An inline flag is not known. -/
  | unknownFlag
  /-- A group name is missing or not closed. -/
  | groupName
  /-- A back reference asks for a group that has not been opened. -/
  | unknownGroup
  /-- Groups have names, and a back reference uses a number. -/
  | mixedReferences
  /-- A lookbehind does not have a fixed width. -/
  | variableLookbehind
  deriving DecidableEq, Repr

namespace SyntaxError

def message : SyntaxError → String
  | unclosedGroup => "a group is not closed"
  | unopenedGroup => "a group is closed that was not opened"
  | tooDeep => "groups are nested too deeply"
  | nothingToRepeat => "a repetition has nothing to repeat"
  | repeatBounds => "a repetition asks for more than it allows"
  | trailingBackslash => "the pattern ends in a backslash"
  | unknownEscape => "an escape has no meaning"
  | codePoint => "an escaped code point is not a character"
  | unknownProperty => "a character property is not known"
  | badBrackets => "a bracket expression is not well-formed"
  | unknownFlag => "an inline flag is not known"
  | groupName => "a group name is not well-formed"
  | unknownGroup => "a back reference asks for a group that does not exist"
  | mixedReferences => "numbered back references cannot stand beside named groups"
  | variableLookbehind => "a lookbehind does not have a fixed width"

end SyntaxError

def hexValue? (c : Char) : Option Nat :=
  if '0' ≤ c ∧ c ≤ '9' then some (c.toNat - '0'.toNat)
  else if 'a' ≤ c ∧ c ≤ 'f' then some (c.toNat - 'a'.toNat + 10)
  else if 'A' ≤ c ∧ c ≤ 'F' then some (c.toNat - 'A'.toNat + 10)
  else none

def hexNumber? (digits : List Char) : Option Nat :=
  digits.foldlM (fun n c => (hexValue? c).map (n * 16 + ·)) 0

def charOfCode? (n : Nat) : Option Char :=
  if h : n.isValidChar then some (Char.ofNatAux n h) else none

/-- The decimal number at the start of the text and the text after it. Numbers from `2 ^ 64` on are
not numbers here. -/
def readDecimal (cs : List Char) : Option (Nat × List Char) :=
  match cs.takeWhile Char.isDigit with
  | [] => none
  | digits =>
    let n := digits.foldl (fun n c => n * 10 + (c.toNat - '0'.toNat)) 0
    if n < Nat.pow 2 64 then some (n, cs.dropWhile Char.isDigit) else none

inductive Escape where
  /-- A character; `folds` says whether the case flag applies to it. -/
  | char (c : Char) (folds : Bool)
  /-- A set of characters. -/
  | set (s : CharSet)
  /-- A set written out in brackets, which cannot be an end of a range. -/
  | brackets (s : CharSet)
  /-- A condition on the place. -/
  | anchor (a : Anchor)
  /-- The group with a number. -/
  | groupNumber (n : Nat)
  /-- The group with a name, or with a number, perhaps counted from the place. -/
  | groupName (name : List Char)
  /-- Forget what has been consumed. -/
  | keepOut
  deriving DecidableEq, Repr

namespace Escape

/-- The code point after `\x`, `\u` or `\U`: exactly `digits` hexadecimal digits, or one to eight of
them in braces. -/
def readCode (digits : Nat) (cs : List Char) : Except SyntaxError (Escape × List Char) :=
  let number : Option (Nat × List Char) :=
    match hexNumber? (cs.take digits) with
    | some n =>
      if (cs.take digits).length = digits then some (n, cs.drop digits) else none
    | none =>
      match cs with
      | '\x7B' :: rest =>
        let body := rest.takeWhile (· != '\x7D')
        if body.isEmpty || 8 < body.length then none
        else match rest.dropWhile (· != '\x7D') with
          | _ :: after => (hexNumber? body).map (·, after)
          | [] => none
      | _ => none
  match number.bind fun (n, rest) => (charOfCode? n).map (·, rest) with
  | some (c, rest) => .ok (.char c true, rest)
  | none => .error .codePoint

/-- The property after `\p` or `\P`: one character or a name in braces. -/
def readProperty (negated ignoreCase : Bool) :
    List Char → Except SyntaxError (Escape × List Char)
  | [] => .error .unknownEscape
  | '\x7B' :: rest =>
    match rest.dropWhile (· != '\x7D') with
    | _ :: after =>
      match CharSet.ofProperty? negated ignoreCase (rest.takeWhile (· != '\x7D')) with
      | some s => .ok (.set s, after)
      | none => .error .unknownProperty
    | [] => .error .unknownProperty
  | c :: rest =>
    match CharSet.ofProperty? negated ignoreCase [c] with
    | some s => .ok (.set s, rest)
    | none => .error .unknownProperty

def isNameChar (c : Char) : Bool :=
  c.isAlphanum || c == '_' ||
    (0x80 ≤ c.toNat && (Unicode.alphabetic.contains c.toNat || CharSet.digit.contains c))

/-- The name after `\k`, in angle brackets or in single quotes. -/
def readName (cs : List Char) : Except SyntaxError (Escape × List Char) :=
  let close? : Option (Char × List Char) := match cs with
    | '<' :: rest => some ('>', rest)
    | '\x27' :: rest => some ('\x27', rest)
    | _ => none
  match close? with
  | none => .error .groupName
  | some (close, rest) =>
    let name := rest.takeWhile (· != close)
    match rest.dropWhile (· != close) with
    | _ :: after => if name.isEmpty then .error .groupName else .ok (.groupName name, after)
    | [] => .error .groupName

/-- The control character that a letter names. -/
def control? : Char → Option Char
  | 'a' => some '\x07'
  | 'b' => some '\x08'
  | 'f' => some '\x0C'
  | 'n' => some '\n'
  | 'r' => some '\r'
  | 't' => some '\t'
  | 'v' => some '\x0B'
  | 'e' => some '\x1B'
  | _ => none

/-- What the letter or digit `c` after the backslash stands for outside of brackets only. -/
def readOutside (c : Char) (rest : List Char) :
    Option (Except SyntaxError (Escape × List Char)) :=
  match c with
  | 'k' => some (readName rest)
  | 'A' => some (.ok (.anchor .textStart, rest))
  | 'z' => some (.ok (.anchor .textEnd, rest))
  | 'b' => some (if rest.head? = some '\x7B' then .error .unknownEscape
      else .ok (.anchor .wordEdge, rest))
  | 'B' => some (if rest.head? = some '\x7B' then .error .unknownEscape
      else .ok (.anchor .notWordEdge, rest))
  | '<' => some (.ok (.anchor .wordStart, rest))
  | '>' => some (.ok (.anchor .wordEnd, rest))
  | 'K' => some (.ok (.keepOut, rest))
  | 'G' => some (.ok (.anchor .searchStart, rest))
  | _ => none

/-- What `c` after the backslash stands for inside and outside of brackets alike. -/
def readAnywhere (ignoreCase : Bool) (c : Char) (rest : List Char) :
    Except SyntaxError (Escape × List Char) :=
  match c with
  | 'd' => .ok (.set .digit, rest)
  | 'D' => .ok (.set (.compl .digit), rest)
  | 's' => .ok (.set .space, rest)
  | 'S' => .ok (.set (.compl .space), rest)
  | 'w' => .ok (.set .word, rest)
  | 'W' => .ok (.set (.compl .word), rest)
  | 'h' => .ok (.brackets .hexDigit, rest)
  | 'H' => .ok (.brackets (.compl .hexDigit), rest)
  | 'x' => readCode 2 rest
  | 'u' => readCode 4 rest
  | 'U' => readCode 8 rest
  | 'p' => readProperty false ignoreCase rest
  | 'P' => readProperty true ignoreCase rest
  | c =>
    match control? c with
    | some d => .ok (.char d false, rest)
    | none =>
      if c.isAlpha && ['k', 'A', 'z', 'B', 'K', 'G'].all (c ≠ ·) then .error .unknownEscape
      else .ok (.char c false, rest)

/-- The escape whose backslash has been read, and the text after it. -/
def read (inBrackets ignoreCase : Bool) : List Char → Except SyntaxError (Escape × List Char)
  | [] => .error .trailingBackslash
  | c :: rest =>
    if c.isDigit then
      match readDecimal (c :: rest) with
      | some (n, after) => .ok (.groupNumber n, after)
      | none => .error .unknownGroup
    else
      match if inBrackets then none else readOutside c rest with
      | some found => found
      | none => readAnywhere ignoreCase c rest

end Escape

end MockHttp.Regex
