import MockHttp.Yaml.Scalar

/-!
# From text to tokens

Tokens come in the order of the text, but for one thing: that something is the key of a mapping
shows only at the colon after it. So the place where a key may have begun is remembered, and the
token that announces it is put there later. A remembered key must end on its line, within 1024
characters.
-/

namespace MockHttp.Yaml

/-- A place where a key may have begun. -/
structure KeyPlace where
  /-- The number of tokens before it. -/
  position : Nat
  index : Nat
  line : Nat
  column : Nat
  /-- What begins here must be a key, because nothing else can stand there. -/
  required : Bool
  deriving Repr

structure Scanner where
  cursor : Cursor
  tokens : Array Token := #[]
  /-- The column of the innermost block; outside of all blocks it is -1. -/
  indent : Int := -1
  /-- The columns of the blocks around it, innermost first. -/
  outer : List Int := []
  /-- The place of a possible key at the current level. -/
  keyPlace : Option KeyPlace := none
  /-- The places of possible keys outside of the flow collections that are open, innermost first. -/
  outerKeys : List (Option KeyPlace) := []
  /-- A key may begin here without an indicator. -/
  keyAllowed : Bool := true

namespace Scanner

/-- A flow collection is open. -/
def inFlow (s : Scanner) : Bool := !s.outerKeys.isEmpty

def column (s : Scanner) : Int := s.cursor.column

def push (s : Scanner) (t : Token) : Scanner := { s with tokens := s.tokens.push t }

/-- The scanner after a token that takes some characters of the line. -/
def take (s : Scanner) (count : Nat) (t : Token) : Scanner :=
  { s with cursor := s.cursor.advance count }.push t

/-- The scanner with or without leave for a key to begin. -/
def allowKey (s : Scanner) (allowed : Bool) : Scanner := { s with keyAllowed := allowed }

/-- The scanner after blanks, comments and empty lines. -/
def skipBlank : Nat → Scanner → Scanner
  | 0, s => s
  | fuel + 1, s =>
    let tabs := s.inFlow || !s.keyAllowed
    let c := s.cursor.skipWhile fun ch => ch = ' ' || (tabs && ch = '\t')
    let c := if c.starts '#' then c.skipWhile (!isBreak ·) else c
    if c.rest.head?.any isBreak then
      skipBlank fuel { s with
        cursor := c.takeBreak.2
        keyAllowed := s.keyAllowed || !s.inFlow }
    else { s with cursor := c }

/-- A possible key is no longer possible. -/
def isStale (c : Cursor) (k : KeyPlace) : Bool := k.line < c.line || k.index + 1024 < c.index

/-- The place of a key, unless it is stale. A stale key that is required is an error. -/
def fresh? (c : Cursor) : Option KeyPlace → Option (Option KeyPlace)
  | some k => if isStale c k then (if k.required then none else some none) else some (some k)
  | none => some none

def dropStale (s : Scanner) : Option Scanner := do
  return { s with
    keyPlace := ← fresh? s.cursor s.keyPlace
    outerKeys := ← s.outerKeys.mapM (fresh? s.cursor) }

/-- The scanner without a possible key at the current level. -/
def dropKey (s : Scanner) : Option Scanner :=
  if s.keyPlace.any (·.required) then none else some { s with keyPlace := none }

/-- The scanner that remembers that a key may begin here. -/
def saveKey (s : Scanner) : Option Scanner :=
  if s.keyAllowed then do
    let s ← s.dropKey
    return { s with
      keyPlace := some {
        position := s.tokens.size, index := s.cursor.index, line := s.cursor.line
        column := s.cursor.column, required := !s.inFlow && s.indent == s.column } }
  else some s

/-- The scanner inside a block at a column, with the start of the block at a position if the block
begins with that. -/
def openBlock (s : Scanner) (column : Int) (position : Nat) (start : Token) : Scanner :=
  if s.inFlow || column ≤ s.indent then s
  else { s with
    indent := column
    outer := s.indent :: s.outer
    tokens := s.tokens.insertIdxIfInBounds position start }

/-- The scanner outside of the blocks that are indented more than a column. -/
def closeBlocks (column : Int) : Nat → Scanner → Scanner
  | 0, s => s
  | fuel + 1, s =>
    if s.inFlow || s.indent ≤ column then s
    else closeBlocks column fuel
      { s.push .blockEnd with indent := s.outer.headD (-1), outer := s.outer.tail }

/-- The scanner outside of the blocks that are indented more than a column. -/
def unindent (s : Scanner) (column : Int) : Scanner := closeBlocks column (s.outer.length + 1) s

/-- The scanner outside of all blocks, without a possible key. -/
def leaveAll (s : Scanner) : Option Scanner := do
  return (← (s.unindent (-1)).dropKey).allowKey false

/-- A number in decimal digits, and the place after it. -/
def scanVersionPart (c : Cursor) : Option (Nat × Cursor) :=
  let (digits, c) := c.takeWhile Char.isDigit
  if digits.isEmpty || 9 < digits.length then none
  else some (digits.foldl (fun n d => n * 10 + (d.toNat - '0'.toNat)) 0, c)

/-- The text of a tag from here on, with escapes for bytes. -/
def scanUri (brackets : Bool) : Nat → List UInt8 → Cursor → Option (String × Cursor)
  | 0, _, _ => none
  | fuel + 1, bytes, c =>
    match c.rest with
    | '%' :: rest =>
      match hexChar? 2 rest with
      | some byte => scanUri brackets fuel (bytes ++ [byte.toNat.toUInt8]) (c.advance 3)
      | none => none
    | ch :: _ =>
      if isWord ch || ";/?:@&=+$.!~*'()".contains ch || (brackets && ",[]".contains ch) then
        scanUri brackets fuel (bytes ++ [ch.toNat.toUInt8]) (c.advance 1)
      else (String.fromUTF8? ⟨bytes.toArray⟩).map (·, c)
    | [] => (String.fromUTF8? ⟨bytes.toArray⟩).map (·, c)

/-- The handle of a tag: an exclamation mark, perhaps a word and another exclamation mark. -/
def scanHandle (c : Cursor) : List Char × Cursor :=
  let (word, after) := (c.advance 1).takeWhile isWord
  if after.starts '!' then ('!' :: word ++ ['!'], after.advance 1) else ('!' :: word, after)

def scanDirective (s : Scanner) : Option Scanner := do
  let (name, c) := (s.cursor.advance 1).takeWhile isWord
  if !c.isGap 0 then none
  let c := c.skipWhile isBlank
  let (token, c) ←
    if name = "YAML".toList then do
      let (major, c) ← scanVersionPart c
      if !c.starts '.' then none
      let (minor, c) ← scanVersionPart (c.advance 1)
      pure (Token.versionDirective major minor, c)
    else if name = "TAG".toList then do
      if !c.starts '!' then none
      let (handle, c) := scanHandle c
      if handle ≠ ['!'] && handle.getLast? ≠ some '!' then none
      if !(c.rest.head?.any isBlank) then none
      let (lead, c) ← scanUri true (c.rest.length + 1) [] (c.skipWhile isBlank)
      if lead.isEmpty || !c.isGap 0 then none
      pure (Token.tagDirective (String.ofList handle) lead, c)
    else none
  let c := c.skipWhile isBlank
  let c := if c.starts '#' then c.skipWhile (!isBreak ·) else c
  if !c.atLineEnd then none
  return { s with cursor := c.takeBreak.2 }.push token

/-- The scanner after the name of an anchor or an alias. -/
def scanName (s : Scanner) (token : String → Token) : Option Scanner :=
  let (name, c) := (s.cursor.advance 1).takeWhile isWord
  let ended := c.isGap 0 || c.rest.head?.any fun ch => "?:,]\x7D%@\x60".contains ch
  if name.isEmpty || !ended then none
  else some ({ s with cursor := c }.push (token (String.ofList name)))

def scanTag (s : Scanner) : Option Scanner := do
  let c := s.cursor
  let (token, c) ←
    if c.peek 1 = some '<' then do
      let (uri, c) ← scanUri true (c.rest.length + 1) [] (c.advance 2)
      if uri.isEmpty || !c.starts '>' then none
      pure (Token.tag "" uri, c.advance 1)
    else do
      let (handle, after) := scanHandle c
      if 2 ≤ handle.length && handle.getLast? == some '!' then do
        let (suffix, c) ← scanUri false (after.rest.length + 1) [] after
        if suffix.isEmpty then none
        pure (Token.tag (String.ofList handle) suffix, c)
      else do
        let (suffix, c) ← scanUri false (c.rest.length + 1) [] (c.advance 1)
        pure (if suffix.isEmpty then Token.tag "" "!" else Token.tag "!" suffix, c)
  if !(c.isGap 0 || (s.inFlow && c.starts ',')) then none
  return { s with cursor := c }.push token

def pushScalar (s : Scanner) (style : Style) (text : List Char) (c : Cursor) : Scanner :=
  { s with cursor := c }.push (.scalar style (String.ofList text))

/-- The scanner after the start of a flow collection. -/
def openFlow (s : Scanner) (start : Token) : Option Scanner := do
  let s ← s.saveKey
  return ({ s with outerKeys := s.keyPlace :: s.outerKeys, keyPlace := none }.allowKey true).take 1
    start

def closeFlow (s : Scanner) (stop : Token) : Option Scanner := do
  let s ← s.dropKey
  let s := match s.outerKeys with
    | k :: outer => { s with keyPlace := k, outerKeys := outer }
    | [] => s
  return (s.allowKey false).take 1 stop

/-- The scanner after the indicator of an entry of a block sequence. -/
def scanBlockEntry (s : Scanner) : Option Scanner := do
  if !s.inFlow && !s.keyAllowed then none
  let s := s.openBlock s.column s.tokens.size .blockSequenceStart
  return ((← s.dropKey).allowKey true).take 1 .blockEntry

def scanKey (s : Scanner) : Option Scanner := do
  if !s.inFlow && !s.keyAllowed then none
  let s := s.openBlock s.column s.tokens.size .blockMappingStart
  return ((← s.dropKey).allowKey !s.inFlow).take 1 .key

def scanValue (s : Scanner) : Option Scanner := do
  match s.keyPlace with
  | some k =>
    let s := { s with
      keyPlace := none, tokens := s.tokens.insertIdxIfInBounds k.position .key }
    let s := s.openBlock k.column k.position .blockMappingStart
    return (s.allowKey false).take 1 .value
  | none =>
    if !s.inFlow && !s.keyAllowed then none
    let s := s.openBlock s.column s.tokens.size .blockMappingStart
    return (s.allowKey !s.inFlow).take 1 .value

def scanPlainScalar (s : Scanner) : Option Scanner := do
  let s := (← s.saveKey).allowKey false
  let (text, c, broken) ← scanPlain (s.indent + 1).toNat s.inFlow s.cursor
  return (s.pushScalar .plain text c).allowKey broken

def scanQuotedScalar (s : Scanner) (style : Style) (quote : Char) : Option Scanner := do
  let s := (← s.saveKey).allowKey false
  let (text, c) ← scanQuoted quote s.cursor
  return s.pushScalar style text c

def scanBlockScalar (s : Scanner) (style : Style) : Option Scanner := do
  let s := (← s.dropKey).allowKey true
  let (text, c) ← scanBlock (style == .folded) s.indent s.cursor
  return s.pushScalar style text c

def startsPlain (s : Scanner) (ch : Char) : Bool :=
  !("-?:,[]\x7B\x7D#&*!|>'\"%@\x60".contains ch) ||
    (ch = '-' && !(s.cursor.peek 1).any isBlank) ||
    (!s.inFlow && (ch = '?' || ch = ':') && !s.cursor.isGap 1)

/-- The scanner after the token that begins with the next character. -/
def scanToken (s : Scanner) (ch : Char) : Option Scanner :=
  if s.cursor.column == 0 && ch = '%' then do (← s.leaveAll).scanDirective
  else if s.cursor.atDocumentMark then do
    return (← s.leaveAll).take 3 (if ch = '-' then .documentStart else .documentEnd)
  else match ch with
    | '[' => s.openFlow .flowSequenceStart
    | '\x7B' => s.openFlow .flowMappingStart
    | ']' => s.closeFlow .flowSequenceEnd
    | '\x7D' => s.closeFlow .flowMappingEnd
    | ',' => do return ((← s.dropKey).allowKey true).take 1 .flowEntry
    | '*' => do ((← s.saveKey).allowKey false).scanName .alias
    | '&' => do ((← s.saveKey).allowKey false).scanName .anchor
    | '!' => do ((← s.saveKey).allowKey false).scanTag
    | '\'' => s.scanQuotedScalar .singleQuoted '\''
    | '"' => s.scanQuotedScalar .doubleQuoted '"'
    | _ =>
      if ch = '-' && s.cursor.isGap 1 then s.scanBlockEntry
      else if ch = '?' && (s.inFlow || s.cursor.isGap 1) then s.scanKey
      else if ch = ':' && (s.inFlow || s.cursor.isGap 1) then s.scanValue
      else if ch = '|' && !s.inFlow then s.scanBlockScalar .literal
      else if ch = '>' && !s.inFlow then s.scanBlockScalar .folded
      else if s.startsPlain ch then s.scanPlainScalar
      else none

def run : Nat → Scanner → Option (Array Token)
  | 0, _ => none
  | fuel + 1, s => do
    let s := s.skipBlank (s.cursor.rest.length + 1)
    let s ← s.dropStale
    let s := s.unindent s.column
    match s.cursor.rest.head? with
    | none => return (← s.leaveAll).tokens
    | some ch => run fuel (← s.scanToken ch)

end Scanner

def Token.scan (text : String) : Option (List Token) :=
  let chars := match text.toList with
    | '\uFEFF' :: rest => rest
    | chars => chars
  if chars.all isAllowed then
    (Scanner.run (chars.length + 1) { cursor := { rest := chars } }).map Array.toList
  else none

end MockHttp.Yaml
