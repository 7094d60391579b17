import MockHttp.Regex.Brackets

/-!
# Reading patterns

`read` turns the text of a pattern into an expression in one pass from left to right. `Progress`
holds what has been read: the pieces of the current alternative, the alternatives before it, and the
same for every group that is still open. A repetition applies to the piece read last.

Pieces without text, such as an inline flag, leave no trace in the expression but cannot be
repeated. Inline flags hold until the parenthesis that `(?:` or `(?flags:` opened is closed.
-/

namespace MockHttp.Regex

structure Flags where
  /-- Case is ignored. -/
  ignoreCase : Bool := false
  /-- `^` and `$` also stand for the ends of lines. -/
  multiLine : Bool := false
  /-- `.` also stands for a line feed. -/
  dotLineFeed : Bool := false
  /-- Repetitions are reluctant unless marked. -/
  swapGreed : Bool := false
  /-- Blanks and comments between pieces are skipped. -/
  ignoreSpace : Bool := false
  deriving DecidableEq, Repr

namespace Flags

/-- The flags after one flag letter has been set or cleared; `none` if there is no such letter. -/
def update? (flags : Flags) (value : Bool) : Char → Option Flags
  | 'i' => some { flags with ignoreCase := value }
  | 'm' => some { flags with multiLine := value }
  | 's' => some { flags with dotLineFeed := value }
  | 'U' => some { flags with swapGreed := value }
  | 'x' => some { flags with ignoreSpace := value }
  | 'u' => if value then some flags else none
  | _ => none

end Flags

/-- What `skipBlank` is passing over. -/
inductive Blank where
  /-- Nothing in particular. -/
  | between
  /-- A comment that ends with the line. -/
  | line
  /-- A comment that ends with a parenthesis. -/
  | group
  /-- The character after a backslash in such a comment. -/
  | escaped

/-- The text after blanks and comments. Blanks and line comments count only with `ignoreSpace`; a
comment in parentheses always does, and `none` says that it is not closed. -/
def skipBlankFrom (ignoreSpace : Bool) : Blank → List Char → Option (List Char)
  | .between, '(' :: '?' :: '#' :: rest => skipBlankFrom ignoreSpace .group rest
  | .between, c :: rest =>
    if ignoreSpace && c == '#' then skipBlankFrom ignoreSpace .line rest
    else if ignoreSpace && (c == ' ' || c == '\r' || c == '\n' || c == '\t') then
      skipBlankFrom ignoreSpace .between rest
    else some (c :: rest)
  | .between, [] => some []
  | .line, '\n' :: rest => skipBlankFrom ignoreSpace .between rest
  | .line, _ :: rest => skipBlankFrom ignoreSpace .line rest
  | .line, [] => some []
  | .group, ')' :: rest => skipBlankFrom ignoreSpace .between rest
  | .group, '\\' :: rest => skipBlankFrom ignoreSpace .escaped rest
  | .group, _ :: rest => skipBlankFrom ignoreSpace .group rest
  | .group, [] => none
  | .escaped, _ :: rest => skipBlankFrom ignoreSpace .group rest
  | .escaped, [] => none

/-- The text after blanks and comments. -/
def skipBlank (flags : Flags) (cs : List Char) : Option (List Char) :=
  skipBlankFrom flags.ignoreSpace .between cs

/-- The counts in braces whose opening brace has been read, and the text after them; `none` if the
braces hold no counts, in which case the brace is a character like any other. -/
def readCounts (flags : Flags) (cs : List Char) : Option (Nat × Option Nat × List Char) := do
  let cs ← skipBlank flags cs
  let (lo, cs) ← match cs with
    | ',' :: _ => some (0, cs)
    | _ => readDecimal cs
  match ← skipBlank flags cs with
  | '\x7D' :: rest => return (lo, some lo, rest)
  | ',' :: rest =>
    let rest ← skipBlank flags rest
    let (hi, rest) := match readDecimal rest with
      | some (hi, after) => (some hi, after)
      | none => (none, rest)
    match ← skipBlank flags rest with
    | '\x7D' :: rest => return (lo, hi, rest)
    | _ => none
  | _ => none

/-- What an open parenthesis began. -/
inductive Opener where
  /-- A group that is remembered. -/
  | group (n : Nat)
  /-- A group that is not; the flags before it hold again after it. -/
  | plain (before : Flags)
  /-- A lookaround. -/
  | look (side : Side) (negated : Bool)
  /-- An atomic part. -/
  | atomic
  deriving DecidableEq, Repr

/-- The pieces of the current alternative and the alternatives before it, each latest first. -/
structure Level where
  pieces : List Expr
  done : List Expr
  deriving DecidableEq, Repr

/-- What has been read of a pattern. -/
structure Progress where
  /-- The flags that hold at this place. -/
  flags : Flags := {}
  /-- How many remembered groups have been opened. -/
  groups : Nat := 0
  /-- The names of groups, latest first. -/
  names : List (List Char × Nat) := []
  /-- A back reference used a number. -/
  numbered : Bool := false
  /-- The groups that are open, innermost first, each with the level around it. -/
  outer : List (Opener × Level) := []
  /-- The level that is being read. -/
  level : Level := ⟨[], []⟩
  /-- The piece read last, if a repetition may apply to it. -/
  last : Option Expr := none
  deriving DecidableEq, Repr

namespace Progress

/-- Groups may be nested less deeply than this. -/
def maxDepth : Nat := 64

/-- The last piece is final. -/
def settle (p : Progress) : Progress :=
  match p.last with
  | none => p
  | some .empty => { p with last := none }
  | some e => { p with last := none, level := { p.level with pieces := e :: p.level.pieces } }

/-- A piece follows. -/
def push (p : Progress) (e : Expr) : Progress :=
  { p.settle with last := some e }

/-- Another alternative follows. -/
def branch (p : Progress) : Progress :=
  let p := p.settle
  { p with level := ⟨[], Expr.ofSeq p.level.pieces.reverse :: p.level.done⟩ }

def finish (p : Progress) : Except SyntaxError Expr :=
  let p := p.settle
  let e := Expr.ofSeq p.level.pieces.reverse
  match p.level.done with
  | [] => if p.numbered && !p.names.isEmpty then .error .mixedReferences else .ok e
  | done => .ok (Expr.ofAlt (e :: done).reverse)

/-- A group follows that `opener` began. -/
def enter (p : Progress) (opener : Opener) : Progress :=
  let p := p.settle
  { p with outer := (opener, p.level) :: p.outer, level := ⟨[], []⟩ }

/-- The innermost open group is closed. -/
def leave (p : Progress) : Except SyntaxError Progress :=
  match p.outer with
  | [] => .error .unopenedGroup
  | (opener, around) :: outer => do
    let e ← p.finish
    let p := { p with outer := outer, level := around }
    return match opener with
      | .group n => { p with last := some (.group n e) }
      | .plain before => { p with last := some e, flags := before }
      | .look side negated => { p with last := some (.look side negated e) }
      | .atomic => { p with last := some (.atomic e) }

def repeatable : Expr → Bool
  | .empty | .anchor _ | .look _ _ _ => false
  | _ => true

/-- The last piece is repeated; the text says whether reluctantly, and whether without second
thoughts. -/
def quantify (p : Progress) (lo : Nat) (hi : Option Nat) (cs : List Char) :
    Except SyntaxError (Progress × List Char) :=
  match p.last with
  | none => .error .nothingToRepeat
  | some e =>
    if !repeatable e then .error .nothingToRepeat
    else match skipBlank p.flags cs with
      | none => .error .unclosedGroup
      | some cs =>
        let (reluctant, cs) := match cs with
          | '?' :: rest => (true, rest)
          | _ => (false, cs)
        let e := Expr.iter e lo hi (reluctant == p.flags.swapGreed)
        let (e, cs) := match cs with
          | '+' :: rest => (Expr.atomic e, rest)
          | _ => (e, cs)
        .ok ({ p with last := none, level := { p.level with pieces := e :: p.level.pieces } }, cs)

def refer (p : Progress) (n : Nat) : Except SyntaxError Progress :=
  if n ≤ p.groups then .ok (p.push (.backref n)) else .error .unknownGroup

/-- A back reference to the group with a name. A name that no group has may be a number, or a number
counted back from the group opened last. -/
def referByName (p : Progress) (name : List Char) : Except SyntaxError Progress :=
  match p.names.lookup name with
  | some n => p.refer n
  | none =>
    match name with
    | '-' :: digits =>
      match readDecimal digits with
      | some (n, []) =>
        if n = 0 ∨ p.groups + 1 < n then .error .unknownGroup else p.refer (p.groups + 1 - n)
      | _ => .error .unknownGroup
    | _ =>
      match readDecimal name with
      | some (n, []) => p.refer n
      | _ => .error .unknownGroup

/-- A group with a name follows; the name ends before the character `close`. -/
def enterNamed (p : Progress) (close : Char) (cs : List Char) :
    Except SyntaxError (Progress × List Char) :=
  let name := cs.takeWhile Escape.isNameChar
  match cs.dropWhile Escape.isNameChar with
  | c :: rest =>
    if c = close ∧ name ≠ [] then
      let n := p.groups + 1
      .ok ({ (p.enter (.group n)) with groups := n, names := (name, n) :: p.names }, rest)
    else .error .groupName
  | [] => .error .groupName

/-- The flags after `(?`, and what they apply to: the rest of the group or, after a colon, a group
of their own. `value` says whether letters set or clear, `count` how many characters have been
read. -/
def readFlags (p : Progress) (before : Flags) (value : Bool) (count : Nat) :
    List Char → Except SyntaxError (Progress × List Char)
  | [] => .error .unclosedGroup
  | c :: rest =>
    let blank := p.flags.ignoreSpace && (c == ' ' || c == '\r' || c == '\n' || c == '\t')
    if blank then readFlags p before value (count + 1) rest
    else if c = '-' then
      if value then readFlags p before false (count + 1) rest else .error .unknownFlag
    else if c = ')' then
      if count = 0 || (!value && count = 1) then .error .unknownFlag
      else .ok (p.push .empty, rest)
    else if c = ':' then
      if !value && count = 1 then .error .unknownFlag
      else .ok (p.enter (.plain before), rest)
    else match p.flags.update? value c with
      | some flags => readFlags { p with flags := flags } before value (count + 1) rest
      | none => .error .unknownFlag

def readOpen (p : Progress) (cs : List Char) : Except SyntaxError (Progress × List Char) :=
  if maxDepth ≤ p.outer.length + 1 then .error .tooDeep
  else match skipBlank p.flags cs with
    | none => .error .unclosedGroup
    | some cs =>
      match cs with
      | '?' :: '=' :: rest => .ok (p.enter (.look .ahead false), rest)
      | '?' :: '!' :: rest => .ok (p.enter (.look .ahead true), rest)
      | '?' :: '<' :: '=' :: rest => .ok (p.enter (.look .behind false), rest)
      | '?' :: '<' :: '!' :: rest => .ok (p.enter (.look .behind true), rest)
      | '?' :: '<' :: rest => p.enterNamed '>' rest
      | '?' :: '\x27' :: rest => p.enterNamed '\x27' rest
      | '?' :: 'P' :: '<' :: rest => p.enterNamed '>' rest
      | '?' :: 'P' :: '=' :: rest =>
        let name := rest.takeWhile Escape.isNameChar
        match rest.dropWhile Escape.isNameChar with
        | ')' :: after => do
          if name.isEmpty then throw .groupName
          return (← p.referByName name, after)
        | _ => .error .groupName
      | '?' :: '>' :: rest => .ok (p.enter .atomic, rest)
      | '?' :: rest => p.readFlags p.flags true 0 rest
      | rest =>
        let n := p.groups + 1
        .ok ({ (p.enter (.group n)) with groups := n }, rest)

def readEscape (p : Progress) (cs : List Char) : Except SyntaxError (Progress × List Char) := do
  let (found, rest) ← Escape.read false p.flags.ignoreCase cs
  match found with
  | .char c folds => return (p.push (.char c (folds && p.flags.ignoreCase)), rest)
  | .set s | .brackets s => return (p.push (.set s), rest)
  | .anchor a => return (p.push (.anchor a), rest)
  | .keepOut => return (p.push .keepOut, rest)
  | .groupNumber n => return (← { p with numbered := true }.refer n, rest)
  | .groupName name => return (← p.referByName name, rest)

/-- The character `c` has been read. -/
def step (p : Progress) (c : Char) (rest : List Char) :
    Except SyntaxError (Progress × List Char) :=
  match c with
  | '.' => .ok (p.push (.any p.flags.dotLineFeed), rest)
  | '^' => .ok (p.push (.anchor (if p.flags.multiLine then .lineStart else .textStart)), rest)
  | '$' => .ok (p.push (.anchor (if p.flags.multiLine then .lineEnd else .textEnd)), rest)
  | '|' => .ok (p.branch, rest)
  | '(' => p.readOpen rest
  | ')' => do return (← p.leave, rest)
  | '\\' => p.readEscape rest
  | '[' => do
    let (s, rest) ← Brackets.read p.flags.ignoreCase rest
    return (p.push (.set s), rest)
  | '?' => p.quantify 0 (some 1) rest
  | '*' => p.quantify 0 none rest
  | '+' => p.quantify 1 none rest
  | '\x7B' =>
    match p.last, readCounts p.flags rest with
    | some _, some (lo, hi, after) => p.quantify lo hi after
    | _, _ => .ok (p.push (.char c p.flags.ignoreCase), rest)
  | c => .ok (p.push (.char c p.flags.ignoreCase), rest)

def readAll (p : Progress) (cs : List Char) : Except SyntaxError Progress :=
  match skipBlank p.flags cs with
  | none => .error .unclosedGroup
  | some [] => .ok p
  | some (c :: rest) =>
    match p.step c rest with
    | .error e => .error e
    | .ok (p, after) =>
      if _h : after.length < cs.length then readAll p after else .error .unclosedGroup
termination_by cs.length

end Progress

/-- Every repetition and every lookbehind can be carried out. A part without references, lookaround
and the like that nothing after it depends on (`last`) is matched at once and has its bounds in
order; elsewhere a repetition that asks for more than it allows is cut short instead. -/
def runnable (asked : List Nat) (last : Bool) (e : Expr) : Except SyntaxError Unit :=
  if last && e.isPlain asked then
    if e.boundsOrdered then .ok () else .error .repeatBounds
  else match e with
    | .seq a b => do runnable asked false a; runnable asked last b
    | .alt a b => do runnable asked last a; runnable asked last b
    | .group _ e => runnable asked last e
    | .iter e lo hi _ => runnable asked (last && lo = 0 && hi = some 1) e
    | .look .behind _ e => do
      runnable asked true e
      if e.width?.isSome || e.alternatives.all (·.width?.isSome) then pure ()
      else throw .variableLookbehind
    | .look .ahead _ e => runnable asked true e
    | .atomic e => runnable asked true e
    | _ => .ok ()

/-- The expression with every lookbehind of a fixed width: one whose alternatives differ in width
becomes one lookbehind for each of them. -/
def fixWidths : Expr → Expr
  | .seq a b => .seq (fixWidths a) (fixWidths b)
  | .alt a b => .alt (fixWidths a) (fixWidths b)
  | .group n e => .group n (fixWidths e)
  | .iter e lo hi greedy => .iter (fixWidths e) lo hi greedy
  | .look .behind negated e =>
    let e := fixWidths e
    match e.width? with
    | some _ => .look .behind negated e
    | none =>
      let parts := e.alternatives.map (.look .behind negated)
      if negated then Expr.ofSeq parts else Expr.ofAlt parts
  | .look .ahead negated e => .look .ahead negated (fixWidths e)
  | .atomic e => .atomic (fixWidths e)
  | e => e

/-- The expression that a pattern writes, and the number of its remembered groups. -/
def readPattern (cs : List Char) : Except SyntaxError (Expr × Nat) := do
  let p ← Progress.readAll {} cs
  if !p.outer.isEmpty then throw .unclosedGroup
  let e ← p.finish
  let asked := e.references
  runnable asked (e.isPlain asked) e
  return (fixWidths e, p.groups)

end MockHttp.Regex
