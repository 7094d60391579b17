import MockHttp.Yaml.Scan

/-!
# YAML documents

A document is a tree of scalars, sequences and mappings. A node may have an anchor, and other nodes
may be aliases of it. An anchor has a number, the count of different names before it; of several
nodes with one number the aliases mean the last.
-/

namespace MockHttp.Yaml

inductive Node where
  | scalar (style : Style) (tag : Option String) (text : String)
  | sequence (tag : Option String) (items : List Node)
  | mapping (tag : Option String) (pairs : List (Node × Node))
  /-- The node that is anchored with a number. -/
  | alias (anchor : Nat)
  deriving Repr, Inhabited

structure Document where
  root : Node
  /-- The nodes with anchors, last first. -/
  anchored : List (Nat × Node)
  deriving Repr

def Node.empty : Node := .scalar .plain none ""

/-- The state of reading a document. -/
structure Reading where
  tokens : List Token
  /-- What the handles of tags stand for. -/
  handles : List (String × String) := [("!", "!"), ("!!", "tag:yaml.org,2002:")]
  /-- The names of anchors with their numbers. -/
  names : List (String × Nat) := []
  anchored : List (Nat × Node) := []

/-- A part of a document that is read from tokens. -/
abbrev Part := StateT Reading Option

namespace Part

def fail {α : Type} : Part α := fun _ => none

/-- The next token, which stays. -/
def peek : Part (Option Token) := return (← get).tokens.head?

def skip : Part Unit := modify fun r => { r with tokens := r.tokens.tail }

def isNext (tokens : List Token) : Part Bool := return (← peek).any tokens.contains

/-- The next token, if it is this one, is passed over. -/
def accept (t : Token) : Part Bool := do
  if ← isNext [t] then
    skip
    return true
  else return false

/-- The number of the anchor with a new name or of a name that is anchored again. -/
def number (name : String) : Part Nat := do
  let r ← get
  let count := r.names.length
  set { r with names := (name, count) :: r.names.filter (·.1 ≠ name) }
  return count

def tagOf (handle suffix : String) : Part String := do
  if handle.isEmpty then return suffix
  else match (← get).handles.lookup handle with
    | some lead => return lead ++ suffix
    | none => fail

/-- What stands in front of a node: an anchor and a tag, each at most once. -/
structure Properties where
  anchor : Option String := none
  tag : Option String := none

def anchor? : Part (Option String) := do
  match ← peek with
  | some (.anchor name) =>
    skip
    return some name
  | _ => return none

def tag? : Part (Option String) := do
  match ← peek with
  | some (.tag handle suffix) =>
    skip
    return some (← tagOf handle suffix)
  | _ => return none

def properties : Part Properties := do
  match ← anchor? with
  | some name => return ⟨some name, ← tag?⟩
  | none =>
    let tag ← tag?
    if tag.isSome then return ⟨← anchor?, tag⟩ else return {}

/-- The node counts as anchored. -/
def remember (number : Option Nat) (n : Node) : Part Node := do
  match number with
  | some i => modify fun r => { r with anchored := (i, n) :: r.anchored }
  | none => pure ()
  return n

/-- A node that consists of its properties alone. -/
def bare (p : Properties) (number : Option Nat) : Part Node := do
  if p.anchor.isSome || p.tag.isSome then remember number (.scalar .plain p.tag "")
  else fail

/-- An empty scalar if one of these tokens comes next, otherwise what is read. -/
def emptyBefore (stops : List Token) (read : Part Node) : Part Node := do
  if ← isNext stops then return .empty else read

mutual

/-- The node that follows. `block` says that it may be a block, and `indentless` that it may be a
sequence whose entries are not indented. -/
def node : Nat → Bool → Bool → Part Node
  | 0, _, _ => fail
  | fuel + 1, block, indentless => do
    match ← peek with
    | some (.alias name) =>
      skip
      match (← get).names.lookup name with
      | some i => return .alias i
      | none => fail
    | _ =>
      let p ← properties
      let number ← match p.anchor with
        | some name => some <$> number name
        | none => pure none
      match ← peek, block, indentless with
      | some .blockEntry, _, true =>
        remember number (.sequence p.tag (← indentlessItems fuel))
      | some (.scalar style text), _, _ =>
        skip
        remember number (.scalar style p.tag text)
      | some .flowSequenceStart, _, _ =>
        skip
        remember number (.sequence p.tag (← flowItems fuel true))
      | some .flowMappingStart, _, _ =>
        skip
        remember number (.mapping p.tag (← flowPairs fuel true))
      | some .blockSequenceStart, true, _ =>
        skip
        remember number (.sequence p.tag (← blockItems fuel))
      | some .blockMappingStart, true, _ =>
        skip
        remember number (.mapping p.tag (← blockPairs fuel))
      | _, _, _ => bare p number

def blockItems : Nat → Part (List Node)
  | 0 => fail
  | fuel + 1 => do
    if ← accept .blockEntry then
      let item ← emptyBefore [.blockEntry, .blockEnd] (node fuel true false)
      return item :: (← blockItems fuel)
    else if ← accept .blockEnd then return []
    else fail

/-- The items of a sequence that is not indented. -/
def indentlessItems : Nat → Part (List Node)
  | 0 => fail
  | fuel + 1 => do
    if ← accept .blockEntry then
      let item ← emptyBefore [.blockEntry, .key, .value, .blockEnd] (node fuel true false)
      return item :: (← indentlessItems fuel)
    else return []

def blockPairs : Nat → Part (List (Node × Node))
  | 0 => fail
  | fuel + 1 => do
    if ← accept .key then
      let key ← emptyBefore [.key, .value, .blockEnd] (node fuel true true)
      let value ←
        if ← accept .value then emptyBefore [.key, .value, .blockEnd] (node fuel true true)
        else pure .empty
      return (key, value) :: (← blockPairs fuel)
    else if ← accept .blockEnd then return []
    else fail

/-- The items of a flow sequence. An item may be a single pair. -/
def flowItems : Nat → Bool → Part (List Node)
  | 0, _ => fail
  | fuel + 1, first => do
    if ← accept .flowSequenceEnd then return []
    if !first then
      if !(← accept .flowEntry) then fail
    if ← accept .key then
      let key ← emptyBefore [.value, .flowEntry, .flowSequenceEnd] (node fuel false false)
      let value ←
        if ← accept .value then emptyBefore [.flowEntry, .flowSequenceEnd] (node fuel false false)
        else pure .empty
      return .mapping none [(key, value)] :: (← flowItems fuel false)
    else if ← accept .flowSequenceEnd then return []
    else
      let item ← node fuel false false
      return item :: (← flowItems fuel false)

/-- The pairs of a flow mapping. A key alone has an empty value. -/
def flowPairs : Nat → Bool → Part (List (Node × Node))
  | 0, _ => fail
  | fuel + 1, first => do
    if ← accept .flowMappingEnd then return []
    if !first then
      if !(← accept .flowEntry) then fail
    if ← accept .key then
      let key ← emptyBefore [.value, .flowEntry, .flowMappingEnd] (node fuel false false)
      let value ←
        if ← accept .value then emptyBefore [.flowEntry, .flowMappingEnd] (node fuel false false)
        else pure .empty
      return (key, value) :: (← flowPairs fuel false)
    else if ← accept .flowMappingEnd then return []
    else
      let key ← node fuel false false
      return (key, .empty) :: (← flowPairs fuel false)

end

/-- What a directive says is taken in. `versioned` says that there was one for the version. -/
def directives : Nat → Bool → List String → Part Unit
  | 0, _, _ => fail
  | fuel + 1, versioned, handles => do
    match ← peek with
    | some (.versionDirective major minor) =>
      if versioned || major ≠ 1 || (minor ≠ 1 && minor ≠ 2) then fail
      skip
      directives fuel true handles
    | some (.tagDirective handle lead) =>
      if handles.contains handle then fail
      skip
      modify fun r => { r with handles := (handle, lead) :: r.handles }
      directives fuel versioned (handle :: handles)
    | _ => return

def root (fuel : Nat) : Part Node := do
  match ← peek with
  | none => return .empty
  | some (.versionDirective _ _) | some (.tagDirective _ _) | some .documentStart =>
    directives fuel false []
    if !(← accept .documentStart) then fail
    match ← peek with
    | none | some (.versionDirective _ _) | some (.tagDirective _ _) | some .documentStart
    | some .documentEnd => return .empty
    | _ => node fuel true false
  | _ => node fuel true false

end Part

/-- The only document of a text. A text without any has an empty one. -/
def Document.parse? (text : String) : Option Document := do
  let tokens ← Token.scan text
  let (root, r) ← (Part.root (2 * tokens.length + 2)).run { tokens := tokens }
  if r.tokens.all (· == .documentEnd) then return ⟨root, r.anchored⟩ else none

end MockHttp.Yaml
