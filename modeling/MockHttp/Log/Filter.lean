import MockHttp.Log.Event
import MockHttp.Log.Settings
import MockHttp.Text.Blank
import MockHttp.Text.Number
import MockHttp.Text.Ascii
import MockHttp.Unicode.Property

/-!
# Log filters

A filter is a list of directives such as `server::store=debug`. A directive gives the least level
that is shown of the events whose target begins in a certain way and that have certain fields. Of
several directives for one event the most specific counts; without any, the event is not shown.
-/

namespace MockHttp.Log

/-- The target of events by the part that they come from. -/
def Origin.target : Origin → String
  | store => "pathmock::pattern::cache"
  | server => "pathmock::mock::core"
  | client => "pathmock::client::core"
  | observer => "pathmock::middleware::tracing"

/-- The number of levels that are at least as important. -/
def Level.rank : Level → Nat
  | error => 1
  | warn => 2
  | info => 3
  | debug => 4
  | trace => 5

def Level.name : Level → String
  | error => "ERROR"
  | warn => "WARN"
  | info => "INFO"
  | debug => "DEBUG"
  | trace => "TRACE"

/-- The number of levels that a word lets through, the word being that number, the name of the least
level or the word for none. No word at all lets errors through. -/
def rank? (word : String) : Option Nat :=
  match Text.readWord word with
  | .ok n => if n ≤ 5 then some n else none
  | .error _ =>
    match Text.asciiLower word with
    | "off" => some 0
    | "" => some 1
    | "error" => some 1
    | "warn" => some 2
    | "info" => some 3
    | "debug" => some 4
    | "trace" => some 5
    | _ => none

/-- What a directive says of a field: that there is one of this name, and perhaps its value. -/
structure FieldTest where
  name : String
  hasValue : Bool
  deriving DecidableEq, Repr

structure Directive where
  /-- What the target begins with. -/
  target : Option String := none
  /-- Only what happens inside of a certain span is meant. -/
  inSpan : Bool := false
  fields : List FieldTest := []
  /-- The number of levels that are shown. -/
  rank : Nat := 5
  deriving DecidableEq, Repr

namespace Directive

def canStart (c : Char) : Bool :=
  c = '-' || c = ':' || c = '_' ||
    (Unicode.Property.letter ++ Unicode.Property.number).any (·.contains c.toNat)

/-- The directive with what follows it: nothing, or a level. No level is the lowest one. -/
def readLevel? (d : Directive) : List Char → Option Directive
  | [] => some d
  | ['='] => some d
  | '=' :: word => (rank? (String.ofList word)).map fun n => { d with rank := n }
  | _ => none

/-- The directive with the span that follows, up to the closing bracket. -/
def readSpan? (d : Directive) (cs : List Char) : Option Directive :=
  let (name, rest) := cs.span fun c => c ≠ ']' && c ≠ '\x7B'
  match rest with
  | ']' :: rest => { d with inSpan := true }.readLevel? rest
  | '\x7B' :: rest =>
    let (field, rest) := rest.span (· ≠ '\x7D')
    match rest with
    | '\x7D' :: ']' :: rest =>
      if field.isEmpty then none
      else
        let test := ⟨String.ofList (field.takeWhile (· ≠ '=')), field.contains '='⟩
        { d with inSpan := !name.isEmpty, fields := [test] }.readLevel? rest
    | _ => none
  | _ => none

/-- The directive that a text writes. A word alone is a level, or else a target. -/
def parse? (text : String) : Option Directive :=
  match text.toList with
  | [] => none
  | '[' :: rest => readSpan? {} rest
  | c :: more =>
    if !canStart c then none
    else
      let (word, rest) := (c :: more).span fun c => c ≠ '=' && c ≠ '['
      let target := String.ofList word
      match rest with
      | [] =>
        match rank? target with
        | some n => some { rank := n }
        | none => some { target := some target }
      | '[' :: rest => readSpan? { target := some target } rest
      | rest => readLevel? { target := some target } rest

/-- The directive can be decided without knowing about spans and values of fields. -/
def isStatic (d : Directive) : Bool := !d.inSpan && !d.fields.any (·.hasValue)

def appliesTo (d : Directive) (e : Event) : Bool :=
  d.target.all (e.origin.target.startsWith ·) &&
    d.fields.all fun f => e.fields.any (·.1 == f.name)

/-- How specific a directive is: first by the length of the target, then by the number of fields. -/
def weight (d : Directive) : Nat × Nat :=
  (match d.target with
    | some t => t.length + 1
    | none => 0, d.fields.length)

/-- The first directive is more specific. -/
def outweighs (d e : Directive) : Bool :=
  e.weight.1 < d.weight.1 || (d.weight.1 == e.weight.1 && e.weight.2 < d.weight.2)

end Directive

/-- A filter: directives, no two of which are about the same target and the same fields. -/
structure Filter where
  directives : List Directive
  deriving DecidableEq, Repr

namespace Filter

/-- The filter with a directive more, in place of one about the same. Events are never inside of
spans, so a directive about those adds nothing. -/
def add (f : Filter) (d : Directive) : Filter :=
  if d.isStatic then
    ⟨f.directives.filter (fun e => !(e.target == d.target && e.fields == d.fields)) ++ [d]⟩
  else f

def directiveFor? (f : Filter) (e : Event) : Option Directive :=
  f.directives.foldl (fun best d =>
    if !d.appliesTo e then best
    else match best with
      | some b => if d.outweighs b then some d else best
      | none => some d) none

def shows (f : Filter) (e : Event) : Bool :=
  match f.directiveFor? e with
  | some d => e.level.rank ≤ d.rank
  | none => false

/-- The filter of some directives with commas between them, if all of them can be read. -/
def parse? (text : String) : Option Filter :=
  let parts := (text.toList.splitOn ',').filter (!·.isEmpty)
  (parts.mapM fun part => Directive.parse? (String.ofList part)).map fun ds =>
    ds.foldl add ⟨[]⟩

/-- The filter that shows all from a level on. -/
def ofLevel (level : Level) : Filter := ⟨[{ rank := level.rank }]⟩

end Filter

/-- The level of the settings; an unknown name stands for warnings. -/
def Settings.minLevel (s : Settings) : Level :=
  match Text.asciiLower s.level with
  | "trace" => .trace
  | "debug" => .debug
  | "info" => .info
  | "error" => .error
  | _ => .warn

def badDirectiveText (text : String) : String :=
  "Warning: Invalid log filter directive: " ++ text

/-- The filter with the directives that can be read among some, and a warning for each other. -/
def Filter.addTexts (f : Filter) : List String → Filter × List String
  | [] => (f, [])
  | text :: rest =>
    match Directive.parse? text with
    | some d => (f.add d).addTexts rest
    | none =>
      let (f, warnings) := f.addTexts rest
      (f, badDirectiveText text :: warnings)

/-- The filter that the settings describe in an environment, with warnings. A variable of the
environment takes the place of the level if it can be read. -/
def Settings.filter (s : Settings) (env : Environment) : Filter × List String :=
  let base := ((env.lookup "RUST_LOG").bind Filter.parse?).getD (.ofLevel s.minLevel)
  let texts := ((s.targetFilter.getD "").toList.splitOn ',').map fun part =>
    String.ofList (Text.trimChars part)
  base.addTexts (texts.filter (!·.isEmpty))

/-- What is shown of events, and how. -/
structure Display where
  settings : Settings
  filter : Filter
  deriving Repr

/-- The display has been set up before. -/
inductive SetupError where
  | alreadySetUp
  deriving DecidableEq, Repr

def SetupError.message : SetupError → String
  | alreadySetUp => "Failed to initialize logging"

/-- The display after it was set up in an environment, whether that was the first time, and
warnings. -/
def setUp (current : Option Display) (s : Settings) (env : Environment) :
    Option Display × Except SetupError Unit × List String :=
  let (filter, warnings) := s.filter env
  match current with
  | none => (some ⟨s, filter⟩, .ok (), warnings)
  | some d => (some d, .error .alreadySetUp, warnings)

end MockHttp.Log
