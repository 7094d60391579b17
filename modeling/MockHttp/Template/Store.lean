import MockHttp.Log.Event
import MockHttp.Template.RouteMatch

/-!
# The store of compiled templates

A `Store` keeps the templates compiled last, up to a capacity of at least one, and gives up the one
that has not been asked for the longest. A resident template is not compiled again: asking for it
gives the very object that was compiled before, which `Compiled.serial` tells from others.
-/

namespace MockHttp.Template

open Log (Logged)

/-- A compiled template. -/
structure Compiled where
  /-- The number of the compilation, by which two objects can be told apart. -/
  serial : Nat
  pattern : Pattern
  deriving DecidableEq, Repr

/-- What a compiled template is found by. -/
structure StoreKey where
  flags : MatchFlags
  template : String
  deriving DecidableEq, Repr

/-- The templates compiled last. -/
structure Store where
  /-- The number of templates kept at most. -/
  capacity : Nat
  /-- The templates that are kept, the one asked for last first. -/
  entries : List (StoreKey × Compiled)
  /-- How often a template was found. -/
  hits : Nat
  /-- How often a template was not found. -/
  misses : Nat
  /-- How many templates were given up. -/
  evictions : Nat
  /-- How many templates have been compiled. -/
  compiled : Nat

structure StoreStats where
  hits : Nat
  misses : Nat
  evictions : Nat
  size : Nat
  capacity : Nat
  deriving DecidableEq, Repr

namespace Store

/-- A store without templates; its capacity is at least one. -/
def new (capacity : Nat) : Store := ⟨max capacity 1, [], 0, 0, 0, 0⟩

def find? (s : Store) (key : StoreKey) : Option Compiled :=
  s.entries.lookup key

/-- The store after a template was found. -/
def hit (s : Store) (key : StoreKey) (found : Compiled) : Store :=
  { s with
    hits := s.hits + 1
    entries := (key, found) :: s.entries.filter (·.1 != key) }

/-- The store after a template was not found. -/
def miss (s : Store) : Store :=
  { s with misses := s.misses + 1 }

/-- The key that makes room for another one. -/
def victim? (s : Store) : Option StoreKey :=
  if s.entries.length < s.capacity then none else s.entries.getLast?.map (·.1)

/-- The store with a template that it does not hold. -/
def insert (s : Store) (key : StoreKey) (pattern : Pattern) : Store :=
  { s with
    entries := (key, ⟨s.compiled, pattern⟩) :: s.entries.take (s.capacity - 1)
    evictions := if s.victim?.isSome then s.evictions + 1 else s.evictions
    compiled := s.compiled + 1 }

/-- The store without templates; the counters stay. -/
def clear (s : Store) : Store := { s with entries := [] }

def stats (s : Store) : StoreStats :=
  ⟨s.hits, s.misses, s.evictions, s.entries.length, s.capacity⟩

/-- The compiled form of a template, from the store or by compiling it. -/
def compile (s : Store) (template : String) (flags : MatchFlags) :
    Logged (Store × Except PatternError Compiled) := do
  let key : StoreKey := ⟨flags, template⟩
  match s.find? key with
  | some found =>
    .emit .trace .store "Pattern cache hit" [("template", .text template)]
    return (s.hit key found, .ok found)
  | none =>
    let s := s.miss
    match flags.compile template with
    | .error e => return (s, .error e)
    | .ok pattern =>
      if let some evicted := s.victim? then
        .emit .debug .store "Pattern cache full, evicted least recently used entry"
          [("evicted", .text evicted.template), ("capacity", .number s.capacity)]
      .emit .debug .store "Pattern cache miss, compiled template"
        [("template", .text template), ("end", .flag flags.stop), ("strict", .flag flags.strict),
          ("sensitive", .flag flags.sensitive), ("regex", .text pattern.regex.source)]
      return (s.insert key pattern, .ok ⟨s.compiled, pattern⟩)

/-- The first match of a text with the templates, each taken from the store. The first error ends
the search. -/
def matchAny (s : Store) (uri : String) (flags : MatchFlags) :
    List String → Logged (Store × Except PatternError (Option RouteMatch))
  | [] => return (s, .ok none)
  | template :: rest => do
    let (s, found) ← s.compile template flags
    match found with
    | .error e => return (s, .error e)
    | .ok c =>
      match c.pattern.matchText template uri flags.stop with
      | .error e => return (s, .error e)
      | .ok (some m) => return (s, .ok (some m))
      | .ok none => s.matchAny uri flags rest

/-- The first match of a text with a route pattern. -/
def matchPath (s : Store) (uri : String) (pattern : RoutePattern) :
    Logged (Store × Except PatternError (Option RouteMatch)) :=
  s.matchAny uri pattern.flags pattern.paths

def describe (s : Store) : String :=
  let stats := s.stats
  "PatternCache \x7B stats: CacheStats \x7B hits: " ++ Nat.repr stats.hits ++ ", misses: " ++
    Nat.repr stats.misses ++ ", evictions: " ++ Nat.repr stats.evictions ++ ", size: " ++
    Nat.repr stats.size ++ ", capacity: " ++ Nat.repr stats.capacity ++ " \x7D \x7D"

end Store

end MockHttp.Template
