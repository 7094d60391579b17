import MockHttp.Regex.Expr

/-!
# Places in a text

A `Place` divides a text into the characters before it and those after it. A `Thread` is a place
that a match has reached, with the groups it remembered on the way.
-/

namespace MockHttp.Regex

structure Place where
  /-- The characters before the place, nearest first. -/
  past : List Char
  /-- The characters after the place, nearest first. -/
  rest : List Char
  /-- The number of characters before the place. -/
  pos : Nat
  /-- The position is that number. -/
  pos_eq : pos = past.length

namespace Place

/-- The place before all characters. -/
def start (text : List Char) : Place := ⟨[], text, 0, rfl⟩

/-- The place after the next character, and that character. -/
def next? (p : Place) : Option (Char × Place) :=
  match p.rest with
  | [] => none
  | c :: rest => some (c, ⟨c :: p.past, rest, p.pos + 1, by simp [p.pos_eq]⟩)

/-- The place `n` characters before. -/
def back? (p : Place) : Nat → Option Place
  | 0 => some p
  | n + 1 =>
    match h : p.past with
    | [] => none
    | c :: past => back? ⟨past, c :: p.rest, p.pos - 1, by simp [p.pos_eq, h]⟩ n

/-- The place after `text`, if that is what follows. -/
def after? (p : Place) : List Char → Option Place
  | [] => some p
  | c :: text =>
    match p.next? with
    | some (d, p) => if c = d then p.after? text else none
    | none => none

/-- The character before the place is a word character. -/
def wordBefore (p : Place) : Bool :=
  p.past.head?.any CharSet.word.contains

/-- The character after the place is a word character. -/
def wordAfter (p : Place) : Bool :=
  p.rest.head?.any CharSet.word.contains

def satisfies (p : Place) : Anchor → Bool
  | .textStart | .searchStart => p.past.isEmpty
  | .textEnd => p.rest.isEmpty
  | .lineStart => p.past.head?.all (· == '\n')
  | .lineEnd => p.rest.head?.all (· == '\n')
  | .wordEdge => p.wordBefore != p.wordAfter
  | .notWordEdge => p.wordBefore == p.wordAfter
  | .wordStart => !p.wordBefore && p.wordAfter
  | .wordEnd => p.wordBefore && !p.wordAfter

end Place

/-- A group that was remembered: its number and the positions of its ends. -/
structure Capture where
  group : Nat
  first : Nat
  last : Nat
  deriving DecidableEq, Repr

/-- A place that a match has reached. -/
structure Thread where
  /-- The place. -/
  place : Place
  /-- The groups remembered on the way, latest first. -/
  captures : List Capture
  /-- The position where the match counts as begun. -/
  first : Nat

namespace Thread

/-- A match that begins at a place. -/
def start (p : Place) : Thread := ⟨p, [], p.pos⟩

/-- What a group remembers. -/
def capture? (t : Thread) (n : Nat) : Option Capture :=
  t.captures.find? (·.group == n)

/-- The thread after one character that passes the test. -/
def consume? (t : Thread) (test : Char → Bool) : Option Thread :=
  match t.place.next? with
  | some (c, p) => if test c then some { t with place := p } else none
  | none => none

/-- The thread at the end of a group that began at position `first`. -/
def remember (t : Thread) (n first : Nat) : Thread :=
  { t with captures := ⟨n, first, t.place.pos⟩ :: t.captures }

end Thread

/-- The character passes the test that an expression of one character makes. -/
def Expr.accepts : Expr → Char → Bool
  | .char c ignoreCase, d => if ignoreCase then Unicode.sameFold c d else c == d
  | .any lineFeed, d => lineFeed || d != '\n'
  | .set s, d => s.contains d
  | _, _ => false

end MockHttp.Regex
