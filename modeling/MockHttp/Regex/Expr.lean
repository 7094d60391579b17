import MockHttp.Regex.CharSet

/-!
# Expressions

The shape of a pattern once it has been read. `Expr.isPlain` tells the expressions that consist of
characters, sets, simple anchors, groups, alternatives and repetitions only; these are matched
without a step limit. `Expr.width?` is the number of characters that every match of an expression
consumes, where there is one number.
-/

namespace MockHttp.Regex

/-- A condition on a place in a text. -/
inductive Anchor where
  /-- The start of the text. -/
  | textStart
  /-- The end of the text. -/
  | textEnd
  /-- The start of the text or the place after a line feed. -/
  | lineStart
  /-- The end of the text or the place before a line feed. -/
  | lineEnd
  /-- A word character on exactly one side. -/
  | wordEdge
  /-- A word character on both sides or on neither. -/
  | notWordEdge
  /-- A word character after the place and none before it. -/
  | wordStart
  /-- A word character before the place and none after it. -/
  | wordEnd
  /-- The place where the search began. -/
  | searchStart
  deriving DecidableEq, Repr

/-- The anchor asks for the ends of the text or of a line, not for words. -/
def Anchor.isPlain : Anchor → Bool
  | textStart | textEnd | lineStart | lineEnd => true
  | wordEdge | notWordEdge | wordStart | wordEnd | searchStart => false

/-- The side of a place that a lookaround inspects. -/
inductive Side where
  | ahead
  | behind
  deriving DecidableEq, Repr

/-- An expression over texts. -/
inductive Expr where
  /-- The empty text. -/
  | empty
  /-- One character; with `ignoreCase` also one that folds like it. -/
  | char (c : Char) (ignoreCase : Bool)
  /-- Any character, a line feed only with `lineFeed`. -/
  | any (lineFeed : Bool)
  /-- One character of a set. -/
  | set (s : CharSet)
  /-- The empty text at a place that satisfies the anchor. -/
  | anchor (a : Anchor)
  /-- One expression after the other. -/
  | seq (a b : Expr)
  /-- Either expression, the first preferred. -/
  | alt (a b : Expr)
  /-- The expression, its text remembered under a number. -/
  | group (n : Nat) (e : Expr)
  /-- The expression at least `lo` and at most `hi` times, as often as possible if `greedy` and as
  rarely as possible otherwise. -/
  | iter (e : Expr) (lo : Nat) (hi : Option Nat) (greedy : Bool)
  /-- The empty text at a place on whose side the expression matches, or with `negated` does not. -/
  | look (side : Side) (negated : Bool) (e : Expr)
  /-- The text remembered under a number. -/
  | backref (n : Nat)
  /-- The expression, matched in its preferred way only. -/
  | atomic (e : Expr)
  /-- The empty text; what has been consumed so far is no part of the match. -/
  | keepOut
  deriving DecidableEq, Repr

namespace Expr

def ofSeq : List Expr → Expr
  | [] => empty
  | [e] => e
  | e :: es => seq e (ofSeq es)

/-- The expressions as alternatives, earlier ones preferred. -/
def ofAlt : List Expr → Expr
  | [] => empty
  | [e] => e
  | e :: es => alt e (ofAlt es)

/-- The alternatives that an expression consists of. -/
def alternatives : Expr → List Expr
  | alt a b => a :: b.alternatives
  | e => [e]

/-- The number of characters that every match consumes, if it is the same for all. -/
def width? : Expr → Option Nat
  | empty | anchor _ | look _ _ _ | keepOut => some 0
  | char _ _ | any _ | set _ => some 1
  | seq a b => do return (← a.width?) + (← b.width?)
  | alt a b => do
    let m ← a.width?
    let n ← b.width?
    if m = n then some m else none
  | group _ e | atomic e => e.width?
  | iter e lo hi _ => do
    let n ← e.width?
    if hi = some lo then some (n * lo) else none
  | backref _ => none

/-- The numbers that back references ask for. -/
def references : Expr → List Nat
  | seq a b | alt a b => a.references ++ b.references
  | group _ e | iter e _ _ _ | look _ _ e | atomic e => e.references
  | backref n => [n]
  | _ => []

/-- The expression has no lookaround, back reference, atomic part or word anchor, and none of the
groups in `asked`. -/
def isPlain (asked : List Nat) : Expr → Bool
  | empty | char _ _ | any _ | set _ => true
  | anchor a => a.isPlain
  | seq a b | alt a b => a.isPlain asked && b.isPlain asked
  | group n e => !asked.contains n && e.isPlain asked
  | iter e _ _ _ => e.isPlain asked
  | look _ _ _ | backref _ | atomic _ | keepOut => false

/-- No repetition asks for more than it allows. -/
def boundsOrdered : Expr → Bool
  | seq a b | alt a b => a.boundsOrdered && b.boundsOrdered
  | group _ e | look _ _ e | atomic e => e.boundsOrdered
  | iter e lo hi _ => (hi.all (lo ≤ ·)) && e.boundsOrdered
  | _ => true

end Expr

end MockHttp.Regex
