import MockHttp.Regex.Place

/-!
# Matching plain expressions

`Expr.ends` lists the ways in which a plain expression can continue some threads, best first. Where
a plain expression goes on from a place does not depend on how the place was reached, so of the
threads at one place only the best is kept. This bounds the work by the length of the text, and no
step limit is needed.

A repetition that has consumed nothing in one round takes no further round.
-/

namespace MockHttp.Regex

/-- The best thread of every place, in the order of the list. -/
def bestPerPlace (threads : List Thread) : List Thread :=
  threads.foldl
    (fun kept t => if kept.any (·.place.pos == t.place.pos) then kept else kept ++ [t]) []

/-- A repetition under way: where a round has begun, as the number of rounds that may follow it and
the position, and the threads that have left the repetition, latest first. -/
structure Rounds where
  begun : List (Nat × Nat)
  left : List Thread

namespace Rounds

def none : Rounds := ⟨[], []⟩

/-- A thread leaves the repetition. -/
def leave (r : Rounds) (t : Thread) : Rounds :=
  { r with left := t :: r.left }

/-- The threads that have left, best first. -/
def threads (r : Rounds) : List Thread :=
  bestPerPlace r.left.reverse

/-- Any number of rounds of `body` from the thread `t` on. A place where a round has begun before
has nothing new to offer. -/
def anyFrom (body : Thread → List Thread) (greedy : Bool) (r : Rounds) (t : Thread) : Rounds :=
  if r.begun.contains (0, t.place.pos) then r
  else
    let r := { r with begun := (0, t.place.pos) :: r.begun }
    let r := if greedy then r else r.leave t
    let r := (body t).foldl (fun r u =>
      if _h : u.place.rest.length < t.place.rest.length then anyFrom body greedy r u
      else r.leave u) r
    if greedy then r.leave t else r
termination_by t.place.rest.length

/-- At most `n` rounds of `body` from the thread `t` on. -/
def upToFrom (body : Thread → List Thread) (greedy : Bool) : Nat → Rounds → Thread → Rounds
  | 0, r, t => r.leave t
  | n + 1, r, t =>
    if r.begun.contains (n, t.place.pos) then r
    else
      let r := { r with begun := (n, t.place.pos) :: r.begun }
      let r := if greedy then r else r.leave t
      let r := (body t).foldl (upToFrom body greedy n) r
      if greedy then r.leave t else r

end Rounds

/-- The threads that exactly `n` rounds of `body` lead to. -/
def exactRounds (body : Thread → List Thread) : Nat → List Thread → List Thread
  | 0, threads => threads
  | _ + 1, [] => []
  | n + 1, t :: threads => exactRounds body n (bestPerPlace ((t :: threads).flatMap body))

/-- The ways in which the expression continues the threads, best first. -/
def Expr.ends : Expr → List Thread → List Thread
  | .empty, threads => threads
  | .char c ignoreCase, threads =>
    threads.filterMap (·.consume? (Expr.char c ignoreCase).accepts)
  | .any lineFeed, threads => threads.filterMap (·.consume? (Expr.any lineFeed).accepts)
  | .set s, threads => threads.filterMap (·.consume? s.contains)
  | .anchor a, threads => threads.filter (·.place.satisfies a)
  | .seq a b, threads => b.ends (a.ends threads)
  | .alt a b, threads => bestPerPlace (threads.flatMap fun t => a.ends [t] ++ b.ends [t])
  | .group n e, threads =>
    bestPerPlace (threads.flatMap fun t =>
      (e.ends [t]).map (·.remember n t.place.pos))
  | .iter e lo hi greedy, threads =>
    let body := fun t => e.ends [t]
    let threads := exactRounds body lo threads
    match hi with
    | none => (threads.foldl (Rounds.anyFrom body greedy) .none).threads
    | some hi => (threads.foldl (Rounds.upToFrom body greedy (hi - lo)) .none).threads
  | .look _ _ _, _ | .backref _, _ | .atomic _, _ | .keepOut, _ => []

end MockHttp.Regex
