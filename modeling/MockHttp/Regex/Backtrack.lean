import MockHttp.Regex.Plain

/-!
# Matching by backtracking

`Expr.search` tries the ways in which an expression can match one after the other, best first, and
hands each to what follows. Coming back to try another way is a step, and a search has a number of
steps to spend: when they are spent it gives up.

A round of a repetition without upper bound that consumes nothing fails. A lookaround that holds may
be asked for another way to hold; one that must not hold, and an atomic part, are asked once.
-/

namespace MockHttp.Regex

/-- How a search ended, with the steps that are left. -/
inductive Verdict where
  /-- A match was found. -/
  | found (t : Thread) (steps : Nat)
  /-- There is no match. -/
  | exhausted (steps : Nat)
  /-- The steps were spent before there was an answer. -/
  | gaveUp

/-- A search that has some steps to spend. -/
abbrev Search := Nat → Verdict

namespace Search

def fail : Search := .exhausted

def succeed (t : Thread) : Search := .found t

/-- The second search, at the price of one step, where the first finds no match. -/
def orElse (a b : Search) : Search := fun steps =>
  match a steps with
  | .exhausted 0 => .gaveUp
  | .exhausted (steps + 1) => b steps
  | verdict => verdict

/-- The preferred match of the first search, handed to the second. -/
def once (a : Search) (k : Thread → Search) : Search := fun steps =>
  match a steps with
  | .found t steps => k t steps
  | verdict => verdict

/-- Any number of rounds of `body`, each of which must consume something. -/
def anyRounds (body : Thread → (Thread → Search) → Search) (greedy : Bool)
    (k : Thread → Search) (t : Thread) : Search :=
  let more := body t fun u =>
    if _h : u.place.rest.length < t.place.rest.length then anyRounds body greedy k u else fail
  if greedy then more.orElse (k t) else (k t).orElse more
termination_by t.place.rest.length

def upToRounds (body : Thread → (Thread → Search) → Search) (greedy : Bool)
    (k : Thread → Search) : Nat → Thread → Search
  | 0, t => k t
  | n + 1, t =>
    let more := body t (upToRounds body greedy k n)
    if greedy then more.orElse (k t) else (k t).orElse more

def exactRounds (body : Thread → (Thread → Search) → Search)
    (k : Thread → Search) : Nat → Thread → Search
  | 0, t => k t
  | n + 1, t => body t (exactRounds body k n)

end Search

/-- The search for the expression from the thread on, each way to match being handed to `k`. The
groups in `asked` are asked for by back references. A part that is plain is matched at once if
nothing depends on its choice: its width is fixed, or `last` says that no further part follows. -/
def Expr.search (asked : List Nat) (last : Bool) (e : Expr) (t : Thread) (k : Thread → Search) :
    Search :=
  if e.isPlain asked && (last || e.width?.isSome) then
    match e.ends [t] with
    | u :: _ => k u
    | [] => .fail
  else match e with
    | .empty => k t
    | .char c ignoreCase =>
      match t.consume? (Expr.char c ignoreCase).accepts with
      | some u => k u
      | none => .fail
    | .any lineFeed =>
      match t.consume? (Expr.any lineFeed).accepts with
      | some u => k u
      | none => .fail
    | .set s =>
      match t.consume? s.contains with
      | some u => k u
      | none => .fail
    | .anchor a => if t.place.satisfies a then k t else .fail
    | .seq a b => a.search asked false t fun u => b.search asked last u k
    | .alt a b => .orElse (a.search asked last t k) (b.search asked last t k)
    | .group n e => e.search asked last t fun u => k (u.remember n t.place.pos)
    | .iter e lo hi greedy =>
      let body := e.search asked (last && lo = 0 && hi = some 1)
      match hi with
      | none => Search.exactRounds body (Search.anyRounds body greedy k) lo t
      | some hi =>
        Search.exactRounds body (Search.upToRounds body greedy k (hi - lo)) (min lo hi) t
    | .look side negated e =>
      let origin? := match side with
        | .ahead => some t.place
        | .behind => e.width?.bind t.place.back?
      let inner := match origin? with
        | some origin => e.search asked true { t with place := origin }
        | none => fun _ => .fail
      if negated then fun steps =>
        match inner .succeed steps with
        | .found _ steps => .exhausted steps
        | .exhausted 0 => .gaveUp
        | .exhausted (steps + 1) => k t steps
        | .gaveUp => .gaveUp
      else inner fun u => k { u with place := t.place }
    | .backref n =>
      match t.capture? n with
      | none => .fail
      | some c =>
        let all := t.place.past.reverse ++ t.place.rest
        match t.place.after? ((all.drop c.first).take (c.last - c.first)) with
        | some p => k { t with place := p }
        | none => .fail
    | .atomic e => .once (e.search asked true t .succeed) k
    | .keepOut => k { t with first := t.place.pos }

end MockHttp.Regex
