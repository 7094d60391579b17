import MockHttp.Proofs.Regex.Recall

/-!
# Groups with other numbers

What an expression matches does not depend on the numbers of its groups. Behind some groups of other
expressions it has the ways that it has by itself, and only the numbers under which its groups are
remembered are greater.

Results:
1. `ways_raise`: the ways of an expression whose numbers are raised.
2. `capture?_raise`: what a group remembers is found under its raised number.
3. `ways_capture?`: a way of an expression leaves alone what other groups remember.
-/

namespace MockHttp.Regex

/-! ## Raised numbers -/

/-- The expression with the numbers of all groups raised. -/
def Expr.raise (k : Nat) : Expr → Expr
  | seq a b => seq (a.raise k) (b.raise k)
  | alt a b => alt (a.raise k) (b.raise k)
  | group n e => group (n + k) (e.raise k)
  | iter e lo hi greedy => iter (e.raise k) lo hi greedy
  | look side negated e => look side negated (e.raise k)
  | backref n => backref (n + k)
  | atomic e => atomic (e.raise k)
  | e => e

/-- The thread with the numbers of all remembered groups raised. -/
def Thread.raise (k : Nat) (t : Thread) : Thread :=
  { t with captures := t.captures.map fun c => { c with group := c.group + k } }

variable {k : Nat}

namespace Thread

@[simp] theorem raise_place (t : Thread) : (t.raise k).place = t.place := rfl

@[simp] theorem raise_first (t : Thread) : (t.raise k).first = t.first := rfl

theorem raise_start (p : Place) : (Thread.start p).raise k = .start p := rfl

theorem raise_remember (t : Thread) (n first : Nat) :
    (t.remember n first).raise k = (t.raise k).remember (n + k) first := rfl

theorem consume?_raise (t : Thread) (test : Char → Bool) :
    (t.raise k).consume? test = (t.consume? test).map (raise k) := by
  unfold consume?
  rw [raise_place]
  cases t.place.next? with
  | none => rfl
  | some next =>
    dsimp only
    split
    · rfl
    · rfl

/-- What a group remembers is found under its raised number. -/
theorem capture?_raise (t : Thread) (k n : Nat) :
    (t.raise k).capture? (n + k) =
      (t.capture? n).map fun c => { c with group := c.group + k } := by
  unfold capture? raise
  rw [List.find?_map]
  congr 2
  funext c
  simp

end Thread

/-! ## The ways of raised expressions -/

/-- From a thread with raised numbers `g` leads where `f` leads from the thread, with raised
numbers. -/
def Raises (k : Nat) (f g : Thread → List Thread) : Prop :=
  ∀ t, g (t.raise k) = (f t).map (Thread.raise k)

namespace Raises

variable {f g f' g' : Thread → List Thread}

theorem pure : Raises k (fun t => [t]) fun t => [t] := fun _ => rfl

theorem flatMap (hf : Raises k f g) (hf' : Raises k f' g') :
    Raises k (fun t => (f t).flatMap f') fun t => (g t).flatMap g' := by
  intro t
  dsimp only
  rw [hf t, List.flatMap_map, List.map_flatMap]
  exact List.flatMap_congr fun u _ => hf' u

theorem append (hf : Raises k f g) (hf' : Raises k f' g') :
    Raises k (fun t => f t ++ f' t) fun t => g t ++ g' t := by
  intro t
  dsimp only
  rw [hf t, hf' t, List.map_append]

/-- Staying comes last where one more round is preferred, and first otherwise. -/
theorem round (hf : Raises k f g) (greedy : Bool) :
    Raises k (fun t => if greedy then f t ++ [t] else t :: f t)
      fun t => if greedy then g t ++ [t] else t :: g t := by
  cases greedy with
  | true => exact hf.append pure
  | false => exact pure.append hf

theorem exactRounds (hf : Raises k f g) (n : Nat) :
    Raises k (Ways.exactRounds f n) (Ways.exactRounds g n) := by
  induction n with
  | zero => exact pure
  | succ n ih => exact hf.flatMap ih

theorem upToRounds (hf : Raises k f g) (greedy : Bool) (n : Nat) :
    Raises k (Ways.upToRounds f greedy n) (Ways.upToRounds g greedy n) := by
  induction n with
  | zero => exact pure
  | succ n ih => exact (hf.flatMap ih).round greedy

theorem anyRounds (hf : Raises k f g) (greedy : Bool) :
    Raises k (Ways.anyRounds f greedy) (Ways.anyRounds g greedy) := by
  intro t
  induction t using Thread.induct_rest with
  | step t ih =>
    have hmore : (g (t.raise k)).flatMap (fun u =>
        if _h : u.place.rest.length < (t.raise k).place.rest.length then Ways.anyRounds g greedy u
        else []) = ((f t).flatMap fun u =>
        if _h : u.place.rest.length < t.place.rest.length then Ways.anyRounds f greedy u
        else []).map (Thread.raise k) := by
      rw [hf t, List.flatMap_map, List.map_flatMap]
      refine List.flatMap_congr fun u _ => ?_
      rw [Thread.raise_place, Thread.raise_place]
      split
      · next hlt => exact ih u hlt
      · rfl
    rw [Ways.anyRounds, Ways.anyRounds, hmore]
    split
    · rw [List.map_append]
      rfl
    · rfl

theorem furtherRounds (hf : Raises k f g) (greedy : Bool) (lo : Nat) (hi : Option Nat) :
    Raises k (Ways.furtherRounds f greedy lo hi) (Ways.furtherRounds g greedy lo hi) := by
  cases hi with
  | none => exact hf.anyRounds greedy
  | some hi => exact hf.upToRounds greedy (hi - lo)

theorem consume? (test : Char → Bool) :
    Raises k (fun t => (t.consume? test).toList) fun t => (t.consume? test).toList := by
  intro t
  dsimp only
  rw [Thread.consume?_raise]
  cases t.consume? test with
  | none => rfl
  | some u => rfl

theorem stay (test : Place → Bool) :
    Raises k (fun t => if test t.place then [t] else []) fun t =>
      if test t.place then [t] else [] := by
  intro t
  cases h : test t.place with
  | true => simp [h]
  | false => simp [h]

end Raises

/-- An expression with raised numbers has the same ways, with raised numbers. -/
theorem ways_raise (k : Nat) (e : Expr) : Raises k e.ways (e.raise k).ways := by
  induction e with
  | empty => exact .pure
  | char c ignoreCase => exact .consume? _
  | any lineFeed => exact .consume? _
  | set s => exact .consume? _
  | anchor a => exact .stay fun p => p.satisfies a
  | seq a b iha ihb => exact iha.flatMap ihb
  | alt a b iha ihb => exact iha.append ihb
  | group n e ih =>
    intro t
    show ((e.raise k).ways (t.raise k)).map _ = _
    rw [ih t, List.map_map, Expr.ways, List.map_map]
    exact List.map_congr_left fun u _ => (u.raise_remember n t.place.pos).symm
  | iter e lo hi greedy ih => exact (ih.exactRounds lo).flatMap (ih.furtherRounds greedy lo hi)
  | look side negated e ih =>
    intro t
    cases side with
    | behind => rfl
    | ahead =>
      cases negated with
      | false =>
        show ((e.raise k).ways (t.raise k)).map _ = _
        rw [ih t, List.map_map, Expr.ways, List.map_map]
        rfl
      | true =>
        show (if ((e.raise k).ways (t.raise k)).isEmpty then _ else _) = _
        rw [ih t, List.isEmpty_map, Expr.ways]
        split
        · rfl
        · rfl
  | backref n => exact fun t => rfl
  | atomic e => exact fun t => rfl
  | keepOut => exact fun t => rfl

/-- What a group that the expression does not have remembers stays as it was. -/
theorem ways_capture? {e : Expr} {n : Nat} (hn : n ∉ e.groupNumbers) :
    Keeps (·.capture? n) e.ways := by
  refine ways_keep (fun _ _ => rfl) fun m hm u first => ?_
  have hne : (m == n) = false := beq_false_of_ne fun h => hn (h ▸ hm)
  show ((⟨m, first, u.place.pos⟩ : Capture) :: u.captures).find? (·.group == n) = _
  rw [List.find?_cons, hne]
  rfl

/-- There is nothing to raise in a steady expression without groups. -/
theorem Expr.raise_eq_self {e : Expr} (hsteady : e.isSteady = true)
    (hgroups : e.groupNumbers = []) :
    e.raise k = e := by
  induction e with
  | empty | char c ignoreCase | any lineFeed | set s | anchor a | keepOut => rfl
  | seq a b iha ihb | alt a b iha ihb =>
    obtain ⟨ha, hb⟩ := Bool.and_eq_true _ _ ▸ hsteady
    obtain ⟨hga, hgb⟩ := List.append_eq_nil_iff.mp hgroups
    rw [raise, iha ha hga, ihb hb hgb]
  | group n e ih => exact absurd hgroups (by simp [groupNumbers])
  | iter e lo hi greedy ih =>
    simp only [isSteady, Bool.and_eq_true] at hsteady
    rw [raise, ih hsteady.1.1 hgroups]
  | look side negated e ih =>
    cases side with
    | ahead => rw [raise, ih hsteady hgroups]
    | behind => exact absurd hsteady (by simp [isSteady])
  | backref n | atomic e => exact absurd hsteady (by simp [isSteady])

/-! ## Expressions side by side -/

namespace Expr

theorem raise_ofSeq (k : Nat) (es : List Expr) :
    (ofSeq es).raise k = ofSeq (es.map (raise k)) := by
  induction es with
  | nil => rfl
  | cons e es ih =>
    cases es with
    | nil => rfl
    | cons a rest => exact congrArg (seq (e.raise k)) ih

/-- The ways of alternatives are those of the first, then those of the second, and so on. -/
theorem ways_ofAlt {es : List Expr} (hes : es ≠ []) (t : Thread) :
    (ofAlt es).ways t = es.flatMap (·.ways t) := by
  induction es with
  | nil => exact absurd rfl hes
  | cons e es ih =>
    cases es with
    | nil => exact (List.append_nil _).symm
    | cons a rest =>
      rw [List.flatMap_cons, ← ih (by simp)]
      rfl

end Expr

end MockHttp.Regex
