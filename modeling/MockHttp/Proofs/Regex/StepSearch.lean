import MockHttp.Proofs.Regex.PlainSearch

/-!
# The search with a step limit

`Expr.search` tries the ways of an expression one after the other until what follows accepts one,
and counts the times that it turns back. This module shows that the count is a price that does not
depend on the purse: a search has a cost, below it the search gives up, and from it on it ends with
the first way that what follows accepts, the cost being spent.

Parts that are plain are not searched but matched at once. That skips ways, and no answer is lost by
it: all skipped ways lead to the place of the first one, or nothing that follows can fail.

Results:
1. `search_settles`: the search of a steady expression ends with the first accepted way.
2. `find_settles`: looking for a match in a text ends with the first way from the first place that
   has one; for a plain expression at no cost.
-/

namespace MockHttp.Regex

/-! ## Searches that settle -/

/-- The verdict that a search ends with, some steps being left. -/
def Verdict.ofAnswer (answer : Option Thread) (steps : Nat) : Verdict :=
  match answer with
  | some t => .found t steps
  | none => .exhausted steps

/-- The search has a cost: with fewer steps it gives up, and with that many or more it ends with the
answer. -/
def Search.Settles (s : Search) (answer : Option Thread) : Prop :=
  ∃ cost, ∀ steps,
    s steps = if steps < cost then .gaveUp else .ofAnswer answer (steps - cost)

/-- Whether there is an answer depends on the place only. -/
def Local (K : Thread → Option Thread) : Prop :=
  ∀ t u : Thread, t.place = u.place → (K t).isSome = (K u).isSome

/-- Whether there is an answer does not depend on the thread at all. -/
def Constant (K : Thread → Option Thread) : Prop :=
  ∀ t u : Thread, (K t).isSome = (K u).isSome

theorem Constant.toLocal {K : Thread → Option Thread} (hK : Constant K) : Local K :=
  fun t u _ => hK t u

theorem findSome?_flatMap {l : List Thread} {f : Thread → List Thread}
    {K : Thread → Option Thread} :
    (l.flatMap f).findSome? K = l.findSome? fun t => (f t).findSome? K := by
  induction l with
  | nil => rfl
  | cons t l ih =>
    rw [List.flatMap_cons, List.findSome?_append, ih, List.findSome?_cons]
    cases (f t).findSome? K with
    | some u => rfl
    | none => rfl

theorem isSome_findSome?_iff {l : List Thread} {K : Thread → Option Thread} (hK : Local K) :
    (l.findSome? K).isSome = true ↔ ∃ p ∈ places l, ∃ t : Thread, t.place = p ∧ (K t).isSome := by
  rw [List.findSome?_isSome_iff]
  constructor
  · rintro ⟨t, ht, hsome⟩
    exact ⟨t.place, List.mem_map_of_mem ht, t, rfl, hsome⟩
  · rintro ⟨p, hp, t, htp, hsome⟩
    obtain ⟨u, hu, rfl⟩ := List.mem_map.mp hp
    exact ⟨u, hu, hK t u htp ▸ hsome⟩

/-- What follows a part that does not look back does not look back either. -/
theorem Local.findSome? {f : Thread → List Thread} {K : Thread → Option Thread} (hf : Blind f)
    (hK : Local K) : Local fun t => (f t).findSome? K := by
  intro t u htu
  rw [Bool.eq_iff_iff, isSome_findSome?_iff hK, isSome_findSome?_iff hK, hf t u htu]

namespace Search.Settles

variable {a b : Search} {x y : Option Thread}

theorem fail : Search.fail.Settles none :=
  ⟨0, fun steps => by simp [Search.fail, Verdict.ofAnswer]⟩

theorem succeed (t : Thread) : (Search.succeed t).Settles (some t) :=
  ⟨0, fun steps => by simp [Search.succeed, Verdict.ofAnswer]⟩

/-- The cost of a second search comes on top of the first one and of the step between them. -/
theorem orElse (ha : a.Settles x) (hb : b.Settles y) : (a.orElse b).Settles (x.or y) := by
  obtain ⟨m, ha⟩ := ha
  obtain ⟨n, hb⟩ := hb
  cases x with
  | some t =>
    refine ⟨m, fun steps => ?_⟩
    rw [Search.orElse, ha]
    by_cases hm : steps < m
    · rw [if_pos hm, if_pos hm]
    · rw [if_neg hm, if_neg hm]
      rfl
  | none =>
    refine ⟨m + 1 + n, fun steps => ?_⟩
    rw [Search.orElse, ha, Option.none_or]
    by_cases hm : steps < m
    · rw [if_pos hm, if_pos (by omega)]
    · rw [if_neg hm, Verdict.ofAnswer]
      cases hleft : steps - m with
      | zero => exact (if_pos (by omega)).symm
      | succ left =>
        have hsub : steps - (m + 1 + n) = left - n := by omega
        simp only [hb, hsub]
        by_cases hn : left < n
        · rw [if_pos hn, if_pos (by omega)]
        · rw [if_neg hn, if_neg (by omega)]

/-- One more round of a repetition, or none. -/
theorem round {more stay : Search} {x y : Option Thread} (greedy : Bool)
    (hmore : more.Settles x) (hstay : stay.Settles y) :
    (if greedy then more.orElse stay else stay.orElse more).Settles
      (if greedy then x.or y else y.or x) := by
  cases greedy with
  | true => exact hmore.orElse hstay
  | false => exact hstay.orElse hmore

/-- A condition that must not hold. When it does not, what follows is tried at the price of one
step. -/
theorem refuse (ha : a.Settles x) (hb : b.Settles y) :
    Search.Settles (fun steps => match a steps with
      | .found _ steps => .exhausted steps
      | .exhausted 0 => .gaveUp
      | .exhausted (steps + 1) => b steps
      | .gaveUp => .gaveUp) (if x.isSome then none else y) := by
  cases x with
  | none =>
    obtain ⟨cost, horElse⟩ := ha.orElse hb
    refine ⟨cost, fun steps => ?_⟩
    have hsame := horElse steps
    rw [Search.orElse, Option.none_or] at hsame
    refine Eq.trans ?_ hsame
    obtain ⟨m, ha⟩ := ha
    simp only [ha]
    by_cases hm : steps < m
    · rw [if_pos hm]
    · rw [if_neg hm, Verdict.ofAnswer]
      cases steps - m with
      | zero => rfl
      | succ left => rfl
  | some t =>
    obtain ⟨m, ha⟩ := ha
    refine ⟨m, fun steps => ?_⟩
    simp only [ha]
    by_cases hm : steps < m
    · rw [if_pos hm, if_pos hm]
    · rw [if_neg hm, if_neg hm]
      rfl

end Search.Settles

theorem findSome?_some (l : List Thread) : l.findSome? some = l.head? := by
  cases l with
  | nil => rfl
  | cons t l => rfl

theorem findSome?_round {t : Thread} {more : List Thread} {greedy : Bool}
    {K : Thread → Option Thread} :
    (if greedy then more ++ [t] else t :: more).findSome? K =
      if greedy then (more.findSome? K).or (K t) else (K t).or (more.findSome? K) := by
  cases greedy with
  | true =>
    simp only [if_true, List.findSome?_append, List.findSome?_cons, List.findSome?_nil]
    cases K t <;> rfl
  | false =>
    simp only [Bool.false_eq_true, if_false, List.findSome?_cons]
    cases K t <;> rfl

/-! ## Rounds -/

/-- `body` searches what `f` lists, whatever follows. -/
def Searches (body : Thread → (Thread → Search) → Search) (f : Thread → List Thread) : Prop :=
  ∀ t k K, (∀ u, (k u).Settles (K u)) → Local K → (body t k).Settles ((f t).findSome? K)

section Rounds

variable {body : Thread → (Thread → Search) → Search} {f : Thread → List Thread}
  {k : Thread → Search} {K : Thread → Option Thread}

theorem anyRounds_settles (hbody : Searches body f) (hf : Blind f) (greedy : Bool)
    (hk : ∀ u, (k u).Settles (K u)) (hK : Local K) (t : Thread) :
    (Search.anyRounds body greedy k t).Settles ((Ways.anyRounds f greedy t).findSome? K) := by
  induction t using Thread.induct_rest with
  | step t ih =>
    rw [Search.anyRounds, Ways.anyRounds, findSome?_round, findSome?_flatMap]
    -- a round that consumes nothing is not followed by another
    refine .round greedy (hbody t _ _ (fun u => ?_) fun u v huv => ?_) (hk t)
    · split
      · next hlt => exact ih u hlt
      · exact .fail
    · rw [← huv]
      split
      · exact (hK.findSome? (hf.anyRounds greedy)) u v huv
      · rfl

theorem upToRounds_settles (hbody : Searches body f) (hf : Blind f) (greedy : Bool)
    (hk : ∀ u, (k u).Settles (K u)) (hK : Local K) (n : Nat) (t : Thread) :
    (Search.upToRounds body greedy k n t).Settles
      ((Ways.upToRounds f greedy n t).findSome? K) := by
  induction n generalizing t with
  | zero =>
    rw [Search.upToRounds, Ways.upToRounds, List.findSome?_singleton]
    exact hk t
  | succ n ih =>
    rw [Search.upToRounds, Ways.upToRounds, findSome?_round, findSome?_flatMap]
    exact .round greedy (hbody t _ _ ih (hK.findSome? (hf.upToRounds greedy n))) (hk t)

theorem exactRounds_settles (hbody : Searches body f) (hf : Blind f)
    (hk : ∀ u, (k u).Settles (K u)) (hK : Local K) (n : Nat) (t : Thread) :
    (Search.exactRounds body k n t).Settles ((Ways.exactRounds f n t).findSome? K) := by
  induction n generalizing t with
  | zero =>
    rw [Search.exactRounds, Ways.exactRounds, List.findSome?_singleton]
    exact hk t
  | succ n ih =>
    rw [Search.exactRounds, Ways.exactRounds, findSome?_flatMap]
    exact hbody t _ _ ih (hK.findSome? (hf.exactRounds n))

/-- The rounds that a repetition asks for, and those that it allows after them. -/
theorem rounds_settles (hbody : Searches body f) (hf : Blind f) (greedy : Bool)
    (hk : ∀ u, (k u).Settles (K u)) (hK : Local K) (lo : Nat) (hi : Option Nat) (t : Thread) :
    (∀ n ∈ hi, lo ≤ n) → Search.Settles (match hi with
      | none => Search.exactRounds body (Search.anyRounds body greedy k) lo t
      | some hi =>
        Search.exactRounds body (Search.upToRounds body greedy k (hi - lo)) (min lo hi) t)
      (((Ways.exactRounds f lo t).flatMap (Ways.furtherRounds f greedy lo hi)).findSome? K) := by
  intro hle
  rw [findSome?_flatMap]
  have hrest := hK.findSome? (hf.furtherRounds greedy lo hi)
  cases hi with
  | none => exact exactRounds_settles hbody hf (anyRounds_settles hbody hf greedy hk hK) hrest lo t
  | some hi =>
    simp only [Nat.min_eq_left (hle hi rfl)]
    exact exactRounds_settles hbody hf (upToRounds_settles hbody hf greedy hk hK (hi - lo)) hrest
      lo t

end Rounds

/-! ## The search for an expression -/

/-- The first of some ways decides if all lead to one place or nothing after them can fail. -/
theorem findSome?_eq_head {l : List Thread} {K : Thread → Option Thread} (hK : Local K)
    (h : Constant K ∨ ∀ u ∈ l, ∀ v ∈ l, u.place = v.place) :
    l.findSome? K = l.head?.bind K := by
  cases l with
  | nil => rfl
  | cons t l =>
    rw [List.findSome?_cons, List.head?_cons, Option.bind_some]
    cases ht : K t with
    | some u => rfl
    | none =>
      refine List.findSome?_eq_none_iff.mpr fun u hu => ?_
      have hsome : (K t).isSome = (K u).isSome := by
        rcases h with h | h
        · exact h t u
        · exact hK t u (h t List.mem_cons_self u (List.mem_cons_of_mem _ hu))
      rw [ht] at hsome
      exact Option.isNone_iff_eq_none.mp (by simpa using hsome.symm)

/-- A plain part that is matched at once. -/
theorem atOnce_settles {asked : List Nat} {e : Expr} (hsteady : e.isSteady = true) {last : Bool}
    {k : Thread → Search} {K : Thread → Option Thread}
    (hplain : (e.isPlain asked && (last || e.width?.isSome)) = true)
    (hk : ∀ u, (k u).Settles (K u)) (hK : Local K) (hlast : last = true → Constant K)
    (t : Thread) :
    Search.Settles (match e.ends [t] with
      | u :: _ => k u
      | [] => Search.fail) ((e.ways t).findSome? K) := by
  simp only [Bool.and_eq_true, Bool.or_eq_true] at hplain
  have hone : Constant K ∨ ∀ u ∈ e.ways t, ∀ v ∈ e.ways t, u.place = v.place :=
    hplain.2.imp hlast fun hwidth u hu v hv => ways_width hwidth hu hv
  rw [findSome?_eq_head hK hone, ← head?_ends hplain.1 hsteady t]
  cases e.ends [t] with
  | nil => exact .fail
  | cons u rest => exact hk u

/-- A part of one character. -/
theorem consume_settles {k : Thread → Search} {K : Thread → Option Thread}
    (hk : ∀ u, (k u).Settles (K u)) (test : Char → Bool) (t : Thread) :
    Search.Settles (match t.consume? test with
      | some u => k u
      | none => Search.fail) ((t.consume? test).toList.findSome? K) := by
  cases t.consume? test with
  | none => exact .fail
  | some u =>
    rw [Option.toList_some, List.findSome?_singleton]
    exact hk u

/-- After a condition that must not hold, what follows is asked about the same thread. -/
theorem findSome?_refuse {e : Expr} {t : Thread} {K : Thread → Option Thread} :
    ((Expr.look .ahead true e).ways t).findSome? K =
      if (e.ways t).head?.isSome then none else K t := by
  rw [Expr.ways]
  cases e.ways t with
  | nil => exact List.findSome?_singleton
  | cons u l => rfl

/-- Whatever follows the expression, its search ends with the first way that what follows accepts.
Where `last` says that nothing depends on the place, what follows must not depend on it either. -/
def Expr.SearchSettles (asked : List Nat) (e : Expr) : Prop :=
  ∀ (last : Bool) {k : Thread → Search} {K : Thread → Option Thread},
    (∀ u, (k u).Settles (K u)) → Local K → (last = true → Constant K) →
    ∀ t, (e.search asked last t k).Settles ((e.ways t).findSome? K)

namespace Expr.SearchSettles

variable {asked : List Nat} {a b e : Expr}

/-- Only what an expression does that is not matched at once needs to be looked at. -/
theorem of_parts {parts : Bool → Thread → (Thread → Search) → Search}
    (hsteady : e.isSteady = true)
    (hsearch : ∀ last t k, e.search asked last t k =
      if (e.isPlain asked && (last || e.width?.isSome)) = true then
        match e.ends [t] with
        | u :: _ => k u
        | [] => Search.fail
      else parts last t k)
    (hparts : ∀ (last : Bool) {k : Thread → Search} {K : Thread → Option Thread},
      (∀ u, (k u).Settles (K u)) → Local K → (last = true → Constant K) →
      ∀ t, (parts last t k).Settles ((e.ways t).findSome? K)) :
    e.SearchSettles asked := by
  intro last k K hk hK hlast t
  rw [hsearch]
  by_cases hplain : (e.isPlain asked && (last || e.width?.isSome)) = true
  · rw [if_pos hplain]
    exact atOnce_settles hsteady hplain hk hK hlast t
  · rw [if_neg hplain]
    exact hparts last hk hK hlast t

theorem anchor (p : Anchor) : (Expr.anchor p).SearchSettles asked := by
  refine of_parts rfl (fun _ _ _ => rfl) fun last k K hk hK hlast t => ?_
  rw [Expr.ways]
  split
  · simpa using hk t
  · exact .fail

theorem seq (hsteady : (Expr.seq a b).isSteady = true) (ha : a.SearchSettles asked)
    (hb : b.SearchSettles asked) : (Expr.seq a b).SearchSettles asked := by
  refine of_parts hsteady (fun _ _ _ => rfl) fun last k K hk hK hlast t => ?_
  rw [Expr.ways, findSome?_flatMap]
  exact ha false (hb last hk hK hlast) (hK.findSome? (ways_places b)) (by simp) t

theorem alt (hsteady : (Expr.alt a b).isSteady = true) (ha : a.SearchSettles asked)
    (hb : b.SearchSettles asked) : (Expr.alt a b).SearchSettles asked := by
  refine of_parts hsteady (fun _ _ _ => rfl) fun last k K hk hK hlast t => ?_
  rw [Expr.ways, List.findSome?_append]
  exact (ha last hk hK hlast t).orElse (hb last hk hK hlast t)

theorem group {n : Nat} (hsteady : (Expr.group n e).isSteady = true) (he : e.SearchSettles asked) :
    (Expr.group n e).SearchSettles asked := by
  refine of_parts hsteady (fun _ _ _ => rfl) fun last k K hk hK hlast t => ?_
  rw [Expr.ways, List.findSome?_map]
  exact he last (fun u => hk (u.remember n t.place.pos))
    (fun u v huv => hK (u.remember n t.place.pos) (v.remember n t.place.pos) huv)
    (fun h u v => hlast h (u.remember n t.place.pos) (v.remember n t.place.pos)) t

theorem iter {lo : Nat} {hi : Option Nat} {greedy : Bool}
    (hsteady : (Expr.iter e lo hi greedy).isSteady = true) (he : e.SearchSettles asked) :
    (Expr.iter e lo hi greedy).SearchSettles asked := by
  have hle := hsteady
  simp only [Expr.isSteady, Bool.and_eq_true] at hle
  refine of_parts hsteady (fun _ _ _ => rfl) fun last k K hk hK hlast t => ?_
  by_cases honce : (last && lo = 0 && hi = some 1) = true
  · -- at most one round: what follows the body is what follows the repetition
    simp only [Bool.and_eq_true, decide_eq_true_eq] at honce
    obtain ⟨⟨rfl, rfl⟩, rfl⟩ := honce
    simp only [Expr.ways, Ways.exactRounds, Ways.furtherRounds, Ways.upToRounds,
      List.flatMap_singleton, findSome?_round, findSome?_flatMap, List.findSome?_singleton]
    exact .round greedy (he true hk hK hlast t) (hk t)
  · -- after one round there may be another, so the body is not the last part
    have hbody : Searches (e.search asked false) e.ways := fun t k K hk hK =>
      he false hk hK (by simp) t
    simp only [Bool.eq_false_iff.mpr honce]
    rw [Expr.ways]
    exact rounds_settles hbody (ways_places e) greedy hk hK lo hi t
      fun n hn => by simpa [Option.mem_def.mp hn] using hle.1.2

/-- A condition on what follows. What it goes through is forgotten, so that inside of it nothing
depends on the place. -/
theorem ahead {negated : Bool} (hsteady : (Expr.look .ahead negated e).isSteady = true)
    (he : e.SearchSettles asked) : (Expr.look .ahead negated e).SearchSettles asked := by
  refine of_parts hsteady (fun _ _ _ => rfl) fun last k K hk hK hlast t => ?_
  cases negated with
  | false =>
    rw [Expr.ways, List.findSome?_map]
    have hback : Constant fun u => K { u with place := t.place } := fun u v =>
      hK { u with place := t.place } { v with place := t.place } rfl
    exact he true (fun u => hk { u with place := t.place }) hback.toLocal (fun _ => hback) t
  | true =>
    have hinner := he true Search.Settles.succeed (fun _ _ _ => rfl) (fun _ _ _ => rfl) t
    have hrefuse := hinner.refuse (hk t)
    rw [findSome?_some] at hrefuse
    rw [findSome?_refuse]
    exact hrefuse

end Expr.SearchSettles

/-- The search of a steady expression ends with the first way that what follows accepts. -/
theorem search_settles {asked : List Nat} {e : Expr} (hsteady : e.isSteady = true) :
    e.SearchSettles asked := by
  induction e with
  | empty =>
    refine .of_parts hsteady (fun _ _ _ => rfl) fun last k K hk hK hlast t => ?_
    simpa [Expr.ways] using hk t
  | char c ignoreCase | any lineFeed | set s =>
    refine .of_parts hsteady (fun _ _ _ => rfl) fun last k K hk hK hlast t => ?_
    exact consume_settles hk _ t
  | anchor p => exact .anchor p
  | seq a b iha ihb =>
    obtain ⟨ha, hb⟩ := Bool.and_eq_true _ _ ▸ hsteady
    exact .seq hsteady (iha ha) (ihb hb)
  | alt a b iha ihb =>
    obtain ⟨ha, hb⟩ := Bool.and_eq_true _ _ ▸ hsteady
    exact .alt hsteady (iha ha) (ihb hb)
  | group n e ih => exact .group hsteady (ih hsteady)
  | iter e lo hi greedy ih =>
    have he := hsteady
    simp only [Expr.isSteady, Bool.and_eq_true] at he
    exact .iter hsteady (ih he.1.1)
  | look side negated e ih =>
    cases side with
    | behind => exact absurd hsteady (by simp [Expr.isSteady])
    | ahead => exact .ahead hsteady (ih hsteady)
  | backref n | atomic e | keepOut => exact absurd hsteady (by simp [Expr.isSteady])

/-! ## The search through a text -/

/-- The search that begins at a place ends with the first way from there. -/
theorem startFrom_settles {e : Expr} (hsteady : e.isSteady = true) (p : Place) :
    (e.search e.references false (.start p) .succeed).Settles (e.ways (.start p)).head? := by
  rw [← findSome?_some]
  exact search_settles hsteady false .succeed (fun _ _ _ => rfl) (by simp) (.start p)

/-- The search for a plain expression ends with the first way of all. -/
theorem findPlainFrom_eq {asked : List Nat} {e : Expr} (hplain : e.isPlain asked = true)
    (hsteady : e.isSteady = true) (p : Place) : findPlainFrom e p = e.firstWay p := by
  fun_induction Expr.firstWay e p with
  | case1 p t l hways =>
    have hhead := head?_ends hplain hsteady (.start p)
    rw [hways] at hhead
    obtain ⟨l', hends⟩ := List.head?_eq_some_iff.mp hhead
    rw [findPlainFrom, hends]
  | case2 p hways hrest =>
    have hhead := head?_ends hplain hsteady (.start p)
    rw [hways] at hhead
    rw [findPlainFrom, List.head?_eq_none_iff.mp hhead]
    dsimp only
    split
    · rfl
    · next hcons => exact absurd (hrest.symm.trans hcons) (by simp)
  | case3 p hways c rest hrest ih =>
    have hhead := head?_ends hplain hsteady (.start p)
    rw [hways] at hhead
    rw [findPlainFrom, List.head?_eq_none_iff.mp hhead, ← ih]
    dsimp only
    split
    · next hnil => exact absurd (hrest.symm.trans hnil) (by simp)
    · next hcons =>
      obtain ⟨rfl, rfl⟩ := List.cons_eq_cons.mp (hrest.symm.trans hcons)
      rfl

/-- Where there is no match at a place, the search moves on to the next one. -/
theorem searchFrom_eq_orElse (e : Expr) (p : Place) :
    searchFrom e p =
      (e.search e.references false (.start p) .succeed).orElse (match p.next? with
        | some (_, q) => searchFrom e q
        | none => .fail) := by
  funext steps
  rw [searchFrom, Search.orElse]
  cases e.search e.references false (.start p) .succeed steps with
  | found t left => rfl
  | gaveUp => rfl
  | exhausted left =>
    cases left with
    | zero => rfl
    | succ left =>
      dsimp only
      unfold Place.next?
      split
      · next hnil => simp only [hnil, Search.fail]
      · next hcons =>
        split
        · next hnil => exact absurd (hcons.symm.trans hnil) (by simp)
        · next hcons' =>
          obtain ⟨rfl, rfl⟩ := List.cons_eq_cons.mp (hcons.symm.trans hcons')
          rfl

/-- Going from place to place, the search ends with the first way of all. -/
theorem searchFrom_settles {e : Expr} (hsteady : e.isSteady = true) (p : Place) :
    Search.Settles (searchFrom e p) (e.firstWay p) := by
  fun_induction Expr.firstWay e p with
  | case1 p t l hways =>
    obtain ⟨cost, hcost⟩ := startFrom_settles hsteady p
    refine ⟨cost, fun steps => ?_⟩
    rw [searchFrom, hcost, hways]
    by_cases hm : steps < cost
    · rw [if_pos hm, if_pos hm]
    · rw [if_neg hm, if_neg hm]
      rfl
  | case2 p hways hrest =>
    have hend := (startFrom_settles hsteady p).orElse .fail
    rw [hways] at hend
    rw [searchFrom_eq_orElse, Place.next?, hrest]
    exact hend
  | case3 p hways c rest hrest ih =>
    have hnext := (startFrom_settles hsteady p).orElse ih
    rw [hways] at hnext
    have hreads : p.Reads [c] ⟨c :: p.past, rest, p.pos + 1, by simp [p.pos_eq]⟩ := ⟨hrest, rfl⟩
    rw [searchFrom_eq_orElse, Place.next?_eq_some_iff.mpr hreads]
    exact hnext

/-- There is one answer to the question for the first match. Looking for it takes a number of steps;
with fewer the search gives up, and with that many or more it ends with the answer. A plain
expression takes no steps. -/
theorem find_settles {re : Regex} (hsteady : re.expr.isSteady = true) (text : List Char) :
    ∃ cost, (re.isPlain = true → cost = 0) ∧ ∀ limit, re.findWithin limit text =
      if limit < cost then .error .stepsSpent
      else .ok ((re.expr.firstWay (.start text)).map re.foundAt) := by
  cases hplain : re.isPlain with
  | true =>
    refine ⟨0, fun _ => rfl, fun limit => ?_⟩
    rw [findWithin, if_pos hplain, findPlainFrom_eq hplain hsteady, if_neg (Nat.not_lt_zero _)]
  | false =>
    obtain ⟨cost, hcost⟩ := searchFrom_settles hsteady (.start text)
    refine ⟨cost, by simp, fun limit => ?_⟩
    rw [findWithin, if_neg (Bool.eq_false_iff.mp hplain), hcost]
    by_cases hlimit : limit < cost
    · rw [if_pos hlimit, if_pos hlimit]
    · rw [if_neg hlimit, if_neg hlimit]
      cases re.expr.firstWay (.start text) with
      | none => rfl
      | some t => rfl

/-- A search that is not given up finds the first match. -/
theorem find_eq_ok {re : Regex} (hsteady : re.expr.isSteady = true) {text : List Char}
    {answer : Option Found} (h : re.find text = .ok answer) :
    answer = (re.expr.firstWay (.start text)).map re.foundAt := by
  obtain ⟨cost, -, hfind⟩ := find_settles hsteady text
  rw [find, hfind] at h
  split at h
  · exact absurd h (by simp)
  · exact (Except.ok.inj h).symm

/-- A search for a plain expression is never given up. -/
theorem find_of_plain {re : Regex} (hsteady : re.expr.isSteady = true) (hplain : re.isPlain = true)
    (text : List Char) : re.find text = .ok ((re.expr.firstWay (.start text)).map re.foundAt) := by
  obtain ⟨cost, hcost, hfind⟩ := find_settles hsteady text
  rw [find, hfind, hcost hplain, if_neg (Nat.not_lt_zero _)]

end MockHttp.Regex
