import Mathlib.Data.List.Basic
import MockHttp.Regex

/-!
# The ways of an expression

`Expr.ways` lists every way in which an expression can continue a thread, best first: what
backtracking would try one after the other, without a step limit and without forgetting anything.
It is the measure of both searches. It covers expressions without lookbehind, back references,
atomic parts and `\K`, and repetitions whose rounds consume something.

Results:
1. `ways_lead`: ways lead along every relation that the smallest parts of an expression keep to.
2. `ways_reads`: a way consumes some of the text after the place where it begins.
3. `ways_places`: where the ways lead depends on the place only, not on what was remembered before.
4. `ways_consume`: an expression that `consumes` never stays where it is.
5. `ways_width`: an expression with a width leads to one place only.
-/

namespace MockHttp.Regex

/-! ## Places and the text between them -/

/-- The place `q` is reached from `p` by reading the text `w`. -/
structure Place.Reads (p : Place) (w : List Char) (q : Place) : Prop where
  rest_eq : p.rest = w ++ q.rest
  past_eq : q.past = w.reverse ++ p.past

/-- The whole text of which the place is one. -/
def Place.text (p : Place) : List Char := p.past.reverse ++ p.rest

namespace Place

theorem eq_of_parts {p q : Place} (hpast : p.past = q.past) (hrest : p.rest = q.rest) : p = q := by
  cases p with
  | mk past rest pos hpos =>
    cases q with
    | mk past' rest' pos' hpos' =>
      simp only at hpast hrest
      subst hpast
      subst hrest
      subst hpos
      subst hpos'
      rfl

/-- A place is determined by its text and its position. -/
theorem eq_of_text {p q : Place} (htext : p.text = q.text) (hpos : p.pos = q.pos) : p = q := by
  have hlen : p.past.reverse.length = q.past.reverse.length := by
    simpa [p.pos_eq, q.pos_eq] using hpos
  obtain ⟨hpast, hrest⟩ := List.append_inj htext hlen
  exact eq_of_parts (List.reverse_inj.mp hpast) hrest

namespace Reads

variable {p q r : Place} {v w : List Char}

theorem refl (p : Place) : p.Reads [] p := ⟨rfl, rfl⟩

theorem trans (h : p.Reads v q) (h' : q.Reads w r) : p.Reads (v ++ w) r :=
  ⟨by rw [h.rest_eq, h'.rest_eq, List.append_assoc],
    by rw [h'.past_eq, h.past_eq, List.reverse_append, List.append_assoc]⟩

theorem nil_iff : p.Reads [] q ↔ q = p := by
  constructor
  · intro h
    exact eq_of_parts (by simpa using h.past_eq) (by simpa using h.rest_eq.symm)
  · rintro rfl
    exact refl _

/-- Reading one text after another passes a place between them. -/
theorem append_iff : p.Reads (v ++ w) q ↔ ∃ m, p.Reads v m ∧ m.Reads w q := by
  constructor
  · intro h
    refine ⟨⟨v.reverse ++ p.past, w ++ q.rest, _, rfl⟩, ⟨?_, rfl⟩, ⟨rfl, ?_⟩⟩
    · rw [h.rest_eq, List.append_assoc]
    · rw [h.past_eq, List.reverse_append, List.append_assoc]
  · rintro ⟨m, hv, hw⟩
    exact hv.trans hw

theorem text_eq (h : p.Reads w q) : q.text = p.text := by
  simp [Place.text, h.rest_eq, h.past_eq]

theorem pos_eq (h : p.Reads w q) : q.pos = p.pos + w.length := by
  rw [q.pos_eq, p.pos_eq, h.past_eq, List.length_append, List.length_reverse, Nat.add_comm]

theorem length_rest (h : p.Reads w q) : p.rest.length = w.length + q.rest.length := by
  rw [h.rest_eq, List.length_append]

end Reads

/-- Whatever stands after a place can be read from it. -/
theorem reads_of_rest_eq {p : Place} {w rest : List Char} (h : p.rest = w ++ rest) :
    ∃ q, p.Reads w q ∧ q.rest = rest :=
  ⟨⟨w.reverse ++ p.past, rest, _, rfl⟩, ⟨h, rfl⟩, rfl⟩

theorem next?_eq_some_iff {p q : Place} {c : Char} : p.next? = some (c, q) ↔ p.Reads [c] q := by
  unfold next?
  constructor
  · intro h
    split at h
    · exact absurd h (by simp)
    · next d rest hrest =>
      simp only [Option.some.injEq, Prod.mk.injEq] at h
      obtain ⟨rfl, rfl⟩ := h
      exact ⟨by simp [hrest], rfl⟩
  · intro h
    have hrest : p.rest = c :: q.rest := h.rest_eq
    split
    · next hnil => exact absurd (hnil.symm.trans hrest) (by simp)
    · next d rest hcons =>
      obtain ⟨rfl, rfl⟩ := List.cons_eq_cons.mp (hcons.symm.trans hrest)
      simp only [Option.some.injEq, Prod.mk.injEq, true_and]
      exact eq_of_parts (by simp [h.past_eq]) rfl

end Place

theorem Thread.consume?_eq_some_iff {t u : Thread} {test : Char → Bool} :
    t.consume? test = some u ↔
      ∃ c, test c = true ∧ t.place.Reads [c] u.place ∧ u = { t with place := u.place } := by
  unfold Thread.consume?
  constructor
  · intro h
    split at h
    · next c p hnext =>
      split at h
      · next htest =>
        simp only [Option.some.injEq] at h
        subst h
        exact ⟨c, htest, Place.next?_eq_some_iff.mp hnext, rfl⟩
      · exact absurd h (by simp)
    · exact absurd h (by simp)
  · rintro ⟨c, htest, hreads, hu⟩
    rw [Place.next?_eq_some_iff.mpr hreads]
    simp only [htest, if_true, Option.some.injEq]
    exact hu.symm

/-- Induction on the text that is left. -/
theorem Thread.induct_rest {P : Thread → Prop}
    (step : ∀ t, (∀ u, u.place.rest.length < t.place.rest.length → P u) → P t) (t : Thread) : P t :=
  (measure fun t : Thread => t.place.rest.length).wf.induction t step

/-! ## The ways -/

namespace Ways

/-- Any number of rounds of `body`, each of which must consume something. -/
def anyRounds (body : Thread → List Thread) (greedy : Bool) (t : Thread) : List Thread :=
  let more := (body t).flatMap fun u =>
    if _h : u.place.rest.length < t.place.rest.length then anyRounds body greedy u else []
  if greedy then more ++ [t] else t :: more
termination_by t.place.rest.length

def upToRounds (body : Thread → List Thread) (greedy : Bool) : Nat → Thread → List Thread
  | 0, t => [t]
  | n + 1, t =>
    let more := (body t).flatMap (upToRounds body greedy n)
    if greedy then more ++ [t] else t :: more

def exactRounds (body : Thread → List Thread) : Nat → Thread → List Thread
  | 0, t => [t]
  | n + 1, t => (body t).flatMap (exactRounds body n)

/-- Where every round consumes something, no round is lost. -/
theorem anyRounds_eq {body : Thread → List Thread} {greedy : Bool} {t : Thread}
    (hbody : ∀ u ∈ body t, u.place.rest.length < t.place.rest.length) :
    anyRounds body greedy t =
      if greedy then (body t).flatMap (anyRounds body greedy) ++ [t]
      else t :: (body t).flatMap (anyRounds body greedy) := by
  have hmore : (body t).flatMap (fun u =>
      if _h : u.place.rest.length < t.place.rest.length then anyRounds body greedy u else []) =
        (body t).flatMap (anyRounds body greedy) :=
    List.flatMap_congr fun u hu => dif_pos (hbody u hu)
  rw [anyRounds, hmore]

/-- The rounds that a repetition allows once it has made those it asks for. -/
def furtherRounds (body : Thread → List Thread) (greedy : Bool) (lo : Nat) :
    Option Nat → Thread → List Thread
  | none => anyRounds body greedy
  | some hi => upToRounds body greedy (hi - lo)

end Ways

/-- The ways in which the expression continues a thread, best first. -/
def Expr.ways : Expr → Thread → List Thread
  | .empty, t => [t]
  | .char c ignoreCase, t => (t.consume? (Expr.char c ignoreCase).accepts).toList
  | .any lineFeed, t => (t.consume? (Expr.any lineFeed).accepts).toList
  | .set s, t => (t.consume? s.contains).toList
  | .anchor a, t => if t.place.satisfies a then [t] else []
  | .seq a b, t => (a.ways t).flatMap b.ways
  | .alt a b, t => a.ways t ++ b.ways t
  | .group n e, t => (e.ways t).map (·.remember n t.place.pos)
  | .iter e lo hi greedy, t =>
    (Ways.exactRounds e.ways lo t).flatMap (Ways.furtherRounds e.ways greedy lo hi)
  | .look .ahead false e, t => (e.ways t).map fun u => { u with place := t.place }
  | .look .ahead true e, t => if (e.ways t).isEmpty then [t] else []
  | .look .behind _ _, _ | .backref _, _ | .atomic _, _ | .keepOut, _ => []

/-- The first way from the first place that has one. -/
def Expr.firstWay (e : Expr) (p : Place) : Option Thread :=
  match e.ways (.start p) with
  | t :: _ => some t
  | [] =>
    match h : p.rest with
    | [] => none
    | c :: rest => firstWay e ⟨c :: p.past, rest, p.pos + 1, by simp [p.pos_eq]⟩
termination_by p.rest.length
decreasing_by simp [h]

/-- Every match of the expression consumes something. -/
def Expr.consumes : Expr → Bool
  | .char _ _ | .any _ | .set _ => true
  | .seq a b => a.consumes || b.consumes
  | .alt a b => a.consumes && b.consumes
  | .group _ e => e.consumes
  | .iter e lo _ _ => decide (0 < lo) && e.consumes
  | _ => false

/-- The ways describe the expression in full: it has no lookbehind, back reference, atomic part or
`\K`, its repetitions ask for no more than they allow, and a round that may be repeated without
bound consumes something. -/
def Expr.isSteady : Expr → Bool
  | .empty | .char _ _ | .any _ | .set _ | .anchor _ => true
  | .seq a b | .alt a b => a.isSteady && b.isSteady
  | .group _ e | .look .ahead _ e => e.isSteady
  | .iter e lo hi _ => e.isSteady && (hi.all (lo ≤ ·)) && (hi.isSome || e.consumes)
  | .look .behind _ _ | .backref _ | .atomic _ | .keepOut => false

def Expr.groupNumbers : Expr → List Nat
  | seq a b | alt a b => a.groupNumbers ++ b.groupNumbers
  | group n e => n :: e.groupNumbers
  | iter e _ _ _ | look _ _ e | atomic e => e.groupNumbers
  | _ => []

/-! ## Where ways lead -/

theorem Ways.mem_ite {t u : Thread} {more : List Thread} {greedy : Bool} :
    (u ∈ if greedy then more ++ [t] else t :: more) ↔ u = t ∨ u ∈ more := by
  cases greedy with
  | true => simp [or_comm]
  | false => simp

/-- `f` leads from a thread only to threads that are in a relation to it. -/
def Along (R : Thread → Thread → Prop) (f : Thread → List Thread) : Prop :=
  ∀ t, ∀ u ∈ f t, R t u

namespace Along

variable {R : Thread → Thread → Prop} [IsPreorder Thread R] {f g : Thread → List Thread}

theorem pure : Along R fun t => [t] := by
  intro t u hu
  rw [List.mem_singleton.mp hu]
  exact refl_of R t

/-- No thread at all, or the one there is. -/
theorem stay (test : Thread → Bool) : Along R fun t => if test t then [t] else [] := by
  intro t u hu
  dsimp only at hu
  split at hu
  · exact pure t u hu
  · exact absurd hu List.not_mem_nil

theorem flatMap (hf : Along R f) (hg : Along R g) : Along R fun t => (f t).flatMap g := by
  intro t u hu
  obtain ⟨m, hm, hu⟩ := List.mem_flatMap.mp hu
  exact trans_of R (hf t m hm) (hg m u hu)

theorem exactRounds (hf : Along R f) (n : Nat) : Along R (Ways.exactRounds f n) := by
  induction n with
  | zero => exact pure
  | succ n ih => exact hf.flatMap ih

theorem upToRounds (hf : Along R f) (greedy : Bool) (n : Nat) :
    Along R (Ways.upToRounds f greedy n) := by
  induction n with
  | zero => exact pure
  | succ n ih =>
    intro t u hu
    rcases Ways.mem_ite.mp hu with rfl | hu
    · exact refl_of R u
    · exact hf.flatMap ih t u hu

theorem anyRounds (hf : Along R f) (greedy : Bool) : Along R (Ways.anyRounds f greedy) := by
  intro t
  induction t using Thread.induct_rest with
  | step t ih =>
    intro u hu
    rw [Ways.anyRounds] at hu
    rcases Ways.mem_ite.mp hu with rfl | hu
    · exact refl_of R u
    · obtain ⟨m, hm, hu⟩ := List.mem_flatMap.mp hu
      split at hu
      · next hlt => exact trans_of R (hf t m hm) (ih m hlt u hu)
      · exact absurd hu List.not_mem_nil

theorem furtherRounds (hf : Along R f) (greedy : Bool) (lo : Nat) (hi : Option Nat) :
    Along R (Ways.furtherRounds f greedy lo hi) := by
  cases hi with
  | none => exact hf.anyRounds greedy
  | some hi => exact hf.upToRounds greedy (hi - lo)

end Along

/-- Ways lead along a relation that holds where a character is consumed, where one of the groups is
remembered, and where a way ahead is taken back. -/
theorem ways_lead {R : Thread → Thread → Prop} [IsPreorder Thread R] {e : Expr}
    (hconsume : ∀ test : Char → Bool, Along R fun t => (t.consume? test).toList)
    (hgroup : ∀ n ∈ e.groupNumbers, ∀ t m, R t m → ∀ first, R t (m.remember n first))
    (hback : ∀ t m, R t m → R t { m with place := t.place }) : Along R e.ways := by
  induction e with
  | empty => exact Along.pure
  | char c ignoreCase => exact hconsume _
  | any lineFeed => exact hconsume _
  | set s => exact hconsume _
  | anchor a => exact Along.stay fun t => t.place.satisfies a
  | seq a b iha ihb =>
    have ha := iha fun n hn => hgroup n (List.mem_append_left _ hn)
    have hb := ihb fun n hn => hgroup n (List.mem_append_right _ hn)
    exact ha.flatMap hb
  | alt a b iha ihb =>
    intro t u hu
    rcases List.mem_append.mp hu with hu | hu
    · exact iha (fun n hn => hgroup n (List.mem_append_left _ hn)) t u hu
    · exact ihb (fun n hn => hgroup n (List.mem_append_right _ hn)) t u hu
  | group n e ih =>
    intro t u hu
    obtain ⟨m, hm, rfl⟩ := List.mem_map.mp hu
    have he := ih fun k hk => hgroup k (List.mem_cons_of_mem _ hk)
    exact hgroup n List.mem_cons_self t m (he t m hm) _
  | iter e lo hi greedy ih =>
    have he := ih hgroup
    exact (he.exactRounds lo).flatMap (he.furtherRounds greedy lo hi)
  | look side negated e ih =>
    intro t u hu
    cases side with
    | behind => exact absurd hu (by simp [Expr.ways])
    | ahead =>
      cases negated with
      | false =>
        obtain ⟨m, hm, rfl⟩ := List.mem_map.mp hu
        exact hback t m (ih hgroup t m hm)
      | true => exact Along.stay (fun t => (e.ways t).isEmpty) t u hu
  | backref n => exact fun t u hu => absurd hu (by simp [Expr.ways])
  | atomic e => exact fun t u hu => absurd hu (by simp [Expr.ways])
  | keepOut => exact fun t u hu => absurd hu (by simp [Expr.ways])

/-! ## Ways consume text -/

/-- The second thread stands after some text that is read from the first. -/
def Thread.Precedes (t u : Thread) : Prop := ∃ w, t.place.Reads w u.place

instance : IsPreorder Thread Thread.Precedes where
  refl _ := ⟨[], .refl _⟩
  trans := by
    rintro _ _ _ ⟨v, hv⟩ ⟨w, hw⟩
    exact ⟨v ++ w, hv.trans hw⟩

/-- Every thread that `f` leads to stands after some text that was read. -/
abbrev Forward : (Thread → List Thread) → Prop := Along Thread.Precedes

/-- A way consumes some of the text after the place where it begins. -/
theorem ways_reads (e : Expr) : Forward e.ways := by
  refine ways_lead (fun test t u hu => ?_) (fun _ _ _ _ h _ => h) fun _ _ _ => ⟨[], .refl _⟩
  obtain ⟨c, -, hreads, -⟩ := Thread.consume?_eq_some_iff.mp (Option.mem_toList.mp hu)
  exact ⟨[c], hreads⟩

/-! ## Ways do not look back -/

def places (threads : List Thread) : List Place := threads.map (·.place)

/-- Where `f` leads to depends on the place only. -/
def Blind (f : Thread → List Thread) : Prop :=
  ∀ t t' : Thread, t.place = t'.place → places (f t) = places (f t')

theorem places_flatMap {l l' : List Thread} {g g' : Thread → List Thread}
    (hl : places l = places l')
    (hg : ∀ u ∈ l, ∀ u', u.place = u'.place → places (g u) = places (g' u')) :
    places (l.flatMap g) = places (l'.flatMap g') := by
  induction l generalizing l' with
  | nil =>
    cases l' with
    | nil => rfl
    | cons u' l' => simp [places] at hl
  | cons u l ih =>
    cases l' with
    | nil => simp [places] at hl
    | cons u' l' =>
      simp only [places, List.map_cons, List.cons.injEq] at hl
      have hhead := hg u List.mem_cons_self u' hl.1
      have htail := ih hl.2 fun v hv => hg v (List.mem_cons_of_mem _ hv)
      simp only [places] at hhead htail
      simp [places, hhead, htail]

theorem places_ite {t t' : Thread} {more more' : List Thread} {greedy : Bool}
    (ht : t.place = t'.place) (hmore : places more = places more') :
    places (if greedy then more ++ [t] else t :: more) =
      places (if greedy then more' ++ [t'] else t' :: more') := by
  simp only [places] at hmore ⊢
  cases greedy with
  | true => simp [ht, hmore]
  | false => simp [ht, hmore]

namespace Blind

variable {f g : Thread → List Thread}

theorem flatMap (hf : Blind f) (hg : Blind g) : Blind fun t => (f t).flatMap g :=
  fun t t' ht => places_flatMap (hf t t' ht) fun u _ u' hu => hg u u' hu

theorem pure : Blind fun t => [t] := fun t t' ht => by simp [places, ht]

theorem exactRounds (hf : Blind f) (n : Nat) : Blind (Ways.exactRounds f n) := by
  induction n with
  | zero => exact pure
  | succ n ih => exact hf.flatMap ih

theorem upToRounds (hf : Blind f) (greedy : Bool) (n : Nat) :
    Blind (Ways.upToRounds f greedy n) := by
  induction n with
  | zero => exact pure
  | succ n ih => exact fun t t' ht => places_ite ht (hf.flatMap ih t t' ht)

theorem anyRounds (hf : Blind f) (greedy : Bool) : Blind (Ways.anyRounds f greedy) := by
  intro t
  induction t using Thread.induct_rest with
  | step t ih =>
    intro t' ht
    rw [Ways.anyRounds, Ways.anyRounds]
    refine places_ite ht (places_flatMap (hf t t' ht) fun u _ u' hu => ?_)
    rw [← ht, ← hu]
    split
    · next hlt => exact ih u hlt u' hu
    · rfl

theorem furtherRounds (hf : Blind f) (greedy : Bool) (lo : Nat) (hi : Option Nat) :
    Blind (Ways.furtherRounds f greedy lo hi) := by
  cases hi with
  | none => exact hf.anyRounds greedy
  | some hi => exact hf.upToRounds greedy (hi - lo)

theorem consume? (test : Char → Bool) : Blind fun t => (t.consume? test).toList := by
  intro t t' ht
  simp only [Thread.consume?, ht]
  split
  · split
    · rfl
    · rfl
  · rfl

end Blind

/-- Where the ways lead depends on the place only, not on what was remembered before. -/
theorem ways_places (e : Expr) : Blind e.ways := by
  induction e with
  | empty => exact Blind.pure
  | char c ignoreCase => exact Blind.consume? _
  | any lineFeed => exact Blind.consume? _
  | set s => exact Blind.consume? _
  | anchor a =>
    intro t t' ht
    simp only [Expr.ways, ht]
    split
    · exact Blind.pure t t' ht
    · rfl
  | seq a b iha ihb => exact iha.flatMap ihb
  | alt a b iha ihb =>
    intro t t' ht
    have ha := iha t t' ht
    have hb := ihb t t' ht
    simp only [places] at ha hb
    simp [places, Expr.ways, ha, hb]
  | group n e ih =>
    intro t t' ht
    have h := ih t t' ht
    simpa [places, Expr.ways, Thread.remember, Function.comp_def] using h
  | iter e lo hi greedy ih => exact (ih.exactRounds lo).flatMap (ih.furtherRounds greedy lo hi)
  | look side negated e ih =>
    intro t t' ht
    have h := ih t t' ht
    cases side with
    | behind => simp [Expr.ways]
    | ahead =>
      cases negated with
      | false =>
        -- every way comes back to the place, so only their number matters
        have hlen : (e.ways t).length = (e.ways t').length := by
          simpa [places] using congrArg List.length h
        simp [places, Expr.ways, Function.comp_def, ht, List.map_const', hlen]
      | true =>
        have hempty : (e.ways t).isEmpty = (e.ways t').isEmpty := by
          simpa [places] using congrArg List.isEmpty h
        simp only [Expr.ways, hempty]
        split
        · exact Blind.pure t t' ht
        · rfl
  | backref n => exact fun t t' _ => rfl
  | atomic e => exact fun t t' _ => rfl
  | keepOut => exact fun t t' _ => rfl

/-! ## Ways that consume, and ways of one width -/

/-- An expression that `consumes` never stays where it is. -/
theorem ways_consume {e : Expr} (he : e.consumes = true) {t u : Thread} (hu : u ∈ e.ways t) :
    u.place.rest.length < t.place.rest.length := by
  induction e generalizing t u with
  | char c ignoreCase | any lineFeed | set s =>
    obtain ⟨c, _, hreads, _⟩ := Thread.consume?_eq_some_iff.mp (Option.mem_toList.mp hu)
    have := hreads.length_rest
    simp only [List.length_singleton] at this
    omega
  | seq a b iha ihb =>
    obtain ⟨m, hm, hu⟩ := List.mem_flatMap.mp hu
    obtain ⟨v, hv⟩ := ways_reads a t m hm
    obtain ⟨w, hw⟩ := ways_reads b m u hu
    have hv := hv.length_rest
    have hw := hw.length_rest
    rcases Bool.or_eq_true _ _ ▸ he with he | he
    · have := iha he hm
      omega
    · have := ihb he hu
      omega
  | alt a b iha ihb =>
    obtain ⟨ha, hb⟩ := Bool.and_eq_true _ _ ▸ he
    rcases List.mem_append.mp hu with hu | hu
    · exact iha ha hu
    · exact ihb hb hu
  | group n e ih =>
    obtain ⟨m, hm, rfl⟩ := List.mem_map.mp hu
    exact ih (t := t) (u := m) he hm
  | iter e lo hi greedy ih =>
    simp only [Expr.consumes, Bool.and_eq_true, decide_eq_true_eq] at he
    obtain ⟨hlo, he⟩ := he
    -- the first round consumes something, and no other goes back
    cases lo with
    | zero => exact absurd hlo (by omega)
    | succ lo =>
      obtain ⟨m, hm, hu⟩ := List.mem_flatMap.mp hu
      obtain ⟨v, hv, hm⟩ := List.mem_flatMap.mp hm
      obtain ⟨x, hx⟩ := (ways_reads e).exactRounds lo v m hm
      obtain ⟨y, hy⟩ := (ways_reads e).furtherRounds greedy (lo + 1) hi m u hu
      have hx := hx.length_rest
      have hy := hy.length_rest
      have := ih he hv
      omega
  | empty | anchor a | look side negated e | backref n | atomic e | keepOut =>
    exact absurd he (by simp [Expr.consumes])

theorem exactRounds_pos {f : Thread → List Thread} {n : Nat}
    (hf : ∀ t, ∀ u ∈ f t, u.place.pos = t.place.pos + n) (k : Nat) {t u : Thread}
    (hu : u ∈ Ways.exactRounds f k t) : u.place.pos = t.place.pos + n * k := by
  induction k generalizing t with
  | zero =>
    rw [List.mem_singleton.mp hu]
    simp
  | succ k ih =>
    obtain ⟨m, hm, hu⟩ := List.mem_flatMap.mp hu
    rw [ih hu, hf t m hm, Nat.mul_succ]
    omega

/-- Every way of an expression with a width consumes as many characters. -/
theorem ways_pos {e : Expr} {n : Nat} (he : e.width? = some n) {t u : Thread}
    (hu : u ∈ e.ways t) : u.place.pos = t.place.pos + n := by
  induction e generalizing n t u with
  | empty =>
    simp only [Expr.width?, Option.some.injEq] at he
    rw [List.mem_singleton.mp hu, ← he, Nat.add_zero]
  | char c ignoreCase | any lineFeed | set s =>
    simp only [Expr.width?, Option.some.injEq] at he
    obtain ⟨c, _, hreads, _⟩ := Thread.consume?_eq_some_iff.mp (Option.mem_toList.mp hu)
    rw [hreads.pos_eq, ← he, List.length_singleton]
  | anchor a =>
    simp only [Expr.width?, Option.some.injEq] at he
    simp only [Expr.ways] at hu
    split at hu
    · rw [List.mem_singleton.mp hu, ← he, Nat.add_zero]
    · exact absurd hu List.not_mem_nil
  | seq a b iha ihb =>
    simp only [Expr.width?, Option.bind_eq_bind, Option.bind_eq_some_iff, Option.pure_def,
      Option.some.injEq] at he
    obtain ⟨i, ha, j, hb, rfl⟩ := he
    obtain ⟨m, hm, hu⟩ := List.mem_flatMap.mp hu
    rw [ihb hb hu, iha ha hm, Nat.add_assoc]
  | alt a b iha ihb =>
    simp only [Expr.width?, Option.bind_eq_bind, Option.bind_eq_some_iff] at he
    obtain ⟨i, ha, j, hb, he⟩ := he
    split at he
    · next hij =>
      cases he
      rcases List.mem_append.mp hu with hu | hu
      · exact iha ha hu
      · exact hij ▸ ihb hb hu
    · exact absurd he (by simp)
  | group n e ih =>
    obtain ⟨m, hm, rfl⟩ := List.mem_map.mp hu
    exact ih (t := t) (u := m) he hm
  | iter e lo hi greedy ih =>
    simp only [Expr.width?, Option.bind_eq_bind, Option.bind_eq_some_iff] at he
    obtain ⟨i, hi', he⟩ := he
    split at he
    · next hhi =>
      -- only a fixed number of rounds has a width
      cases he
      subst hhi
      obtain ⟨m, hm, hu⟩ := List.mem_flatMap.mp hu
      simp only [Ways.furtherRounds, Nat.sub_self, Ways.upToRounds, List.mem_singleton] at hu
      rw [hu]
      exact exactRounds_pos (fun _ _ h => ih hi' h) lo hm
    · exact absurd he (by simp)
  | look side negated e ih =>
    simp only [Expr.width?, Option.some.injEq] at he
    cases side with
    | behind => exact absurd hu (by simp [Expr.ways])
    | ahead =>
      cases negated with
      | false =>
        obtain ⟨m, _, rfl⟩ := List.mem_map.mp hu
        rw [← he, Nat.add_zero]
      | true =>
        simp only [Expr.ways] at hu
        split at hu
        · rw [List.mem_singleton.mp hu, ← he, Nat.add_zero]
        · exact absurd hu List.not_mem_nil
  | backref n | atomic e | keepOut => exact absurd hu (by simp [Expr.ways])

/-- An expression with a width leads to one place only. -/
theorem ways_width {e : Expr} (he : e.width?.isSome = true) {t u v : Thread}
    (hu : u ∈ e.ways t) (hv : v ∈ e.ways t) : u.place = v.place := by
  obtain ⟨n, hn⟩ := Option.isSome_iff_exists.mp he
  obtain ⟨x, hx⟩ := ways_reads e t u hu
  obtain ⟨y, hy⟩ := ways_reads e t v hv
  exact Place.eq_of_text (hx.text_eq.trans hy.text_eq.symm)
    ((ways_pos hn hu).trans (ways_pos hn hv).symm)

end MockHttp.Regex
