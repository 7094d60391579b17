import MockHttp.Proofs.Regex.Ways

/-!
# The search for plain expressions

`Expr.ends` keeps one thread of every place and so never does the same work twice. This module
shows that nothing is lost by it: the threads that `ends` lists are, for every place, the best of
all ways there, in the order of the ways. In particular the first one is the best of all.

A repetition is a walk through a graph whose nodes are places where a round begins. The walk marks
the nodes that it has begun and never enters one twice. The invariant is `Closed`: whatever a node
that has been finished leads to is covered by the threads that have left the repetition.

Results:
1. `ends_retains`: every thread that `ends` lists is a way, and the best thread of every place is
   the best way there.
2. `head?_ends`: the first thread is the best way.
-/

namespace MockHttp.Regex

/-! ## The best thread of every place -/

/-- One of the threads is at that position. -/
def Covers (threads : List Thread) (pos : Nat) : Bool := threads.any (·.place.pos == pos)

theorem covers_iff {threads : List Thread} {pos : Nat} :
    Covers threads pos = true ↔ ∃ t ∈ threads, t.place.pos = pos := by
  simp [Covers]

namespace BestPerPlace

theorem covers_of_mem {l : List Thread} {t : Thread} {pos : Nat} (ht : t ∈ l)
    (hpos : t.place.pos = pos) : Covers l pos = true :=
  covers_iff.mpr ⟨t, ht, hpos⟩

theorem foldl_eq (kept threads : List Thread) :
    threads.foldl
        (fun kept t => if kept.any (·.place.pos == t.place.pos) then kept else kept ++ [t]) kept =
      kept ++ (bestPerPlace threads).filter fun u => !Covers kept u.place.pos := by
  induction threads generalizing kept with
  | nil => simp [bestPerPlace]
  | cons t threads ih =>
    have hone : bestPerPlace (t :: threads) =
        [t] ++ (bestPerPlace threads).filter fun u => !Covers [t] u.place.pos := by
      rw [← ih [t]]
      simp [bestPerPlace]
    rw [List.foldl_cons, ih, hone]
    by_cases hkept : kept.any (·.place.pos == t.place.pos) = true
    · -- `t` comes too late, and so does whatever stands behind it at its place
      have hcovers : Covers kept t.place.pos = true := hkept
      rw [if_pos hkept]
      congr 1
      simp only [List.filter_append, List.filter_cons, hcovers, List.filter_nil, List.filter_filter]
      refine List.filter_congr fun u _ => ?_
      by_cases hut : t.place.pos = u.place.pos
      · simp [← hut, hcovers]
      · simp [Covers, hut]
    · have hcovers : Covers kept t.place.pos = false := Bool.eq_false_iff.mpr hkept
      rw [if_neg hkept, List.append_assoc]
      congr 1
      simp only [List.filter_append, List.filter_cons, hcovers, List.filter_nil, List.filter_filter]
      congr 1
      refine List.filter_congr fun u _ => ?_
      simp [Covers, Bool.and_comm]

theorem append_eq (l m : List Thread) :
    bestPerPlace (l ++ m) =
      bestPerPlace l ++ (bestPerPlace m).filter fun u => !Covers (bestPerPlace l) u.place.pos := by
  rw [← foldl_eq, bestPerPlace, List.foldl_append]
  rfl

theorem cons_eq (t : Thread) (l : List Thread) :
    bestPerPlace (t :: l) =
      t :: (bestPerPlace l).filter fun u => !(t.place.pos == u.place.pos) := by
  have h := append_eq [t] l
  simpa [bestPerPlace, Covers] using h

theorem mem_of_mem {l : List Thread} {u : Thread} (hu : u ∈ bestPerPlace l) : u ∈ l := by
  induction l with
  | nil => exact hu
  | cons t l ih =>
    rw [cons_eq] at hu
    rcases List.mem_cons.mp hu with rfl | hu
    · exact List.mem_cons_self
    · exact List.mem_cons_of_mem _ (ih (List.mem_filter.mp hu).1)

theorem covers_eq (l : List Thread) (pos : Nat) : Covers (bestPerPlace l) pos = Covers l pos := by
  induction l with
  | nil => rfl
  | cons t l ih =>
    rw [cons_eq]
    simp only [Covers, List.any_cons, List.any_filter] at ih ⊢
    by_cases ht : t.place.pos = pos
    · simp [ht]
    · rw [← ih]
      congr 1
      refine List.any_congr rfl fun u => ?_
      by_cases hu : u.place.pos = pos
      · simp [hu, ht]
      · simp [hu]

theorem covers_congr {l m : List Thread} (h : bestPerPlace l = bestPerPlace m) (pos : Nat) :
    Covers l pos = Covers m pos := by
  rw [← covers_eq l, h, covers_eq m]

theorem append_congr {l l' m m' : List Thread} (hl : bestPerPlace l = bestPerPlace l')
    (hm : bestPerPlace m = bestPerPlace m') : bestPerPlace (l ++ m) = bestPerPlace (l' ++ m') := by
  rw [append_eq, append_eq, hl, hm]

/-- Threads at places that are covered already add nothing. -/
theorem append_covered {l m : List Thread} (h : ∀ u ∈ m, Covers l u.place.pos = true) :
    bestPerPlace (l ++ m) = bestPerPlace l := by
  rw [append_eq, List.append_right_eq_self]
  refine List.filter_eq_nil_iff.mpr fun u hu => ?_
  simp [covers_eq, h u (mem_of_mem hu)]

theorem filter_eq (l : List Thread) (keep : Nat → Bool) :
    bestPerPlace (l.filter fun t => keep t.place.pos) =
      (bestPerPlace l).filter fun t => keep t.place.pos := by
  induction l with
  | nil => rfl
  | cons t l ih =>
    rw [cons_eq, List.filter_cons, List.filter_cons]
    split
    · rw [cons_eq, ih, List.filter_filter, List.filter_filter]
      simp only [Bool.and_comm]
    · next ht =>
      rw [ih, List.filter_filter]
      refine List.filter_congr fun u _ => ?_
      by_cases hu : t.place.pos = u.place.pos
      · simpa [hu] using ht
      · simp [hu]

theorem flatMap_congr {l : List Thread} {f g : Thread → List Thread}
    (h : ∀ t ∈ l, bestPerPlace (f t) = bestPerPlace (g t)) :
    bestPerPlace (l.flatMap f) = bestPerPlace (l.flatMap g) := by
  induction l with
  | nil => rfl
  | cons t l ih =>
    rw [List.flatMap_cons, List.flatMap_cons]
    exact append_congr (h t List.mem_cons_self) (ih fun u hu => h u (List.mem_cons_of_mem _ hu))

/-- To follow only the best thread of every place loses nothing if the place decides where threads
lead. -/
theorem flatMap_best {l : List Thread} {f : Thread → List Thread}
    (hf : ∀ t ∈ l, ∀ u ∈ l, t.place.pos = u.place.pos →
      ∀ v ∈ f u, Covers (f t) v.place.pos = true) :
    bestPerPlace ((bestPerPlace l).flatMap f) = bestPerPlace (l.flatMap f) := by
  induction l with
  | nil => rfl
  | cons t l ih =>
    have ih := ih fun t ht u hu => hf t (List.mem_cons_of_mem _ ht) u (List.mem_cons_of_mem _ hu)
    -- from the place of `t` only those places are reached that `t` reaches already
    have hdrop : ∀ k : List Thread, (∀ u ∈ k, u ∈ l) →
        ((k.filter fun u => !(t.place.pos == u.place.pos)).flatMap f).filter
            (fun v => !Covers (bestPerPlace (f t)) v.place.pos) =
          (k.flatMap f).filter fun v => !Covers (bestPerPlace (f t)) v.place.pos := by
      intro k hk
      induction k with
      | nil => rfl
      | cons u k ihk =>
        have ihk := ihk fun v hv => hk v (List.mem_cons_of_mem _ hv)
        rw [List.filter_cons, List.flatMap_cons, List.filter_append, ← ihk]
        split
        · rw [List.flatMap_cons, List.filter_append]
        · next htu =>
          have hempty : (f u).filter (fun v => !Covers (bestPerPlace (f t)) v.place.pos) = [] := by
            refine List.filter_eq_nil_iff.mpr fun v hv => ?_
            have hmem := List.mem_cons_of_mem t (hk u List.mem_cons_self)
            simp [covers_eq, hf t List.mem_cons_self u hmem (by simpa using htu) v hv]
          rw [hempty, List.nil_append]
    rw [cons_eq, List.flatMap_cons, List.flatMap_cons, append_eq, append_eq, ← ih]
    rw [← filter_eq _ fun pos => !Covers (bestPerPlace (f t)) pos,
      ← filter_eq _ fun pos => !Covers (bestPerPlace (f t)) pos]
    rw [hdrop _ fun u hu => mem_of_mem hu]

theorem best_best (l : List Thread) : bestPerPlace (bestPerPlace l) = bestPerPlace l := by
  have h : bestPerPlace ((bestPerPlace l).flatMap fun t => [t]) =
      bestPerPlace (l.flatMap fun t => [t]) := flatMap_best fun t _ u _ htu v hv => by
    rw [List.mem_singleton.mp hv]
    simp [Covers, htu]
  simpa using h

theorem map_eq (l : List Thread) {f : Thread → Thread}
    (hf : ∀ t, (f t).place = t.place) : bestPerPlace (l.map f) = (bestPerPlace l).map f := by
  induction l with
  | nil => rfl
  | cons t l ih =>
    simp only [List.map_cons, cons_eq, ih, List.filter_map, hf, Function.comp_def]

theorem head?_eq (l : List Thread) : (bestPerPlace l).head? = l.head? := by
  cases l with
  | nil => rfl
  | cons t l => simp [cons_eq]

end BestPerPlace

open BestPerPlace

theorem covers_of_blind {g : Thread → List Thread} (hg : Blind g) {t t' : Thread}
    (htext : t.place.text = t'.place.text) (hpos : t.place.pos = t'.place.pos) {u : Thread}
    (hu : u ∈ g t') : Covers (g t) u.place.pos = true := by
  have hmem : u.place ∈ places (g t) := by
    rw [hg t t' (Place.eq_of_text htext hpos)]
    exact List.mem_map_of_mem hu
  obtain ⟨v, hv, hvu⟩ := List.mem_map.mp hmem
  exact covers_of_mem hv (by rw [hvu])

/-- Following the best threads of a text loses no more than following all of them. -/
theorem flatMap_eq_of_best {text : List Char} {l l' : List Thread} {g : Thread → List Thread}
    (hg : Blind g) (hl : ∀ t ∈ l, t.place.text = text) (hl' : ∀ t ∈ l', t.place.text = text)
    (hbest : bestPerPlace l = bestPerPlace l') :
    bestPerPlace (l.flatMap g) = bestPerPlace (l'.flatMap g) := by
  have hone : ∀ k : List Thread, (∀ t ∈ k, t.place.text = text) →
      bestPerPlace ((bestPerPlace k).flatMap g) = bestPerPlace (k.flatMap g) := by
    intro k hk
    refine flatMap_best fun u hu v hv huv w hw => ?_
    exact covers_of_blind hg ((hk u hu).trans (hk v hv).symm) huv hw
  rw [← hone l hl, hbest, hone l' hl']

/-- `l` keeps the best thread of every place that `l'` reaches, and adds none of its own. -/
structure Retains (l l' : List Thread) : Prop where
  best : bestPerPlace l = bestPerPlace l'
  sound : ∀ u ∈ l, u ∈ l'

namespace Retains

variable {l l' l'' m m' : List Thread} {f g : Thread → List Thread}

theorem of_eq (h : l = l') : Retains l l' := ⟨congrArg bestPerPlace h, fun _ hu => h ▸ hu⟩

theorem trans (h : Retains l l') (h' : Retains l' l'') : Retains l l'' :=
  ⟨h.best.trans h'.best, fun u hu => h'.sound u (h.sound u hu)⟩

/-- To list only the best thread of every place keeps it. -/
theorem dropWorse (h : Retains l l') : Retains (bestPerPlace l) l' :=
  ⟨(best_best l).trans h.best, fun u hu => h.sound u (mem_of_mem hu)⟩

theorem append (h : Retains l l') (h' : Retains m m') : Retains (l ++ m) (l' ++ m') :=
  ⟨append_congr h.best h'.best, fun u hu => List.mem_append.mpr
    ((List.mem_append.mp hu).imp (h.sound u) (h'.sound u))⟩

theorem map (h : Retains l l') (move : Thread → Thread) (hmove : ∀ t, (move t).place = t.place) :
    Retains (l.map move) (l'.map move) where
  best := by rw [map_eq l hmove, map_eq l' hmove, h.best]
  sound := by
    intro u hu
    obtain ⟨v, hv, rfl⟩ := List.mem_map.mp hu
    exact List.mem_map_of_mem (h.sound v hv)

theorem flatMap (h : ∀ t, Retains (f t) (g t)) (l : List Thread) :
    Retains (l.flatMap f) (l.flatMap g) where
  best := flatMap_congr fun t _ => (h t).best
  sound := by
    intro u hu
    obtain ⟨t, ht, hu⟩ := List.mem_flatMap.mp hu
    exact List.mem_flatMap.mpr ⟨t, ht, (h t).sound u hu⟩

/-- The threads of a text that are dropped lead nowhere else. -/
theorem follow {text : List Char} (h : Retains l l') (hg : Blind g)
    (htext : ∀ t ∈ l', t.place.text = text) : Retains (l.flatMap g) (l'.flatMap g) where
  best := flatMap_eq_of_best hg (fun t ht => htext t (h.sound t ht)) htext h.best
  sound := by
    intro u hu
    obtain ⟨t, ht, hu⟩ := List.mem_flatMap.mp hu
    exact List.mem_flatMap.mpr ⟨t, h.sound t ht, hu⟩

end Retains

/-! ## Walks through the places of a repetition -/

section Walk

variable {body f : Thread → List Thread} {V : Nat → Thread → List Thread}
  {B B' : Nat × Nat → Prop} {text : List Char} {r r' r'' : Rounds} {l l' : List Thread}

/-- Whatever a begun node in `B` leads to is covered by the threads that have left. -/
def Closed (V : Nat → Thread → List Thread) (B : Nat × Nat → Prop) (text : List Char)
    (r : Rounds) : Prop :=
  ∀ n t, t.place.text = text → B (n, t.place.pos) → (n, t.place.pos) ∈ r.begun →
    ∀ u ∈ V n t, Covers r.left u.place.pos = true

/-- From `r` to `r'`, the threads `l` have left, as far as their places are new, and only nodes in
`B` have been begun. -/
structure Grows (B : Nat × Nat → Prop) (l : List Thread) (r r' : Rounds) : Prop where
  left_best : bestPerPlace r'.left.reverse = bestPerPlace (r.left.reverse ++ l)
  begun : ∀ b ∈ r'.begun, b ∈ r.begun ∨ B b
  sound : ∀ u ∈ r'.left, u ∈ r.left ∨ u ∈ l

theorem covers_reverse (l : List Thread) (pos : Nat) : Covers l.reverse pos = Covers l pos :=
  List.any_reverse

theorem Grows.covers_iff (h : Grows B l r r') (pos : Nat) :
    Covers r'.left pos = true ↔ Covers r.left pos = true ∨ Covers l pos = true := by
  have hcovers := covers_congr h.left_best pos
  rw [covers_reverse] at hcovers
  rw [hcovers]
  simp [Covers]

theorem Closed.leave (hr : Closed V B text r) (t : Thread) : Closed V B text (r.leave t) := by
  intro n t' ht' hb hbegun u hu
  have hold := hr n t' ht' hb hbegun u hu
  simp only [Rounds.leave, Covers, List.any_cons, Bool.or_eq_true] at hold ⊢
  exact .inr hold

theorem Closed.begin (hr : Closed V B text r) {b : Nat × Nat} (hb : ¬B b) :
    Closed V B text { r with begun := b :: r.begun } := by
  intro n t ht hB hbegun
  rcases List.mem_cons.mp hbegun with hnew | hold
  · exact absurd (hnew ▸ hB) hb
  · exact hr n t ht hB hold

theorem Closed.mono (hr : Closed V B text r) (hB : ∀ b, B' b → B b) : Closed V B' text r :=
  fun n t ht hb => hr n t ht (hB _ hb)

theorem Grows.mono (h : Grows B l r r') (hB : ∀ b, B b → B' b) : Grows B' l r r' :=
  ⟨h.left_best, fun b hb => (h.begun b hb).imp_right (hB b), h.sound⟩

theorem Grows.congr_ite {us us' : List Thread} {W : Thread → List Thread} {t : Thread}
    {greedy : Bool}
    (h : Grows B (if greedy then us.flatMap W ++ [t] else t :: us.flatMap W) r r')
    (hbest : bestPerPlace (us.flatMap W) = bestPerPlace (us'.flatMap W))
    (hmem : ∀ u ∈ us, u ∈ us') :
    Grows B (if greedy then us'.flatMap W ++ [t] else t :: us'.flatMap W) r r' := by
  refine ⟨h.left_best.trans (append_congr rfl ?_), h.begun, fun u hu => (h.sound u hu).imp_right ?_⟩
  · split
    · exact append_congr hbest rfl
    · exact append_congr (l := [t]) rfl hbest
  · intro hu
    rcases Ways.mem_ite.mp hu with rfl | hu
    · exact Ways.mem_ite.mpr (.inl rfl)
    · obtain ⟨v, hv, hu⟩ := List.mem_flatMap.mp hu
      exact Ways.mem_ite.mpr (.inr (List.mem_flatMap.mpr ⟨v, hmem v hv, hu⟩))

/-- Threads at places that are covered already need not leave again. -/
theorem Grows.covered (h : ∀ u ∈ l, Covers r.left u.place.pos = true) : Grows B l r r where
  left_best := (append_covered fun u hu => by rw [covers_reverse]; exact h u hu).symm
  begun := fun _ hb => .inl hb
  sound := fun _ hu => .inl hu

theorem Grows.leave (t : Thread) : Grows B [t] r (r.leave t) where
  left_best := by rw [Rounds.leave, List.reverse_cons]
  begun := fun _ hb => .inl hb
  sound := fun _ hu => (List.mem_cons.mp hu).elim (fun h => .inr (h ▸ List.mem_cons_self)) .inl

theorem Grows.begin {b : Nat × Nat} (hb : B b) : Grows B [] r { r with begun := b :: r.begun } where
  left_best := by rw [List.append_nil]
  begun := fun _ hmem => (List.mem_cons.mp hmem).elim (fun h => .inr (h ▸ hb)) .inl
  sound := fun _ hu => .inl hu

/-- A whole walk. -/
theorem Grows.retains (h : Grows B l .none r) : Retains r.threads l where
  best := (best_best _).trans h.left_best
  sound := fun u hu =>
    (h.sound u (List.mem_reverse.mp (mem_of_mem hu))).resolve_left List.not_mem_nil

/-- One walk after the other. -/
theorem Grows.trans (h : Grows B l r r') (h' : Grows B l' r' r'') : Grows B (l ++ l') r r'' where
  left_best := by
    rw [h'.left_best, ← List.append_assoc]
    exact append_congr h.left_best rfl
  begun := fun b hb => (h'.begun b hb).elim (h.begun b) .inr
  sound := by
    intro u hu
    rw [List.mem_append, ← or_assoc]
    exact (h'.sound u hu).imp_left (h.sound u)

theorem Grows.foldl {F : Rounds → Thread → Rounds} {W : Thread → List Thread} {I : Rounds → Prop}
    {us : List Thread} (h : ∀ r, I r → ∀ u ∈ us, I (F r u) ∧ Grows B (W u) r (F r u))
    (hr : I r) : I (us.foldl F r) ∧ Grows B (us.flatMap W) r (us.foldl F r) := by
  induction us generalizing r with
  | nil => exact ⟨hr, .covered (by simp)⟩
  | cons u us ih =>
    obtain ⟨hI, hgrow⟩ := h r hr u List.mem_cons_self
    obtain ⟨hI', hgrow'⟩ := ih (fun r hr v hv => h r hr v (List.mem_cons_of_mem _ hv)) hI
    exact ⟨hI', hgrow.trans hgrow'⟩

/-- Entering a node: it is begun, its children are walked through, and its thread leaves before or
after them. -/
theorem Grows.enter {F : Rounds → Thread → Rounds} {W : Thread → List Thread} {us : List Thread}
    {n : Nat} {t : Thread} (greedy : Bool)
    (hchild : ∀ q, Closed V B text q → ∀ u ∈ us,
      Closed V B text (F q u) ∧ Grows B (W u) q (F q u))
    (hr : Closed V B text r) (hb : ¬B (n, t.place.pos))
    (hr' : r' =
      let q := { r with begun := (n, t.place.pos) :: r.begun }
      let q := us.foldl F (if greedy then q else q.leave t)
      if greedy then q.leave t else q) :
    Closed V B text r' ∧
      Grows (fun b => b = (n, t.place.pos) ∨ B b)
        (if greedy then us.flatMap W ++ [t] else t :: us.flatMap W) r r' := by
  subst hr'
  have hbegin := hr.begin hb
  have hnode : Grows (fun b => b = (n, t.place.pos) ∨ B b) [] r
      { r with begun := (n, t.place.pos) :: r.begun } := .begin (.inl rfl)
  cases greedy with
  | true =>
    obtain ⟨hclosed, hgrow⟩ := Grows.foldl hchild hbegin
    exact ⟨hclosed.leave t, (hnode.trans (hgrow.mono fun _ => .inr)).trans (.leave t)⟩
  | false =>
    obtain ⟨hclosed, hgrow⟩ := Grows.foldl hchild (hbegin.leave t)
    exact ⟨hclosed, (hnode.trans (.leave t)).trans (hgrow.mono fun _ => .inr)⟩

/-- A walk that enters a node and finishes all nodes below it closes the node as well. -/
theorem Closed.node {n : Nat} {t : Thread} (hV : Blind (V n)) (hr : Closed V B text r)
    (ht : t.place.text = text) (hr' : Closed V B' text r')
    (hgrow : Grows (fun b => b = (n, t.place.pos) ∨ B' b) (V n t) r r') : Closed V B text r' := by
  intro m t' ht' hb hbegun u hu
  rcases hgrow.begun _ hbegun with hold | hnode | hnew
  · exact (hgrow.covers_iff _).mpr (.inl (hr m t' ht' hb hold u hu))
  · -- the node itself: its threads left in between
    obtain ⟨rfl, hpos⟩ := Prod.mk.inj hnode
    exact (hgrow.covers_iff _).mpr (.inr (covers_of_blind hV (ht.trans ht'.symm) hpos.symm hu))
  · exact hr' m t' ht' hnew hbegun u hu

end Walk

/-! ## Rounds -/

/-- `body` keeps the best thread of every place that `f` leads to, and adds none of its own. -/
structure KeepsBest (body f : Thread → List Thread) : Prop where
  best : ∀ t, bestPerPlace (body t) = bestPerPlace (f t)
  sound : ∀ t, ∀ u ∈ body t, u ∈ f t

theorem keepsBest_iff {body f : Thread → List Thread} :
    KeepsBest body f ↔ ∀ t, Retains (body t) (f t) :=
  ⟨fun h t => ⟨h.best t, h.sound t⟩, fun h => ⟨fun t => (h t).best, fun t => (h t).sound⟩⟩

section Rounds

variable {body f : Thread → List Thread}

/-- Following what `body` keeps loses no more than following everything. -/
theorem KeepsBest.follow {g : Thread → List Thread} (h : KeepsBest body f) (hfwd : Forward f)
    (hg : Blind g) (t : Thread) : Retains ((body t).flatMap g) ((f t).flatMap g) := by
  have htext : ∀ u ∈ f t, u.place.text = t.place.text := by
    intro u hu
    obtain ⟨w, hw⟩ := hfwd t u hu
    exact hw.text_eq
  exact (keepsBest_iff.mp h t).follow hg htext

/-- A walk of any number of rounds. Nodes at later places are finished before the node itself is, so
the invariant holds from every earlier position on. -/
theorem anyFrom_grows (h : KeepsBest body f) (hfwd : Forward f) (hblind : Blind f)
    (hcons : ∀ t, ∀ u ∈ f t, u.place.rest.length < t.place.rest.length) (greedy : Bool)
    (t : Thread) (r : Rounds)
    (hr : Closed (fun _ => Ways.anyRounds f greedy) (fun b => t.place.pos ≤ b.2) t.place.text r) :
    Grows (fun b => t.place.pos ≤ b.2) (Ways.anyRounds f greedy t) r
        (Rounds.anyFrom body greedy r t) ∧
      ∀ m ≤ t.place.pos,
        Closed (fun _ => Ways.anyRounds f greedy) (fun b => m ≤ b.2) t.place.text r →
        Closed (fun _ => Ways.anyRounds f greedy) (fun b => m ≤ b.2) t.place.text
          (Rounds.anyFrom body greedy r t) := by
  induction t using Thread.induct_rest generalizing r with
  | step t ih =>
    rw [Rounds.anyFrom]
    split
    · next hbegun =>
      exact ⟨.covered (hr 0 t rfl (Nat.le_refl _) (by simpa using hbegun)), fun m _ hm => hm⟩
    · next hnew =>
      -- a round consumes something, so the walk goes on at later places
      have hlater : ∀ u ∈ body t, t.place.pos + 1 ≤ u.place.pos ∧ u.place.text = t.place.text ∧
          u.place.rest.length < t.place.rest.length := by
        intro u hu
        obtain ⟨w, hw⟩ := hfwd t u (h.sound t u hu)
        have hlt := hcons t u (h.sound t u hu)
        have hlen := hw.length_rest
        exact ⟨by rw [hw.pos_eq]; omega, hw.text_eq, hlt⟩
      have hchild : ∀ q,
          Closed (fun _ => Ways.anyRounds f greedy) (fun b => t.place.pos + 1 ≤ b.2)
            t.place.text q → ∀ u ∈ body t,
          Closed (fun _ => Ways.anyRounds f greedy) (fun b => t.place.pos + 1 ≤ b.2) t.place.text
            (if _h : u.place.rest.length < t.place.rest.length then
              Rounds.anyFrom body greedy q u else q.leave u) ∧
          Grows (fun b => t.place.pos + 1 ≤ b.2) (Ways.anyRounds f greedy u) q
            (if _h : u.place.rest.length < t.place.rest.length then
              Rounds.anyFrom body greedy q u else q.leave u) := by
        intro q hq u hu
        obtain ⟨hpos, htext, hlt⟩ := hlater u hu
        rw [dif_pos hlt]
        obtain ⟨hgrow, hkeep⟩ := ih u hlt q (htext ▸ hq.mono fun b hb => Nat.le_trans hpos hb)
        exact ⟨htext ▸ hkeep _ hpos (htext ▸ hq), hgrow.mono fun b hb => Nat.le_trans hpos hb⟩
      obtain ⟨hclosed, hgrow⟩ := Grows.enter greedy hchild
        (hr.mono fun b hb => Nat.le_trans (Nat.le_succ _) hb) (n := 0) (t := t) (by simp) rfl
      have hnode := hgrow.congr_ite (h.follow hfwd (hblind.anyRounds greedy) t).best (h.sound t)
      rw [← Ways.anyRounds_eq (hcons t)] at hnode
      refine ⟨hnode.mono ?_, fun m hm hclosed' => ?_⟩
      · rintro b (rfl | hb)
        · exact Nat.le_refl _
        · exact Nat.le_trans (Nat.le_succ _) hb
      · exact Closed.node (hblind.anyRounds greedy) hclosed' rfl hclosed hnode

/-- A walk of at most `n` rounds. A node is told apart from others at its place by the number of
rounds that may follow it, and nodes with fewer of them are finished first. -/
theorem upToFrom_grows (h : KeepsBest body f) (hfwd : Forward f) (hblind : Blind f) (greedy : Bool)
    (n : Nat) (t : Thread) (r : Rounds)
    (hr : Closed (fun n => Ways.upToRounds f greedy (n + 1)) (fun b => b.1 < n) t.place.text r) :
    Grows (fun b => b.1 < n) (Ways.upToRounds f greedy n t) r
        (Rounds.upToFrom body greedy n r t) ∧
      ∀ m, n ≤ m →
        Closed (fun n => Ways.upToRounds f greedy (n + 1)) (fun b => b.1 < m) t.place.text r →
        Closed (fun n => Ways.upToRounds f greedy (n + 1)) (fun b => b.1 < m) t.place.text
          (Rounds.upToFrom body greedy n r t) := by
  induction n generalizing t r with
  | zero => exact ⟨.leave t, fun m _ hm => hm.leave t⟩
  | succ n ih =>
    rw [Rounds.upToFrom]
    split
    · next hbegun =>
      exact ⟨.covered (hr n t rfl (Nat.lt_succ_self n) (by simpa using hbegun)), fun m _ hm => hm⟩
    · -- after a round one less may follow
      have hchild : ∀ q,
          Closed (fun n => Ways.upToRounds f greedy (n + 1)) (fun b => b.1 < n) t.place.text q →
          ∀ u ∈ body t,
          Closed (fun n => Ways.upToRounds f greedy (n + 1)) (fun b => b.1 < n) t.place.text
            (Rounds.upToFrom body greedy n q u) ∧
          Grows (fun b => b.1 < n) (Ways.upToRounds f greedy n u) q
            (Rounds.upToFrom body greedy n q u) := by
        intro q hq u hu
        obtain ⟨w, hw⟩ := hfwd t u (h.sound t u hu)
        obtain ⟨hgrow, hkeep⟩ := ih u q (hw.text_eq ▸ hq)
        exact ⟨hw.text_eq ▸ hkeep n (Nat.le_refl n) (hw.text_eq ▸ hq), hgrow⟩
      obtain ⟨hclosed, hgrow⟩ := Grows.enter greedy hchild
        (hr.mono fun b hb => Nat.lt_succ_of_lt hb) (n := n) (t := t) (by simp) rfl
      have hnode := hgrow.congr_ite (h.follow hfwd (hblind.upToRounds greedy n) t).best (h.sound t)
      change Grows _ (Ways.upToRounds f greedy (n + 1) t) _ _ at hnode
      refine ⟨hnode.mono ?_, fun m hm hclosed' => ?_⟩
      · rintro b (rfl | hb)
        · exact Nat.lt_succ_self _
        · exact Nat.lt_succ_of_lt hb
      · exact Closed.node (hblind.upToRounds greedy (n + 1)) hclosed' rfl hclosed hnode

theorem Forward.text_eq (hfwd : Forward f) {text : List Char} {threads : List Thread}
    (hthreads : ∀ t ∈ threads, t.place.text = text) :
    ∀ u ∈ threads.flatMap f, u.place.text = text := by
  intro u hu
  obtain ⟨t, ht, hu⟩ := List.mem_flatMap.mp hu
  obtain ⟨w, hw⟩ := hfwd t u hu
  exact hw.text_eq.trans (hthreads t ht)

theorem exactRounds_retains (h : KeepsBest body f) (hfwd : Forward f) (hblind : Blind f) (n : Nat)
    {text : List Char} {threads : List Thread} (hthreads : ∀ t ∈ threads, t.place.text = text) :
    Retains (exactRounds body n threads) (threads.flatMap (Ways.exactRounds f n)) := by
  induction n generalizing threads with
  | zero => exact .of_eq (by simp [exactRounds, Ways.exactRounds])
  | succ n ih =>
    cases threads with
    | nil => exact .of_eq rfl
    | cons t threads =>
      have hround := (Retains.flatMap (keepsBest_iff.mp h) (t :: threads)).dropWorse
      have htext := hfwd.text_eq hthreads
      have hrest := ih fun u hu => htext u (hround.sound u hu)
      have hfollow := hrest.trans (hround.follow (hblind.exactRounds n) htext)
      rwa [List.flatMap_assoc] at hfollow

/-- The threads that leave a repetition after the rounds that it asks for. -/
def afterRounds (body : Thread → List Thread) (greedy : Bool) (lo : Nat) (hi : Option Nat)
    (threads : List Thread) : Rounds :=
  match hi with
  | none => threads.foldl (Rounds.anyFrom body greedy) .none
  | some hi => threads.foldl (Rounds.upToFrom body greedy (hi - lo)) .none

theorem afterRounds_grows (h : KeepsBest body f) (hfwd : Forward f) (hblind : Blind f)
    (greedy : Bool) (lo : Nat) {hi : Option Nat}
    (hcons : hi = none → ∀ t, ∀ u ∈ f t, u.place.rest.length < t.place.rest.length)
    {text : List Char} {threads : List Thread} (hthreads : ∀ t ∈ threads, t.place.text = text) :
    Grows (fun _ => True) (threads.flatMap (Ways.furtherRounds f greedy lo hi)) .none
      (afterRounds body greedy lo hi threads) := by
  cases hi with
  | none =>
    refine (Grows.foldl (I := Closed (fun _ => Ways.anyRounds f greedy) (fun b => 0 ≤ b.2) text)
      (fun r hr t ht => ?_) ?_).2
    · have htext := hthreads t ht
      obtain ⟨hgrow, hkeep⟩ := anyFrom_grows h hfwd hblind (hcons rfl) greedy t r
        (htext ▸ hr.mono fun b _ => Nat.zero_le _)
      exact ⟨htext ▸ hkeep 0 (Nat.zero_le _) (htext ▸ hr), hgrow.mono fun _ _ => trivial⟩
    · intro n t _ _ hbegun
      exact absurd hbegun List.not_mem_nil
  | some hi =>
    refine (Grows.foldl
      (I := Closed (fun n => Ways.upToRounds f greedy (n + 1)) (fun b => b.1 < hi - lo) text)
      (fun r hr t ht => ?_) ?_).2
    · have htext := hthreads t ht
      obtain ⟨hgrow, hkeep⟩ := upToFrom_grows h hfwd hblind greedy (hi - lo) t r (htext ▸ hr)
      exact ⟨htext ▸ hkeep _ (Nat.le_refl _) (htext ▸ hr), hgrow.mono fun _ _ => trivial⟩
    · intro n t _ _ hbegun
      exact absurd hbegun List.not_mem_nil

/-- A repetition loses no place and no best way if its body does not. -/
theorem rounds_retains (h : KeepsBest body f) (hfwd : Forward f) (hblind : Blind f)
    (greedy : Bool) (lo : Nat) {hi : Option Nat}
    (hcons : hi = none → ∀ t, ∀ u ∈ f t, u.place.rest.length < t.place.rest.length)
    {text : List Char} {threads : List Thread} (hthreads : ∀ t ∈ threads, t.place.text = text) :
    Retains (afterRounds body greedy lo hi (exactRounds body lo threads)).threads
      (threads.flatMap fun t =>
        (Ways.exactRounds f lo t).flatMap (Ways.furtherRounds f greedy lo hi)) := by
  have htext := Forward.text_eq (hfwd.exactRounds lo) hthreads
  have hexact := exactRounds_retains h hfwd hblind lo hthreads
  have hgrow := afterRounds_grows h hfwd hblind greedy lo hcons fun t ht =>
    htext t (hexact.sound t ht)
  rw [← List.flatMap_assoc]
  exact hgrow.retains.trans (hexact.follow (hblind.furtherRounds greedy lo hi) htext)

end Rounds

/-! ## Plain expressions -/

theorem ends_iter (e : Expr) (lo : Nat) (hi : Option Nat) (greedy : Bool) (threads : List Thread) :
    (Expr.iter e lo hi greedy).ends threads =
      (afterRounds (fun t => e.ends [t]) greedy lo hi
        (exactRounds (fun t => e.ends [t]) lo threads)).threads := by
  cases hi with
  | none => rfl
  | some hi => rfl

theorem filterMap_consume? (threads : List Thread) (test : Char → Bool) :
    threads.filterMap (fun t => t.consume? test) =
      threads.flatMap fun t => (t.consume? test).toList := by
  induction threads with
  | nil => rfl
  | cons t threads ih =>
    rw [List.filterMap_cons, List.flatMap_cons, ← ih]
    cases t.consume? test <;> rfl

theorem filter_satisfies (threads : List Thread) (a : Anchor) :
    (Expr.anchor a).ends threads = threads.flatMap (Expr.anchor a).ways := by
  induction threads with
  | nil => rfl
  | cons t threads ih =>
    rw [List.flatMap_cons, ← ih]
    simp only [Expr.ends, Expr.ways, List.filter_cons]
    split <;> rfl

theorem text_singleton (t : Thread) : ∀ u ∈ [t], u.place.text = t.place.text :=
  fun u hu => by rw [List.mem_singleton.mp hu]

/-- What holds of the ends of any threads of one text holds of those of one thread. -/
theorem ends_retains_one {e : Expr}
    (h : ∀ {text : List Char} {threads : List Thread}, (∀ t ∈ threads, t.place.text = text) →
      Retains (e.ends threads) (threads.flatMap e.ways)) (t : Thread) :
    Retains (e.ends [t]) (e.ways t) := by
  simpa only [List.flatMap_singleton] using h (text_singleton t)

/-- The threads that `ends` lists are ways, and of all ways to a place the best one is the first
that `ends` lists there; the places come in the order of the ways. -/
theorem ends_retains {asked : List Nat} {e : Expr} (hplain : e.isPlain asked = true)
    (hsteady : e.isSteady = true) {text : List Char} {threads : List Thread}
    (hthreads : ∀ t ∈ threads, t.place.text = text) :
    Retains (e.ends threads) (threads.flatMap e.ways) := by
  induction e generalizing text threads with
  | empty => exact .of_eq (by simp [Expr.ends, Expr.ways])
  | char c ignoreCase => exact .of_eq (filterMap_consume? threads _)
  | any lineFeed => exact .of_eq (filterMap_consume? threads _)
  | set s => exact .of_eq (filterMap_consume? threads _)
  | anchor a => exact .of_eq (filter_satisfies threads a)
  | seq a b iha ihb =>
    simp only [Expr.isPlain, Expr.isSteady, Bool.and_eq_true] at hplain hsteady
    have ha := iha hplain.1 hsteady.1 hthreads
    have hways := (ways_reads a).text_eq hthreads
    have hb := ihb hplain.2 hsteady.2 fun t ht => hways t (ha.sound t ht)
    -- `b` goes on from the places of `a`, so the threads that `a` drops are not missed
    have hfollow := hb.trans (ha.follow (ways_places b) hways)
    rwa [List.flatMap_assoc] at hfollow
  | alt a b iha ihb =>
    simp only [Expr.isPlain, Expr.isSteady, Bool.and_eq_true] at hplain hsteady
    have ha := ends_retains_one fun h => iha hplain.1 hsteady.1 h
    have hb := ends_retains_one fun h => ihb hplain.2 hsteady.2 h
    exact (Retains.flatMap (fun t => (ha t).append (hb t)) threads).dropWorse
  | group n e ih =>
    simp only [Expr.isPlain, Expr.isSteady, Bool.and_eq_true] at hplain hsteady
    have he := ends_retains_one fun h => ih hplain.2 hsteady h
    have hmap (t : Thread) := (he t).map (·.remember n t.place.pos) fun _ => rfl
    exact (Retains.flatMap hmap threads).dropWorse
  | iter e lo hi greedy ih =>
    simp only [Expr.isPlain, Expr.isSteady, Bool.and_eq_true] at hplain hsteady
    have he := ends_retains_one fun h => ih hplain hsteady.1.1 h
    rw [ends_iter]
    refine rounds_retains (keepsBest_iff.mpr he) (ways_reads e) (ways_places e) greedy lo ?_
      hthreads
    rintro rfl t u hu
    exact ways_consume (by simpa using hsteady.2) hu
  | look side negated e | backref n | atomic e | keepOut =>
    exact absurd hplain (by simp [Expr.isPlain])

/-- The first thread that `ends` lists is the best way. -/
theorem head?_ends {asked : List Nat} {e : Expr} (hplain : e.isPlain asked = true)
    (hsteady : e.isSteady = true) (t : Thread) : (e.ends [t]).head? = (e.ways t).head? := by
  have hretains := ends_retains_one (fun h => ends_retains hplain hsteady h) t
  rw [← head?_eq, hretains.best, head?_eq]

end MockHttp.Regex
