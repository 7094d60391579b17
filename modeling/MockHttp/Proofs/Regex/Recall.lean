import MockHttp.Proofs.Regex.Ways

/-!
# What a way remembers

A way leaves the start of the match and the groups remembered before alone, and adds what its own
groups remember. `Recalls` follows this through the parts of an expression whose groups are numbered
from left to right: each part adds the values of its groups, and no later part changes them.

Results:
1. `ways_first`: no way moves the start of the match.
2. `ways_captures`: an expression without groups remembers nothing.
3. `Recalls.silent`, `Recalls.remember`, `Recalls.absent`, `Recalls.trans`: what the parts of an
   expression remember, one after the other.
-/

namespace MockHttp.Regex

/-! ## What no way changes -/

/-- Of both threads the same is seen. -/
def Thread.Agrees {β : Type} (seen : Thread → β) (t u : Thread) : Prop := seen u = seen t

instance {β : Type} (seen : Thread → β) : IsPreorder Thread (Thread.Agrees seen) where
  refl _ := rfl
  trans _ _ _ htm hmu := hmu.trans htm

/-- `f` leads from a thread only to threads of which the same is seen. -/
abbrev Keeps {β : Type} (seen : Thread → β) : (Thread → List Thread) → Prop :=
  Along (Thread.Agrees seen)

/-- Ways keep what neither depends on the place nor is changed by a group of the expression. -/
theorem ways_keep {β : Type} {seen : Thread → β}
    (hmove : ∀ t q, seen { t with place := q } = seen t) {e : Expr}
    (hgroup : ∀ n ∈ e.groupNumbers, ∀ u first, seen (u.remember n first) = seen u) :
    Keeps seen e.ways := by
  refine ways_lead (fun test t u hu => ?_) (fun n hn t m h first => (hgroup n hn m first).trans h)
    fun t m h => (hmove m t.place).trans h
  obtain ⟨c, -, -, heq⟩ := Thread.consume?_eq_some_iff.mp (Option.mem_toList.mp hu)
  rw [heq]
  exact hmove t u.place

/-- No way moves the start of the match. -/
theorem ways_first (e : Expr) : Keeps (·.first) e.ways :=
  ways_keep (fun _ _ => rfl) fun _ _ _ _ => rfl

/-- An expression without groups remembers nothing. -/
theorem ways_captures {e : Expr} (he : e.groupNumbers = []) : Keeps (·.captures) e.ways :=
  ways_keep (fun _ _ => rfl) fun n hn => absurd (he ▸ hn : n ∈ []) List.not_mem_nil

/-! ## The text that a group remembers -/

/-- The characters between two places. -/
theorem Place.Reads.span_text {p q : Place} {w : List Char} (h : p.Reads w q) :
    Span.text ⟨p.pos, q.pos⟩ q.text = w := by
  rw [Span.text, h.text_eq, h.pos_eq, Place.text, h.rest_eq, p.pos_eq]
  simp

namespace Thread

/-- The text that a group remembers. -/
def remembered (t : Thread) (n : Nat) : Option (List Char) :=
  (t.capture? n).map fun c => Span.text ⟨c.first, c.last⟩ t.place.text

/-- Only groups up to `g` are remembered. -/
def IsBelow (t : Thread) (g : Nat) : Prop := ∀ c ∈ t.captures, c.group ≤ g

theorem remembered_eq_none {t : Thread} {g n : Nat} (ht : t.IsBelow g) (hn : g < n) :
    t.remembered n = none := by
  have hnone : t.capture? n = none := by
    refine List.find?_eq_none.mpr fun c hc => ?_
    have hle := ht c hc
    simp only [beq_iff_eq]
    omega
  rw [remembered, hnone]
  rfl

theorem remembered_congr {t u : Thread} (hcaptures : u.captures = t.captures)
    (htext : u.place.text = t.place.text) (n : Nat) : u.remembered n = t.remembered n := by
  rw [remembered, remembered, capture?, capture?, hcaptures, htext]

end Thread

/-- From one thread to another, the groups after the first `g` remember the values, in order, and
those before are left alone. -/
structure Recalls (g : Nat) (values : List (Option (List Char))) (t u : Thread) : Prop where
  text_eq : u.place.text = t.place.text
  isBelow : u.IsBelow (g + values.length)
  kept : ∀ n ≤ g, u.remembered n = t.remembered n
  recalled : ∀ i v, values[i]? = some v → u.remembered (g + 1 + i) = v

namespace Recalls

variable {g : Nat} {values values' : List (Option (List Char))} {t m u : Thread} {w : List Char}

/-- Nothing is remembered. -/
theorem silent (ht : t.IsBelow g) (hcaptures : u.captures = t.captures)
    (hw : t.place.Reads w u.place) : Recalls g [] t u where
  text_eq := hw.text_eq
  isBelow := fun c hc => ht c (hcaptures ▸ hc)
  kept := fun n _ => Thread.remembered_congr hcaptures hw.text_eq n
  recalled := fun i v hv => absurd hv (by simp)

/-- One group remembers what was read. -/
theorem remember (ht : t.IsBelow g) (hcaptures : m.captures = t.captures)
    (hw : t.place.Reads w m.place) : Recalls g [some w] t (m.remember (g + 1) t.place.pos) where
  text_eq := hw.text_eq
  isBelow := by
    intro c hc
    rcases List.mem_cons.mp hc with rfl | hc
    · exact Nat.le_refl _
    · exact Nat.le_succ_of_le (ht c (hcaptures ▸ hc))
  kept := by
    intro n hn
    have hne : (g + 1 == n) = false := beq_false_of_ne (by omega)
    rw [Thread.remembered, Thread.remembered, Thread.capture?, Thread.remember, List.find?_cons,
      hne, hcaptures, hw.text_eq]
    rfl
  recalled := by
    intro i v hv
    cases i with
    | succ i => exact absurd hv (by simp)
    | zero =>
      have hself : (g + 1 == g + 1 + 0) = true := beq_self_eq_true _
      rw [Thread.remembered, Thread.capture?, Thread.remember, List.find?_cons, hself]
      simp only [Option.map_some, hw.span_text]
      simpa using hv

/-- A group is passed over. -/
theorem absent (ht : t.IsBelow g) : Recalls g [none] t t where
  text_eq := rfl
  isBelow := fun c hc => Nat.le_succ_of_le (ht c hc)
  kept := fun _ _ => rfl
  recalled := by
    intro i v hv
    cases i with
    | succ i => exact absurd hv (by simp)
    | zero =>
      obtain rfl : none = v := by simpa using hv
      exact Thread.remembered_eq_none ht (Nat.lt_succ_self g)

theorem trans (h : Recalls g values t m) (h' : Recalls (g + values.length) values' m u) :
    Recalls g (values ++ values') t u where
  text_eq := h'.text_eq.trans h.text_eq
  isBelow := by
    rw [List.length_append, ← Nat.add_assoc]
    exact h'.isBelow
  kept := fun n hn => (h'.kept n (Nat.le_add_right_of_le hn)).trans (h.kept n hn)
  recalled := by
    intro i v hv
    by_cases hi : i < values.length
    · rw [List.getElem?_append_left hi] at hv
      rw [h'.kept _ (by omega)]
      exact h.recalled i v hv
    · rw [List.getElem?_append_right (Nat.le_of_not_lt hi)] at hv
      have hindex : g + 1 + i = g + values.length + 1 + (i - values.length) := by omega
      rw [hindex]
      exact h'.recalled _ v hv

end Recalls

end MockHttp.Regex
