import MockHttp.Proofs.Regex.Sense

/-!
# Expressions that lead further

One expression is within another if it leads to no place that the other one does not lead to, which
is weaker than leading there in the same order. What is put together from expressions keeps to this
order.

Results:
1. `Within.iter`, `Within.ofSeq`: repetitions and sequences.
2. `Within.char_of_case`: a character is within the same character with case ignored.
-/

namespace MockHttp.Regex

def LeadsWithin (f g : Thread → List Thread) : Prop :=
  ∀ t, ∀ q ∈ places (f t), q ∈ places (g t)

namespace LeadsWithin

variable {f f' g g' : Thread → List Thread}

theorem flatMap (hf : LeadsWithin f f') (hg : LeadsWithin g g') (hblind : Blind g') :
    LeadsWithin (fun t => (f t).flatMap g) fun t => (f' t).flatMap g' := by
  intro t q hq
  obtain ⟨m, hm, hq⟩ := mem_places_flatMap.mp hq
  obtain ⟨m', hm', hplace⟩ := List.mem_map.mp (hf t m.place (List.mem_map_of_mem hm))
  refine mem_places_flatMap.mpr ⟨m', hm', ?_⟩
  rw [hblind m' m hplace]
  exact hg m q hq

theorem exactRounds (hf : LeadsWithin f f') (hblind : Blind f') (n : Nat) :
    LeadsWithin (Ways.exactRounds f n) (Ways.exactRounds f' n) := by
  induction n with
  | zero => exact fun t q hq => hq
  | succ n ih => exact hf.flatMap ih (hblind.exactRounds n)

theorem upToRounds (hf : LeadsWithin f f') (hblind : Blind f') (greedy : Bool) (n : Nat) :
    LeadsWithin (Ways.upToRounds f greedy n) (Ways.upToRounds f' greedy n) := by
  induction n with
  | zero => exact fun t q hq => hq
  | succ n ih =>
    intro t q hq
    rw [Ways.upToRounds, mem_places_round] at hq ⊢
    exact hq.imp_right (hf.flatMap ih (hblind.upToRounds greedy n) t q)

theorem anyRounds (hf : LeadsWithin f f') (hblind : Blind f') (greedy : Bool) :
    LeadsWithin (Ways.anyRounds f greedy) (Ways.anyRounds f' greedy) := by
  intro t
  induction t using Thread.induct_rest with
  | step t ih =>
    intro q hq
    rw [Ways.anyRounds, mem_places_round] at hq ⊢
    refine hq.imp_right fun hq => ?_
    obtain ⟨m, hm, hq⟩ := mem_places_flatMap.mp hq
    obtain ⟨m', hm', hplace⟩ := List.mem_map.mp (hf t m.place (List.mem_map_of_mem hm))
    refine mem_places_flatMap.mpr ⟨m', hm', ?_⟩
    split at hq
    · next hless =>
      rw [dif_pos (hplace ▸ hless), hblind.anyRounds greedy m' m hplace]
      exact ih m hless q hq
    · exact absurd hq List.not_mem_nil

theorem furtherRounds (hf : LeadsWithin f f') (hblind : Blind f') (greedy : Bool) (lo : Nat)
    (hi : Option Nat) :
    LeadsWithin (Ways.furtherRounds f greedy lo hi) (Ways.furtherRounds f' greedy lo hi) := by
  cases hi with
  | none => exact hf.anyRounds hblind greedy
  | some hi => exact hf.upToRounds hblind greedy (hi - lo)

theorem consume? {test test' : Char → Bool} (h : ∀ c, test c = true → test' c = true) :
    LeadsWithin (fun t => (t.consume? test).toList) fun t => (t.consume? test').toList := by
  intro t q hq
  obtain ⟨w, hw, c, hc, rfl⟩ := (Leads.consume? test t q).mp hq
  exact (Leads.consume? test' t q).mpr ⟨[c], hw, c, h c hc, rfl⟩

end LeadsWithin

/-- Wherever the first expression leads, the second one leads. -/
def Expr.Within (e e' : Expr) : Prop := LeadsWithin e.ways e'.ways

namespace Expr.Within

variable {a a' b b' e e' : Expr}

theorem refl (e : Expr) : e.Within e := fun _ _ hq => hq

theorem group (n : Nat) (h : e.Within e') : (Expr.group n e).Within (.group n e') := by
  have hplaces (e : Expr) (t : Thread) : places ((Expr.group n e).ways t) = places (e.ways t) := by
    simp [places, ways, Thread.remember, Function.comp_def]
  intro t q hq
  rw [hplaces] at hq ⊢
  exact h t q hq

theorem iter (h : e.Within e') (lo : Nat) (hi : Option Nat) (greedy : Bool) :
    (Expr.iter e lo hi greedy).Within (.iter e' lo hi greedy) :=
  LeadsWithin.flatMap (h.exactRounds (ways_places e') lo)
    (h.furtherRounds (ways_places e') greedy lo hi)
    ((ways_places e').furtherRounds greedy lo hi)

theorem set {s s' : CharSet} (h : ∀ c, s.contains c = true → s'.contains c = true) :
    (Expr.set s).Within (.set s') := LeadsWithin.consume? h

/-- A character leads further if case is ignored. -/
theorem char_of_case (c : Char) (ic : Bool) : (Expr.char c false).Within (.char c ic) := by
  cases ic with
  | false => exact .refl _
  | true =>
    refine LeadsWithin.consume? fun d hd => ?_
    obtain rfl : c = d := by simpa [accepts] using hd
    simp [accepts, Unicode.sameFold]

theorem ofSeq_append {es es' fs fs' : List Expr} (hes : (ofSeq es).Within (ofSeq es'))
    (hfs : (ofSeq fs).Within (ofSeq fs')) : (ofSeq (es ++ fs)).Within (ofSeq (es' ++ fs')) := by
  intro t q hq
  rw [ways_ofSeq_append] at hq ⊢
  exact LeadsWithin.flatMap hes hfs (ways_places _) t q hq

theorem ofSeq {es es' : List Expr} (h : List.Forall₂ Within es es') :
    (Expr.ofSeq es).Within (.ofSeq es') := by
  induction h with
  | nil => exact .refl _
  | cons he _ ih =>
    have hone : (Expr.ofSeq [_]).Within (.ofSeq [_]) := he
    exact ofSeq_append hone ih

end Expr.Within

end MockHttp.Regex
