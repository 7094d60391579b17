import Mathlib.Computability.Language
import MockHttp.Proofs.Regex.Ways

/-!
# What an expression reads

The ways of an expression say in which order backtracking tries what. Which places they lead to is a
matter of two texts: the one that is read and the one that follows. A `Sense` relates the two, and
every construction of expressions is an operation on senses. Where nothing is asked of the text that
follows, a sense is a formal language, and alternatives, sequences and repetitions are its sums,
products and stars.

Results:
1. `Expr.Means.*`: one rule for each construction.
2. `Expr.Means.iter_any`: a repetition without bound reads the star of what its rounds read.
3. `firstWay_start`, `isSome_ways_start_iff`: an anchored expression has a match in a text if the
   text begins with something that the expression reads there.
-/

namespace MockHttp.Regex

open Computability

/-- Which texts are read when which text follows. -/
abbrev Sense := List Char → List Char → Prop

def oneOf (test : Char → Bool) : Language Char := {w | ∃ c, test c = true ∧ w = [c]}

/-- Any number of characters that pass a test, one after the other. -/
theorem mem_oneOf_kstar {test : Char → Bool} {w : List Char} :
    w ∈ (oneOf test)∗ ↔ ∀ c ∈ w, test c = true := by
  constructor
  · intro hw
    obtain ⟨parts, rfl, hparts⟩ := Language.mem_kstar.mp hw
    intro c hc
    obtain ⟨part, hpart, hc⟩ := List.mem_flatten.mp hc
    obtain ⟨d, hd, rfl⟩ := hparts part hpart
    rwa [List.mem_singleton.mp hc]
  · intro hw
    refine Language.mem_kstar.mpr ⟨w.map fun c => [c], ?_, fun part hpart => ?_⟩
    · rw [← List.flatMap_def, List.flatMap_singleton']
    · obtain ⟨c, hc, rfl⟩ := List.mem_map.mp hpart
      exact ⟨c, hw c hc, rfl⟩

theorem mem_oneOf_mul_kstar {test : Char → Bool} {w : List Char} :
    w ∈ oneOf test * (oneOf test)∗ ↔ w ≠ [] ∧ ∀ c ∈ w, test c = true := by
  constructor
  · rintro ⟨_, ⟨c, hc, rfl⟩, v, hv, rfl⟩
    refine ⟨by simp, fun d hd => ?_⟩
    rcases List.mem_cons.mp hd with rfl | hd
    · exact hc
    · exact mem_oneOf_kstar.mp hv d hd
  · rintro ⟨hne, hw⟩
    obtain ⟨c, v, rfl⟩ := List.exists_cons_of_ne_nil hne
    exact ⟨[c], ⟨c, hw c List.mem_cons_self, rfl⟩, v,
      mem_oneOf_kstar.mpr fun d hd => hw d (List.mem_cons_of_mem _ hd), rfl⟩

namespace Sense

/-- The texts of a language, whatever follows. -/
def text (L : Language Char) : Sense := fun w _ => w ∈ L

def andThen (R S : Sense) : Sense := fun w s => ∃ u v, w = u ++ v ∧ R u (v ++ s) ∧ S v s

def orElse (R S : Sense) : Sense := fun w s => R w s ∨ S w s

def atMostOnce (R : Sense) : Sense := fun w s => w = [] ∨ R w s

/-- The text begins with something that is read in the sense of `R`. -/
def Begins (R : Sense) (s : List Char) : Prop := ∃ u rest, s = u ++ rest ∧ R u rest

/-- Nothing, where the text that follows begins in the sense of `R`. -/
def ahead (R : Sense) : Sense := fun w s => w = [] ∧ R.Begins s

/-- Nothing, where nothing follows. -/
def atEnd : Sense := fun w s => w = [] ∧ s = []

theorem text_andThen (K L : Language Char) : (text K).andThen (text L) = text (K * L) := by
  funext w s
  refine propext ⟨?_, ?_⟩
  · rintro ⟨u, v, rfl, hu, hv⟩
    exact Language.append_mem_mul hu hv
  · rintro ⟨u, hu, v, hv, rfl⟩
    exact ⟨u, v, rfl, hu, hv⟩

theorem begins_andThen {R S : Sense} {s : List Char} :
    (R.andThen S).Begins s ↔ ∃ u rest, s = u ++ rest ∧ R u rest ∧ S.Begins rest := by
  constructor
  · rintro ⟨_, rest, rfl, u, v, rfl, hR, hS⟩
    exact ⟨u, v ++ rest, List.append_assoc u v rest, hR, v, rest, rfl, hS⟩
  · rintro ⟨u, _, rfl, hR, v, rest, rfl, hS⟩
    exact ⟨u ++ v, rest, (List.append_assoc u v rest).symm, u, v, rfl, hR, hS⟩

theorem begins_atMostOnce_andThen {R S : Sense} {s : List Char} :
    (R.atMostOnce.andThen S).Begins s ↔ S.Begins s ∨ (R.andThen S).Begins s := by
  rw [begins_andThen, begins_andThen]
  constructor
  · rintro ⟨u, rest, rfl, rfl | hR, hS⟩
    · exact .inl hS
    · exact .inr ⟨u, rest, rfl, hR, hS⟩
  · rintro (hS | ⟨u, rest, rfl, hR, hS⟩)
    · exact ⟨[], s, rfl, .inl rfl, hS⟩
    · exact ⟨u, rest, rfl, .inr hR, hS⟩

theorem begins_text {w s : List Char} : (text {w}).Begins s ↔ w <+: s := by
  constructor
  · rintro ⟨u, rest, rfl, rfl⟩
    exact List.prefix_append u rest
  · rintro ⟨rest, rfl⟩
    exact ⟨w, rest, rfl, rfl⟩

theorem begins_atEnd {s : List Char} : atEnd.Begins s ↔ s = [] := by
  constructor
  · rintro ⟨u, rest, rfl, rfl, rfl⟩
    rfl
  · rintro rfl
    exact ⟨[], [], rfl, rfl, rfl⟩

theorem begins_ahead {R : Sense} {s : List Char} : R.ahead.Begins s ↔ R.Begins s := by
  constructor
  · rintro ⟨u, rest, rfl, rfl, hR⟩
    exact hR
  · exact fun hR => ⟨[], s, rfl, rfl, hR⟩

theorem begins_orElse {R S : Sense} {s : List Char} :
    (R.orElse S).Begins s ↔ R.Begins s ∨ S.Begins s := by
  simp only [Begins, orElse, and_or_left, exists_or]

theorem begins_text_andThen {w s : List Char} {R : Sense} :
    ((text {w}).andThen R).Begins s ↔ ∃ rest, s = w ++ rest ∧ R.Begins rest := by
  rw [begins_andThen]
  constructor
  · rintro ⟨u, rest, rfl, rfl, hR⟩
    exact ⟨rest, rfl, hR⟩
  · rintro ⟨rest, rfl, hR⟩
    exact ⟨w, rest, rfl, rfl, hR⟩

theorem Begins.left {R S : Sense} {s : List Char} (h : (R.andThen S).Begins s) : R.Begins s := by
  obtain ⟨u, rest, hs, hR, -⟩ := begins_andThen.mp h
  exact ⟨u, rest, hs, hR⟩

end Sense

/-! ## Functions that lead on in a sense -/

/-- `f` leads to the places that are reached by reading something in the sense of `R`. -/
def Leads (f : Thread → List Thread) (R : Sense) : Prop :=
  ∀ t q, q ∈ places (f t) ↔ ∃ w, t.place.Reads w q ∧ R w q.rest

theorem mem_places_flatMap {l : List Thread} {g : Thread → List Thread} {q : Place} :
    q ∈ places (l.flatMap g) ↔ ∃ u ∈ l, q ∈ places (g u) := by
  simp only [places, List.map_flatMap, List.mem_flatMap]

theorem mem_places_round {t : Thread} {more : List Thread} {greedy : Bool} {q : Place} :
    q ∈ places (if greedy then more ++ [t] else t :: more) ↔ q = t.place ∨ q ∈ places more := by
  simp only [places, List.mem_map, Ways.mem_ite]
  constructor
  · rintro ⟨u, rfl | hu, rfl⟩
    · exact .inl rfl
    · exact .inr ⟨u, hu, rfl⟩
  · rintro (rfl | ⟨u, hu, rfl⟩)
    · exact ⟨t, .inl rfl, rfl⟩
    · exact ⟨u, .inr hu, rfl⟩

namespace Leads

variable {f g : Thread → List Thread} {R S : Sense} {L : Language Char}

theorem pure : Leads (fun t => [t]) (.text 1) := by
  intro t q
  simp only [places, List.map_singleton, List.mem_singleton]
  constructor
  · rintro rfl
    exact ⟨[], .refl _, rfl⟩
  · rintro ⟨w, hw, rfl⟩
    exact Place.Reads.nil_iff.mp hw

/-- What `f` leads to is reached by one of its threads. -/
theorem exists_thread (hf : Leads f R) {t : Thread} {w : List Char} {q : Place}
    (hw : t.place.Reads w q) (hR : R w q.rest) : ∃ u ∈ f t, u.place = q :=
  List.mem_map.mp ((hf t q).mpr ⟨w, hw, hR⟩)

theorem flatMap (hf : Leads f R) (hg : Leads g S) :
    Leads (fun t => (f t).flatMap g) (R.andThen S) := by
  intro t q
  rw [mem_places_flatMap]
  constructor
  · rintro ⟨m, hm, hq⟩
    obtain ⟨u, hu, hR⟩ := (hf t m.place).mp (List.mem_map_of_mem hm)
    obtain ⟨v, hv, hS⟩ := (hg m q).mp hq
    exact ⟨u ++ v, hu.trans hv, u, v, rfl, hv.rest_eq ▸ hR, hS⟩
  · rintro ⟨_, hw, u, v, rfl, hR, hS⟩
    obtain ⟨m, hu, hv⟩ := Place.Reads.append_iff.mp hw
    obtain ⟨n, hn, rfl⟩ := hf.exists_thread hu (hv.rest_eq ▸ hR)
    exact ⟨n, hn, (hg n q).mpr ⟨v, hv, hS⟩⟩

theorem consume? (test : Char → Bool) :
    Leads (fun t => (t.consume? test).toList) (.text (oneOf test)) := by
  intro t q
  simp only [places, List.mem_map, Option.mem_toList]
  constructor
  · rintro ⟨u, hu, rfl⟩
    obtain ⟨c, hc, hreads, _⟩ := Thread.consume?_eq_some_iff.mp hu
    exact ⟨[c], hreads, c, hc, rfl⟩
  · rintro ⟨_, hreads, c, hc, rfl⟩
    exact ⟨{ t with place := q }, Thread.consume?_eq_some_iff.mpr ⟨c, hc, hreads, rfl⟩, rfl⟩

/-- At most one round. -/
theorem upToOne (hf : Leads f R) (greedy : Bool) :
    Leads (Ways.upToRounds f greedy 1) R.atMostOnce := by
  intro t q
  have hone : (f t).flatMap (Ways.upToRounds f greedy 0) = f t := List.flatMap_singleton' _
  rw [Ways.upToRounds, mem_places_round, hone, hf t q]
  constructor
  · rintro (rfl | ⟨w, hw, hR⟩)
    · exact ⟨[], .refl _, .inl rfl⟩
    · exact ⟨w, hw, .inr hR⟩
  · rintro ⟨w, hw, rfl | hR⟩
    · exact .inl (Place.Reads.nil_iff.mp hw)
    · exact .inr ⟨w, hw, hR⟩

/-- Any number of rounds, each of which consumes something. -/
theorem anyRounds (hf : Leads f (.text L))
    (hcons : ∀ t, ∀ u ∈ f t, u.place.rest.length < t.place.rest.length) (greedy : Bool) :
    Leads (Ways.anyRounds f greedy) (.text L∗) := by
  intro t
  induction t using Thread.induct_rest with
  | step t ih =>
    -- either no round is made, or one and then any number from a later place
    intro q
    rw [Ways.anyRounds_eq (hcons t), mem_places_round, mem_places_flatMap]
    constructor
    · rintro (rfl | ⟨u, hu, hq⟩)
      · exact ⟨[], .refl _, Language.nil_mem_kstar L⟩
      · obtain ⟨v, hv, hL⟩ := (hf t u.place).mp (List.mem_map_of_mem hu)
        obtain ⟨w, hw, hstar⟩ := (ih u (hcons t u hu) q).mp hq
        refine ⟨v ++ w, hv.trans hw, ?_⟩
        rw [← Language.one_add_self_mul_kstar_eq_kstar]
        exact .inr (Language.append_mem_mul hL hstar)
    · rintro ⟨w, hw, hstar⟩
      rw [← Language.one_add_self_mul_kstar_eq_kstar] at hstar
      rcases hstar with rfl | ⟨v, hL, x, hstar, rfl⟩
      · exact .inl (Place.Reads.nil_iff.mp hw)
      · obtain ⟨m, hv, hx⟩ := Place.Reads.append_iff.mp hw
        obtain ⟨u, hu, rfl⟩ := hf.exists_thread hv hL
        exact .inr ⟨u, hu, (ih u (hcons t u hu) q).mpr ⟨x, hx, hstar⟩⟩

end Leads

/-! ## Expressions -/

namespace Expr

/-- The expression reads in the sense of `R`. -/
def Means (e : Expr) (R : Sense) : Prop := Leads e.ways R

namespace Means

variable {a b e : Expr} {R S : Sense} {L : Language Char}

theorem empty : empty.Means (.text 1) := Leads.pure

theorem char (c : Char) : (char c false).Means (.text {[c]}) := by
  have hone : oneOf (Expr.char c false).accepts = {[c]} := by
    ext w
    simp only [oneOf, accepts, Bool.false_eq_true, if_false, beq_iff_eq]
    constructor
    · rintro ⟨d, rfl, rfl⟩
      rfl
    · rintro rfl
      exact ⟨c, rfl, rfl⟩
  exact hone ▸ Leads.consume? _

theorem set (s : CharSet) : (set s).Means (.text (oneOf s.contains)) := Leads.consume? _

theorem textEnd : (anchor .textEnd).Means .atEnd := by
  intro t q
  rw [ways]
  constructor
  · intro hq
    split at hq
    · next hend =>
      have hrest : t.place.rest = [] := by simpa [Place.satisfies] using hend
      obtain rfl : q = t.place := by simpa [places] using hq
      exact ⟨[], .refl _, rfl, hrest⟩
    · simp [places] at hq
  · rintro ⟨w, hw, rfl, hrest⟩
    obtain rfl := Place.Reads.nil_iff.mp hw
    simp [places, Place.satisfies, hrest]

theorem alt (ha : a.Means R) (hb : b.Means S) : (a.alt b).Means (R.orElse S) := by
  intro t q
  have hmem : q ∈ places ((a.alt b).ways t) ↔ q ∈ places (a.ways t) ∨ q ∈ places (b.ways t) := by
    rw [ways, places, List.map_append, List.mem_append]
    rfl
  rw [hmem, ha t q, hb t q]
  constructor
  · rintro (⟨w, hw, hR⟩ | ⟨w, hw, hS⟩)
    · exact ⟨w, hw, .inl hR⟩
    · exact ⟨w, hw, .inr hS⟩
  · rintro ⟨w, hw, hR | hS⟩
    · exact .inl ⟨w, hw, hR⟩
    · exact .inr ⟨w, hw, hS⟩

/-- Remembering what was read does not change it. -/
theorem group (n : Nat) (he : e.Means R) : (group n e).Means R := by
  intro t q
  rw [← he t q, ways, places, List.map_map]
  rfl

theorem optional (greedy : Bool) (he : e.Means R) :
    (iter e 0 (some 1) greedy).Means R.atMostOnce := by
  intro t q
  rw [ways, Ways.exactRounds, List.flatMap_singleton]
  exact he.upToOne greedy t q

theorem iter_any (hcons : e.consumes = true) (greedy : Bool) (he : e.Means (.text L)) :
    (iter e 0 none greedy).Means (.text L∗) := by
  intro t q
  rw [ways, Ways.exactRounds, List.flatMap_singleton]
  exact Leads.anyRounds he (fun t u hu => ways_consume hcons hu) greedy t q

theorem iter_some (hcons : e.consumes = true) (greedy : Bool) (he : e.Means (.text L)) :
    (iter e 1 none greedy).Means (.text (L * L∗)) := by
  have hone : Leads (Ways.exactRounds e.ways 1) (.text L) := by
    intro t q
    have hways : Ways.exactRounds e.ways 1 t = e.ways t := List.flatMap_singleton' _
    rw [hways]
    exact he t q
  rw [← Sense.text_andThen]
  exact hone.flatMap (Leads.anyRounds he (fun t u hu => ways_consume hcons hu) greedy)

theorem ahead (he : e.Means R) : (look .ahead false e).Means R.ahead := by
  intro t q
  have hmem : q ∈ places ((look .ahead false e).ways t) ↔ q = t.place ∧ e.ways t ≠ [] := by
    rw [ways, places, List.map_map]
    cases e.ways t with
    | nil => simp
    | cons u l => simp +contextual [eq_comm]
  rw [hmem]
  constructor
  · rintro ⟨rfl, hne⟩
    obtain ⟨u, hu⟩ := List.exists_mem_of_ne_nil _ hne
    obtain ⟨w, hw, hR⟩ := (he t u.place).mp (List.mem_map_of_mem hu)
    exact ⟨[], .refl _, rfl, w, u.place.rest, hw.rest_eq, hR⟩
  · rintro ⟨w, hw, rfl, v, rest, hrest, hR⟩
    obtain rfl := Place.Reads.nil_iff.mp hw
    obtain ⟨m, hm, rfl⟩ := Place.reads_of_rest_eq hrest
    obtain ⟨u, hu, _⟩ := Leads.exists_thread he hm hR
    exact ⟨rfl, List.ne_nil_of_mem hu⟩

end Means

/-- A sequence goes on where its first expression leads to. -/
theorem ways_ofSeq_cons (e : Expr) (es : List Expr) (t : Thread) :
    (ofSeq (e :: es)).ways t = (e.ways t).flatMap (ofSeq es).ways := by
  cases es with
  | nil => exact (List.flatMap_singleton' _).symm
  | cons a es => rfl

theorem ways_ofSeq_append (es fs : List Expr) (t : Thread) :
    (ofSeq (es ++ fs)).ways t = ((ofSeq es).ways t).flatMap (ofSeq fs).ways := by
  induction es generalizing t with
  | nil =>
    rw [List.nil_append, ofSeq, ways, List.flatMap_singleton]
  | cons e es ih =>
    rw [List.cons_append, ways_ofSeq_cons, ways_ofSeq_cons, List.flatMap_assoc]
    exact List.flatMap_congr fun u _ => ih u

theorem Means.ofSeq_append {es fs : List Expr} {R S : Sense} (hes : (ofSeq es).Means R)
    (hfs : (ofSeq fs).Means S) : (ofSeq (es ++ fs)).Means (R.andThen S) := by
  intro t q
  rw [ways_ofSeq_append]
  exact Leads.flatMap hes hfs t q

end Expr

/-! ## Matches at the start of a text -/

variable {es : List Expr} {R : Sense}

theorem ways_anchored (t : Thread) :
    (Expr.ofSeq (.anchor .textStart :: es)).ways t =
      if t.place.past.isEmpty then (Expr.ofSeq es).ways t else [] := by
  rw [Expr.ways_ofSeq_cons, Expr.ways, Place.satisfies]
  split
  · exact List.flatMap_singleton _ _
  · rfl

/-- The expression has ways from the start of a text only. -/
def Expr.IsAnchored (e : Expr) : Prop := ∀ t : Thread, t.place.past ≠ [] → e.ways t = []

theorem isAnchored_ofSeq (es : List Expr) :
    (Expr.ofSeq (.anchor .textStart :: es)).IsAnchored := by
  intro t ht
  rw [ways_anchored, if_neg (by simpa using ht)]

namespace Expr.IsAnchored

variable {e : Expr}

/-- Away from the start of the text an anchored expression has no way. -/
theorem firstWay_of_past (he : e.IsAnchored) {p : Place} (hp : p.past ≠ []) :
    e.firstWay p = none := by
  fun_induction Expr.firstWay e p with
  | case1 p t l hcons => exact absurd ((he (.start p) hp).symm.trans hcons) (by simp)
  | case2 p hnil hrest => rfl
  | case3 p hnil c rest hrest ih => exact ih (by simp)

/-- Of all places only the start of the text can have a way of an anchored expression. -/
theorem firstWay_eq (he : e.IsAnchored) (text : List Char) :
    e.firstWay (.start text) = (e.ways (.start (.start text))).head? := by
  rw [Expr.firstWay]
  cases e.ways (.start (.start text)) with
  | cons t l => rfl
  | nil =>
    dsimp only
    split
    · rfl
    · exact he.firstWay_of_past (by simp)

end Expr.IsAnchored

/-- The first match of a caret and some expressions is their best way from the start. -/
theorem firstWay_start (es : List Expr) (text : List Char) :
    (Expr.ofSeq (.anchor .textStart :: es)).firstWay (.start text) =
      ((Expr.ofSeq es).ways (.start (.start text))).head? := by
  rw [(isAnchored_ofSeq es).firstWay_eq]
  exact congrArg List.head? (ways_anchored _)

/-- An expression has a way from a thread if the text from there on begins with something that the
expression reads. -/
theorem Expr.Means.ways_ne_nil_iff {e : Expr} (he : e.Means R) (t : Thread) :
    e.ways t ≠ [] ↔ R.Begins t.place.rest := by
  constructor
  · intro hne
    obtain ⟨u, hu⟩ := List.exists_mem_of_ne_nil _ hne
    obtain ⟨w, hw, hR⟩ := (he t u.place).mp (List.mem_map_of_mem hu)
    exact ⟨w, u.place.rest, hw.rest_eq, hR⟩
  · rintro ⟨w, s, htext, hR⟩
    obtain ⟨q, hq, rfl⟩ := Place.reads_of_rest_eq htext
    obtain ⟨u, hu, _⟩ := Leads.exists_thread he hq hR
    exact List.ne_nil_of_mem hu

/-- An expression has a way from the start of a text if the text begins with something that the
expression reads there. -/
theorem isSome_ways_start_iff (hes : (Expr.ofSeq es).Means R) (text : List Char) :
    (((Expr.ofSeq es).ways (.start (.start text))).head?).isSome = true ↔ R.Begins text := by
  rw [List.isSome_head?]
  exact hes.ways_ne_nil_iff (.start (.start text))

end MockHttp.Regex
