import MockHttp.Proofs.Traced
import MockHttp.Template.Store

/-!
# The store makes no difference

A store answers every question as if it compiled each template anew. The invariant is
`Store.IsFaithful`: what a key finds is the compiled form of the template of the key under the flags
of the key. Every operation keeps it, whatever is found, inserted, given up or cleared.

Results:
1. `Store.compile_spec`: what compiling through a store gives and what it leaves behind.
2. `Store.matchAny_spec`: the same for a match with a route pattern.
3. `Store.answers_eq`: after any history, under any capacity, the answers are those that are given
   without a store.
-/

namespace MockHttp.Template

/-- Taking out the entries of a key does not change what other keys find. -/
theorem lookup_filter {α β : Type} [DecidableEq α] {key key' : α} (hne : key ≠ key')
    (entries : List (α × β)) : (entries.filter (·.1 != key')).lookup key = entries.lookup key := by
  induction entries with
  | nil => rfl
  | cons entry entries ih =>
    by_cases hentry : entry.1 = key'
    · rw [List.filter_cons_of_neg (by simpa using hentry), ih, List.lookup_cons,
        beq_false_of_ne (hentry ▸ hne)]
    · rw [List.filter_cons_of_pos (by simpa using hentry), List.lookup_cons, List.lookup_cons, ih]

/-! ## Answers without a store -/

/-- The first match of a text with some templates, each of which is compiled for the purpose. The
first error ends the search. -/
def firstMatch (options : Options) (uri : String) (exact : Bool) :
    List String → Except PatternError (Option RouteMatch)
  | [] => .ok none
  | template :: rest => do
    let pattern ← (Source.template template.toList).compile options
    match ← pattern.matchText template uri exact with
    | some m => return some m
    | none => firstMatch options uri exact rest

/-- The first of several templates is matched by itself, and the others if it does not match. -/
theorem firstMatch_cons (options : Options) (uri : String) (exact : Bool) (template : String)
    (rest : List String) :
    firstMatch options uri exact (template :: rest) =
      match firstMatch options uri exact [template] with
      | .error e => .error e
      | .ok (some m) => .ok (some m)
      | .ok none => firstMatch options uri exact rest := by
  rw [firstMatch, firstMatch, firstMatch]
  cases (Source.template template.toList).compile options with
  | error e => rfl
  | ok pattern =>
    simp only [bind, Except.bind]
    cases pattern.matchText template uri exact with
    | error e => rfl
    | ok found =>
      cases found with
      | none => rfl
      | some m => rfl

/-- A template that compiles is matched with what it compiles to. -/
theorem firstMatch_singleton {options : Options} {template : String} {pattern : Pattern}
    (h : (Source.template template.toList).compile options = .ok pattern) (uri : String)
    (exact : Bool) :
    firstMatch options uri exact [template] = pattern.matchText template uri exact := by
  rw [firstMatch, h]
  simp only [bind, Except.bind]
  cases pattern.matchText template uri exact with
  | error e => rfl
  | ok found =>
    cases found with
    | none => rfl
    | some m => rfl

/-- The first match of a text with a route pattern, without a store. -/
def RoutePattern.evaluate (p : RoutePattern) (uri : String) :
    Except PatternError (Option RouteMatch) :=
  firstMatch { stop := p.exact, strict := p.strict, sensitive := p.sensitive } uri p.exact p.paths

/-- What can be asked of a store. -/
inductive Operation where
  | compile (template : String) (flags : MatchFlags)
  | matchPath (uri : String) (pattern : RoutePattern)
  | clear

inductive Answer where
  | pattern (found : Except PatternError Pattern)
  | firstMatch (found : Except PatternError (Option RouteMatch))
  | done

/-- The answer that is given without a store. -/
def Operation.answer : Operation → Answer
  | compile template flags =>
    .pattern ((Source.template template.toList).compile
      { stop := flags.stop, strict := flags.strict, sensitive := flags.sensitive })
  | matchPath uri pattern => .firstMatch (pattern.evaluate uri)
  | clear => .done

namespace Store

def perform (s : Store) : Operation → Store × Answer
  | .compile template flags =>
    let (s, found) := (s.compile template flags).value
    (s, .pattern (found.map (·.pattern)))
  | .matchPath uri pattern =>
    let (s, found) := (s.matchPath uri pattern).value
    (s, .firstMatch found)
  | .clear => (s.clear, .done)

def after (s : Store) (ops : List Operation) : Store :=
  ops.foldl (fun s op => (s.perform op).1) s

/-- The answers to some operations, one after the other. -/
def answers (s : Store) : List Operation → List Answer
  | [] => []
  | op :: ops => (s.perform op).2 :: (s.perform op).1.answers ops

/-! ## The invariant -/

/-- Every template that is kept is the compiled form of its key. -/
def IsFaithful (s : Store) : Prop :=
  ∀ key c, (key, c) ∈ s.entries → key.flags.compile key.template = .ok c.pattern

namespace IsFaithful

variable {s : Store}

theorem new (capacity : Nat) : (Store.new capacity).IsFaithful :=
  fun _ _ h => absurd h List.not_mem_nil

theorem clear : s.clear.IsFaithful := fun _ _ h => absurd h List.not_mem_nil

theorem miss (h : s.IsFaithful) : s.miss.IsFaithful := h

/-- What a key finds is its compiled form. -/
theorem find? (h : s.IsFaithful) {key : StoreKey} {c : Compiled} (hfind : s.find? key = some c) :
    key.flags.compile key.template = .ok c.pattern := by
  obtain ⟨before, after, hentries, _⟩ := List.lookup_eq_some_iff.mp hfind
  exact h key c (hentries ▸ List.mem_append_right before List.mem_cons_self)

theorem hit (h : s.IsFaithful) {key : StoreKey} {c : Compiled} (hfind : s.find? key = some c) :
    (s.hit key c).IsFaithful := by
  intro k d hmem
  rcases List.mem_cons.mp hmem with heq | hmem
  · obtain ⟨rfl, rfl⟩ := Prod.mk.inj heq
    exact h.find? hfind
  · exact h k d (List.mem_filter.mp hmem).1

theorem insert (h : s.IsFaithful) {key : StoreKey} {p : Pattern}
    (hp : key.flags.compile key.template = .ok p) : (s.insert key p).IsFaithful := by
  intro k d hmem
  rcases List.mem_cons.mp hmem with heq | hmem
  · obtain ⟨rfl, rfl⟩ := Prod.mk.inj heq
    exact hp
  · exact h k d (List.mem_of_mem_take hmem)

end IsFaithful

/-! ## Operations -/

section Compile

variable {s : Store} {template : String} {flags : MatchFlags}

theorem compile_of_found {c : Compiled} (h : s.find? ⟨flags, template⟩ = some c) :
    (s.compile template flags).value = (s.hit ⟨flags, template⟩ c, .ok c) := by
  unfold Store.compile
  simp only [h]
  rfl

theorem compile_of_error {e : PatternError} (h : s.find? ⟨flags, template⟩ = none)
    (he : flags.compile template = .error e) :
    (s.compile template flags).value = (s.miss, .error e) := by
  unfold Store.compile
  simp only [h, he]
  rfl

theorem compile_of_ok {p : Pattern} (h : s.find? ⟨flags, template⟩ = none)
    (hp : flags.compile template = .ok p) :
    (s.compile template flags).value =
      (s.miss.insert ⟨flags, template⟩ p, .ok ⟨s.compiled, p⟩) := by
  unfold Store.compile
  simp only [h, hp]
  cases s.miss.victim? with
  | none => rfl
  | some evicted => rfl

/-- Where a store answers with an error, nothing but the number of misses has changed. -/
theorem eq_miss_of_compile {s' : Store} {e : PatternError}
    (h : (s.compile template flags).value = (s', .error e)) : s' = s.miss := by
  cases hfind : s.find? ⟨flags, template⟩ with
  | some c =>
    rw [compile_of_found hfind] at h
    exact absurd (Prod.mk.inj h).2 (by simp)
  | none =>
    cases hcompile : flags.compile template with
    | error e' =>
      rw [compile_of_error hfind hcompile] at h
      exact (Prod.mk.inj h).1.symm
    | ok p =>
      rw [compile_of_ok hfind hcompile] at h
      exact absurd (Prod.mk.inj h).2 (by simp)

/-- Compiling through a faithful store gives the compiled form or the error of compiling, and leaves
a faithful store. -/
theorem compile_spec (h : s.IsFaithful) (template : String) (flags : MatchFlags) :
    (s.compile template flags).value.1.IsFaithful ∧
      (s.compile template flags).value.2.map (·.pattern) = flags.compile template := by
  cases hfind : s.find? ⟨flags, template⟩ with
  | some c =>
    rw [compile_of_found hfind]
    exact ⟨h.hit hfind, (h.find? hfind).symm⟩
  | none =>
    cases hcompile : flags.compile template with
    | error e =>
      rw [compile_of_error hfind hcompile]
      exact ⟨h.miss, rfl⟩
    | ok p =>
      rw [compile_of_ok hfind hcompile]
      have hkey : (⟨flags, template⟩ : StoreKey).flags.compile template = .ok p := hcompile
      exact ⟨h.miss.insert hkey, rfl⟩

end Compile

/-- One template is compiled, and the others are only asked for where it does not match. -/
theorem matchAny_cons (s : Store) (uri : String) (flags : MatchFlags) (template : String)
    (rest : List String) :
    (s.matchAny uri flags (template :: rest)).value =
      match (s.compile template flags).value with
      | (s', .error e) => (s', .error e)
      | (s', .ok c) =>
        match c.pattern.matchText template uri flags.stop with
        | .error e => (s', .error e)
        | .ok (some m) => (s', .ok (some m))
        | .ok none => (s'.matchAny uri flags rest).value := by
  rw [matchAny, Traced.value_bind]
  obtain ⟨s', found⟩ := (s.compile template flags).value
  cases found with
  | error e => rfl
  | ok c =>
    dsimp only
    cases c.pattern.matchText template uri flags.stop with
    | error e => rfl
    | ok found =>
      cases found with
      | none => rfl
      | some m => rfl

/-- The first match through a faithful store is the first match without it, and the store stays
faithful. -/
theorem matchAny_spec {s : Store} (h : s.IsFaithful) (uri : String) (flags : MatchFlags)
    (templates : List String) :
    (s.matchAny uri flags templates).value.1.IsFaithful ∧
      (s.matchAny uri flags templates).value.2 =
        firstMatch flags.options uri flags.stop templates := by
  induction templates generalizing s with
  | nil => exact ⟨h, rfl⟩
  | cons template templates ih =>
    obtain ⟨hkeep, hpattern⟩ := compile_spec h template flags
    rw [matchAny_cons, firstMatch]
    rw [show (Source.template template.toList).compile flags.options = flags.compile template
      from rfl, ← hpattern]
    -- the store has changed, and is as faithful as it was
    revert hkeep
    obtain ⟨s', found⟩ := (s.compile template flags).value
    intro hkeep
    cases found with
    | error e => exact ⟨hkeep, rfl⟩
    | ok c =>
      simp only [Except.map, bind, Except.bind]
      cases c.pattern.matchText template uri flags.stop with
      | error e => exact ⟨hkeep, rfl⟩
      | ok found =>
        cases found with
        | none => exact ih hkeep
        | some m => exact ⟨hkeep, rfl⟩

theorem perform_spec {s : Store} (h : s.IsFaithful) (op : Operation) :
    (s.perform op).1.IsFaithful ∧ (s.perform op).2 = op.answer := by
  cases op with
  | compile template flags =>
    obtain ⟨hkeep, hpattern⟩ := compile_spec h template flags
    exact ⟨hkeep, congrArg Answer.pattern hpattern⟩
  | matchPath uri pattern =>
    obtain ⟨hkeep, hmatch⟩ := matchAny_spec h uri pattern.flags pattern.paths
    exact ⟨hkeep, congrArg Answer.firstMatch hmatch⟩
  | clear => exact ⟨.clear, rfl⟩

theorem after_isFaithful {s : Store} (h : s.IsFaithful) (ops : List Operation) :
    (s.after ops).IsFaithful := by
  induction ops generalizing s with
  | nil => exact h
  | cons op ops ih => exact ih (perform_spec h op).1

theorem answers_eq_map {s : Store} (h : s.IsFaithful) (ops : List Operation) :
    s.answers ops = ops.map Operation.answer := by
  induction ops generalizing s with
  | nil => rfl
  | cons op ops ih =>
    obtain ⟨hkeep, hanswer⟩ := perform_spec h op
    rw [answers, hanswer, ih hkeep, List.map_cons]

/-- Whatever a store was asked before, and however few templates it keeps, it answers as if it
compiled every template anew. So two stores with other capacities and other histories give the same
answers. -/
theorem answers_eq (capacity : Nat) (earlier ops : List Operation) :
    ((Store.new capacity).after earlier).answers ops = ops.map Operation.answer ∧
      ∀ capacity' earlier', ((Store.new capacity).after earlier).answers ops =
        ((Store.new capacity').after earlier').answers ops := by
  have hanswers : ∀ capacity earlier,
      ((Store.new capacity).after earlier).answers ops = ops.map Operation.answer :=
    fun capacity earlier => answers_eq_map (after_isFaithful (.new capacity) earlier) ops
  exact ⟨hanswers capacity earlier, fun capacity' earlier' =>
    (hanswers capacity earlier).trans (hanswers capacity' earlier').symm⟩

end Store

end MockHttp.Template
