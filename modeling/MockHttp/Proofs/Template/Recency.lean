import Mathlib.Data.List.Induction
import MockHttp.Proofs.Template.Store

/-!
# Which templates a store keeps

A store is asked for one template after the other; a match with several templates asks for each one
that it tries. What it keeps is decided by the requests alone: reading those that succeeded since
the last clearing backwards, the store holds the first distinct keys, as many as its capacity
allows, in that order. An object lives as long as its key is among them, and is never built twice
meanwhile.

Results:
1. `after_eq_serve`: operations ask for one template after the other.
2. `keys_serve`: the keys that are held are those asked for last.
3. `find?_serve`: the object of a key stays the same or is given up.
4. `keeps_latest`: what is kept after any history, and which object the next request hands out.
-/

namespace MockHttp.Template

/-! ## First occurrences -/

section FirstOccurrences

variable {α : Type} [DecidableEq α] {a : α} {l : List α} {n : Nat}

theorem eraseDups_filter (keep : α → Bool) (l : List α) :
    (l.filter keep).eraseDups = l.eraseDups.filter keep := by
  cases l with
  | nil => rfl
  | cons a l =>
    have hrest := eraseDups_filter keep (l.filter fun b => !b == a)
    rw [List.eraseDups_cons, List.filter_cons, List.filter_cons, ← hrest, List.filter_filter]
    cases ha : keep a with
    | true =>
      rw [if_pos rfl, if_pos rfl, List.eraseDups_cons, List.filter_filter]
      simp only [Bool.and_comm]
    | false =>
      rw [if_neg (by simp), if_neg (by simp)]
      congr 1
      refine List.filter_congr fun b _ => ?_
      by_cases hb : b = a
      · simp [hb, ha]
      · simp [hb]
termination_by l.length
decreasing_by exact Nat.lt_succ_of_le (List.length_filter_le _ _)

theorem nodup_eraseDups (l : List α) : l.eraseDups.Nodup := by
  cases l with
  | nil => exact List.nodup_nil
  | cons a l =>
    rw [List.eraseDups_cons, List.nodup_cons, List.mem_eraseDups]
    exact ⟨by simp, nodup_eraseDups _⟩
termination_by l.length
decreasing_by exact Nat.lt_succ_of_le (List.length_filter_le _ _)

/-- The list with an element moved or brought to the front. -/
theorem eraseDups_cons_eq (a : α) (l : List α) :
    (a :: l).eraseDups = a :: l.eraseDups.filter (· != a) := by
  rw [List.eraseDups_cons, ← eraseDups_filter]
  rfl

/-- Of a list without repetitions, the part before an element that is taken out of it. -/
theorem filter_take (hl : l.Nodup) (ha : a ∈ l.take (n + 1)) :
    (l.take (n + 1)).filter (· != a) = (l.filter (· != a)).take n := by
  induction l generalizing n with
  | nil => simp
  | cons b l ih =>
    obtain ⟨hb, hl⟩ := List.nodup_cons.mp hl
    by_cases hab : b = a
    · subst hab
      -- the element is the first one, and no other is like it
      have hnone : ∀ m : List α, (∀ c ∈ m, c ∈ l) → m.filter (· != b) = m := fun m hm =>
        List.filter_eq_self.mpr fun c hc => bne_iff_ne.mpr fun h => hb (h ▸ hm c hc)
      rw [List.take_succ_cons, List.filter_cons_of_neg (by simp),
        List.filter_cons_of_neg (by simp), hnone l fun c hc => hc,
        hnone _ fun c hc => List.mem_of_mem_take hc]
    · rw [List.take_succ_cons, List.mem_cons] at ha
      obtain ha := ha.resolve_left (Ne.symm hab)
      rw [List.take_succ_cons, List.filter_cons_of_pos (by simpa using hab),
        List.filter_cons_of_pos (by simpa using hab)]
      cases n with
      | zero => simp at ha
      | succ n => rw [ih hl ha, List.take_succ_cons]

/-- The first elements of a list are not changed by taking out one that comes later. -/
theorem take_filter (ha : a ∉ l.take n) : (l.filter (· != a)).take n = l.take n := by
  induction l generalizing n with
  | nil => rfl
  | cons b l ih =>
    cases n with
    | zero => rfl
    | succ n =>
      rw [List.take_succ_cons, List.mem_cons, not_or] at ha
      rw [List.filter_cons_of_pos (by simpa using Ne.symm ha.1), List.take_succ_cons,
        List.take_succ_cons, ih ha.2]

end FirstOccurrences

/-! ## Requests -/

/-- The template of the key compiles under its flags. -/
def StoreKey.compiles (key : StoreKey) : Bool := (key.flags.compile key.template).isOk

/-- What a store is asked for, one template at a time. -/
inductive StoreRequest where
  /-- The compiled form of a template. -/
  | lookup (key : StoreKey)
  /-- To forget all templates. -/
  | clear
  deriving DecidableEq

/-- The templates that are tried for a match: all up to the first that matches or fails. -/
def tried (uri : String) (flags : MatchFlags) : List String → List String
  | [] => []
  | template :: rest =>
    template :: match flags.compile template with
      | .error _ => []
      | .ok pattern =>
        match pattern.matchText template uri flags.stop with
        | .ok none => tried uri flags rest
        | _ => []

def Operation.requests : Operation → List StoreRequest
  | compile template flags => [.lookup ⟨flags, template⟩]
  | matchPath uri pattern =>
    (tried uri pattern.flags pattern.paths).map fun template => .lookup ⟨pattern.flags, template⟩
  | clear => [.clear]

/-- The keys that were compiled successfully since the last clearing, latest first, each as often as
it was asked for. -/
def recent (requests : List StoreRequest) : List StoreKey :=
  requests.foldl (fun keys request => match request with
    | .lookup key => if key.compiles then key :: keys else keys
    | .clear => []) []

theorem recent_lookup (requests : List StoreRequest) (key : StoreKey) :
    recent (requests ++ [.lookup key]) =
      if key.compiles then key :: recent requests else recent requests := by
  rw [recent, List.foldl_append]
  rfl

theorem recent_clear (requests : List StoreRequest) : recent (requests ++ [.clear]) = [] := by
  rw [recent, List.foldl_append]
  rfl

theorem lookup_mem_of_mem_recent {requests : List StoreRequest} {key : StoreKey}
    (h : key ∈ recent requests) : .lookup key ∈ requests := by
  induction requests using List.reverseRecOn with
  | nil => exact absurd h List.not_mem_nil
  | append_singleton requests request ih =>
    rw [List.mem_append, List.mem_singleton]
    cases request with
    | clear =>
      rw [recent_clear] at h
      exact absurd h List.not_mem_nil
    | lookup key' =>
      rw [recent_lookup] at h
      split at h
      · rcases List.mem_cons.mp h with rfl | h
        · exact .inr rfl
        · exact .inl (ih h)
      · exact .inl (ih h)

/-- What was asked for before a clearing does not count. -/
theorem recent_append (earlier later : List StoreRequest) :
    recent (earlier ++ later) =
      if .clear ∈ later then recent later else recent later ++ recent earlier := by
  induction later using List.reverseRecOn with
  | nil => simp [recent]
  | append_singleton later request ih =>
    rw [← List.append_assoc]
    cases request with
    | clear =>
      rw [recent_clear, recent_clear]
      simp
    | lookup key =>
      have hclear : StoreRequest.clear ∈ later ++ [.lookup key] ↔ .clear ∈ later := by simp
      rw [recent_lookup, recent_lookup, ih]
      simp only [hclear]
      split
      · split
        · rfl
        · rfl
      · rfl

/-- The object has another number than all that were handed out. -/
def Compiled.IsNew (c : Compiled) (handed : List (Option Compiled)) : Prop :=
  ∀ old, some old ∈ handed → old.serial ≠ c.serial

namespace Store

/-- The store after a request, and the object that it hands out. -/
def ask (s : Store) : StoreRequest → Store × Option Compiled
  | .lookup key =>
    let (s, found) := (s.compile key.template key.flags).value
    (s, found.toOption)
  | .clear => (s.clear, none)

def serve (s : Store) (requests : List StoreRequest) : Store :=
  requests.foldl (fun s request => (s.ask request).1) s

/-- What is handed out for some requests, one after the other. -/
def objects (s : Store) : List StoreRequest → List (Option Compiled)
  | [] => []
  | request :: rest => (s.ask request).2 :: (s.ask request).1.objects rest

/-- The keys of the templates that are kept, the one asked for last first. -/
def keys (s : Store) : List StoreKey := s.entries.map (·.1)

theorem serve_append (s : Store) (earlier later : List StoreRequest) :
    s.serve (earlier ++ later) = (s.serve earlier).serve later := List.foldl_append

theorem objects_append (s : Store) (earlier later : List StoreRequest) :
    s.objects (earlier ++ later) = s.objects earlier ++ (s.serve earlier).objects later := by
  induction earlier generalizing s with
  | nil => rfl
  | cons request earlier ih => rw [List.cons_append, objects, ih, objects]; rfl

/-! ## One request -/

theorem find?_isSome_iff {s : Store} {key : StoreKey} : (s.find? key).isSome ↔ key ∈ s.keys := by
  rw [find?, keys, List.lookup_isSome_iff, List.mem_map]
  constructor
  · rintro ⟨entry, hmem, hkey⟩
    exact ⟨entry, hmem, (beq_iff_eq.mp hkey).symm⟩
  · rintro ⟨entry, hmem, rfl⟩
    exact ⟨entry, hmem, beq_self_eq_true _⟩

theorem mem_keys_of_find? {s : Store} {key : StoreKey} {c : Compiled} (h : s.find? key = some c) :
    key ∈ s.keys := find?_isSome_iff.mp (h ▸ rfl)

theorem not_mem_keys_of_find? {s : Store} {key : StoreKey} (h : s.find? key = none) :
    key ∉ s.keys := fun hmem => by
  have hsome := find?_isSome_iff.mpr hmem
  simp [h] at hsome

/-- What a request for a template does: if the template is held, its object is handed out and moves
to the front; otherwise it is compiled, and a new object is handed out and kept in place of the one
asked for least recently. If that fails nothing that is kept changes. -/
theorem ask_lookup {s : Store} (h : s.IsFaithful) (key : StoreKey) :
    (∃ c, s.find? key = some c ∧ key.compiles = true ∧
      s.ask (.lookup key) = (s.hit key c, some c)) ∨
    (∃ p, s.find? key = none ∧ key.compiles = true ∧
      s.ask (.lookup key) = (s.miss.insert key p, some ⟨s.compiled, p⟩)) ∨
    (s.find? key = none ∧ key.compiles = false ∧ s.ask (.lookup key) = (s.miss, none)) := by
  unfold StoreKey.compiles
  cases hfind : s.find? key with
  | some c =>
    refine .inl ⟨c, rfl, ?_, ?_⟩
    · rw [h.find? hfind]
      rfl
    · rw [ask, compile_of_found hfind]
      rfl
  | none =>
    refine .inr ?_
    cases hcompile : key.flags.compile key.template with
    | ok p =>
      refine .inl ⟨p, rfl, rfl, ?_⟩
      rw [ask, compile_of_ok hfind hcompile]
      rfl
    | error e =>
      refine .inr ⟨rfl, rfl, ?_⟩
      rw [ask, compile_of_error hfind hcompile]
      rfl

theorem IsFaithful.ask {s : Store} (h : s.IsFaithful) (request : StoreRequest) :
    (s.ask request).1.IsFaithful := by
  cases request with
  | lookup key => exact (compile_spec h key.template key.flags).1
  | clear => exact .clear

theorem IsFaithful.serve {s : Store} (h : s.IsFaithful) (requests : List StoreRequest) :
    (s.serve requests).IsFaithful := by
  induction requests generalizing s with
  | nil => exact h
  | cons request requests ih => exact ih (h.ask request)

theorem capacity_ask {s : Store} (h : s.IsFaithful) (request : StoreRequest) :
    (s.ask request).1.capacity = s.capacity := by
  cases request with
  | clear => rfl
  | lookup key =>
    obtain ⟨c, -, -, hask⟩ | ⟨p, -, -, hask⟩ | ⟨-, -, hask⟩ := ask_lookup h key
    all_goals
      rw [hask]
      rfl

theorem capacity_serve {s : Store} (h : s.IsFaithful) (requests : List StoreRequest) :
    (s.serve requests).capacity = s.capacity := by
  induction requests generalizing s with
  | nil => rfl
  | cons request requests ih => exact (ih (h.ask request)).trans (capacity_ask h request)

/-! ## Operations as requests -/

theorem matchAny_eq_serve {s : Store} (h : s.IsFaithful) (uri : String) (flags : MatchFlags)
    (templates : List String) :
    (s.matchAny uri flags templates).value.1 =
      s.serve ((tried uri flags templates).map fun template => .lookup ⟨flags, template⟩) := by
  induction templates generalizing s with
  | nil => rfl
  | cons template templates ih =>
    obtain ⟨hkeep, hpattern⟩ := compile_spec h template flags
    rw [matchAny_cons, tried, ← hpattern, List.map_cons, serve, List.foldl_cons, ← serve]
    change _ = Store.serve (s.compile template flags).value.1 _
    revert hkeep
    obtain ⟨s', found⟩ := (s.compile template flags).value
    intro hkeep
    cases found with
    | error e => rfl
    | ok c =>
      simp only [Except.map]
      cases c.pattern.matchText template uri flags.stop with
      | error e => rfl
      | ok found =>
        cases found with
        | none => exact ih hkeep
        | some m => rfl

/-- An operation asks for the templates that it needs. -/
theorem perform_eq_serve {s : Store} (h : s.IsFaithful) (op : Operation) :
    (s.perform op).1 = s.serve op.requests := by
  cases op with
  | compile template flags => rfl
  | matchPath uri pattern => exact matchAny_eq_serve h uri pattern.flags pattern.paths
  | clear => rfl

/-- Operations ask for one template after the other. -/
theorem after_eq_serve {s : Store} (h : s.IsFaithful) (ops : List Operation) :
    s.after ops = s.serve (ops.flatMap Operation.requests) := by
  induction ops generalizing s with
  | nil => rfl
  | cons op ops ih =>
    rw [List.flatMap_cons, serve_append, ← perform_eq_serve h op, ← ih (perform_spec h op).1]
    rfl

/-! ## The keys that are held -/

theorem keys_hit (s : Store) (key : StoreKey) (c : Compiled) :
    (s.hit key c).keys = key :: s.keys.filter (· != key) := by
  simp only [keys, hit, List.map_cons, List.filter_map]
  rfl

theorem keys_insert (s : Store) (key : StoreKey) (p : Pattern) :
    (s.insert key p).keys = key :: s.keys.take (s.capacity - 1) := by
  simp only [keys, insert, List.map_cons, List.map_take]

/-- The keys that a new store holds after some requests are the first distinct ones that were asked
for last, as many as the capacity allows. -/
theorem keys_serve (capacity : Nat) (requests : List StoreRequest) :
    ((new capacity).serve requests).keys =
      (recent requests).eraseDups.take (max capacity 1) := by
  induction requests using List.reverseRecOn with
  | nil => simp [keys, serve, recent, new]
  | append_singleton requests request ih =>
    have hfaithful := (IsFaithful.new capacity).serve requests
    have hcapacity : ((new capacity).serve requests).capacity = max capacity 1 :=
      capacity_serve (.new capacity) requests
    obtain ⟨n, hn⟩ : ∃ n, max capacity 1 = n + 1 := ⟨max capacity 1 - 1, by omega⟩
    rw [serve_append]
    change ((((new capacity).serve requests).ask request).1).keys = _
    generalize (new capacity).serve requests = s at ih hfaithful hcapacity
    rw [hn] at hcapacity ih ⊢
    cases request with
    | clear =>
      rw [recent_clear]
      rfl
    | lookup key =>
      rw [recent_lookup]
      obtain ⟨c, hfind, hkey, hask⟩ | ⟨p, hfind, hkey, hask⟩ | ⟨-, hkey, hask⟩ :=
        ask_lookup hfaithful key
      · have hheld := mem_keys_of_find? hfind
        rw [hask, if_pos hkey, keys_hit, eraseDups_cons_eq, List.take_succ_cons, ih]
        rw [filter_take (nodup_eraseDups _) (ih ▸ hheld)]
      · have hnew := not_mem_keys_of_find? hfind
        have hmiss : s.miss.keys.take (s.miss.capacity - 1) = s.keys.take n := by
          change s.keys.take (s.capacity - 1) = _
          rw [hcapacity, Nat.add_sub_cancel]
        rw [ih] at hnew hmiss
        have hfirst : key ∉ (recent requests).eraseDups.take n := fun hmem =>
          hnew (List.take_subset_take_left _ (Nat.le_succ n) hmem)
        rw [hask, if_pos hkey, keys_insert, eraseDups_cons_eq, List.take_succ_cons, hmiss,
          take_filter hfirst, List.take_take, Nat.min_eq_left (Nat.le_succ n)]
      · rw [hask, hkey, if_neg (by simp), ← ih]
        rfl

/-! ## The objects that are held -/

theorem lookup_take (key : StoreKey) (entries : List (StoreKey × Compiled)) (n : Nat) :
    (entries.take n).lookup key = entries.lookup key ∨ (entries.take n).lookup key = none := by
  induction entries generalizing n with
  | nil => exact .inl (by simp)
  | cons entry entries ih =>
    cases n with
    | zero => exact .inr rfl
    | succ n =>
      rw [List.take_succ_cons, List.lookup_cons, List.lookup_cons]
      cases key == entry.1 with
      | true => exact .inl rfl
      | false => exact ih n

/-- A request for another key leaves the object of a key, or gives it up. -/
theorem find?_ask {s : Store} (h : s.IsFaithful) {key : StoreKey} {request : StoreRequest}
    (hne : request ≠ .lookup key) :
    (s.ask request).1.find? key = s.find? key ∨ (s.ask request).1.find? key = none := by
  cases request with
  | clear => exact .inr rfl
  | lookup key' =>
    have hkey : key ≠ key' := fun heq => hne (heq ▸ rfl)
    obtain ⟨c, -, -, hask⟩ | ⟨p, -, -, hask⟩ | ⟨-, -, hask⟩ := ask_lookup h key'
    · refine .inl ?_
      rw [hask, find?, hit, List.lookup_cons, beq_false_of_ne hkey]
      exact lookup_filter hkey s.entries
    · rw [hask, find?, insert, List.lookup_cons, beq_false_of_ne hkey]
      exact lookup_take key s.entries _
    · rw [hask]
      exact .inl rfl

/-- The object of a key stays the same or is given up, as long as the key is not asked for. -/
theorem find?_serve {s : Store} (h : s.IsFaithful) {key : StoreKey} {requests : List StoreRequest}
    (hnot : .lookup key ∉ requests) :
    (s.serve requests).find? key = s.find? key ∨ (s.serve requests).find? key = none := by
  induction requests generalizing s with
  | nil => exact .inl rfl
  | cons request requests ih =>
    obtain ⟨hne, hnot⟩ := not_or.mp (List.mem_cons.not.mp hnot)
    rcases ih (h.ask request) hnot with hrest | hrest
    · rw [serve, List.foldl_cons, ← serve, hrest]
      exact find?_ask h (Ne.symm hne)
    · exact .inr hrest

/-- After a request for a key its object is held. -/
theorem find?_ask_self {s : Store} (h : s.IsFaithful) {key : StoreKey} {c : Compiled}
    (hask : (s.ask (.lookup key)).2 = some c) : (s.ask (.lookup key)).1.find? key = some c := by
  obtain ⟨d, -, -, heq⟩ | ⟨p, -, -, heq⟩ | ⟨-, -, heq⟩ := ask_lookup h key
  · rw [heq] at hask ⊢
    rw [← hask]
    exact List.lookup_cons_self
  · rw [heq] at hask ⊢
    rw [← hask]
    exact List.lookup_cons_self
  · rw [heq] at hask
    exact absurd hask (by simp)

/-! ## New objects -/

/-- Every object that is held or was handed out has a number that will not be given again. -/
def Numbered (s : Store) (handed : List (Option Compiled)) : Prop :=
  (∀ key c, (key, c) ∈ s.entries → c.serial < s.compiled) ∧
    ∀ c, some c ∈ handed → c.serial < s.compiled

theorem Numbered.ask {s : Store} (h : s.IsFaithful) {handed : List (Option Compiled)}
    (hn : s.Numbered handed) (request : StoreRequest) :
    (s.ask request).1.Numbered (handed ++ [(s.ask request).2]) := by
  obtain ⟨hheld, hhanded⟩ := hn
  have hsingle : ∀ {found : Option Compiled} {n : Nat}, s.compiled ≤ n →
      (∀ c, found = some c → c.serial < n) → ∀ c, some c ∈ handed ++ [found] → c.serial < n := by
    intro found n hle hfound c hmem
    rcases List.mem_append.mp hmem with hmem | hmem
    · exact Nat.lt_of_lt_of_le (hhanded c hmem) hle
    · exact hfound c (List.mem_singleton.mp hmem).symm
  cases request with
  | clear => exact ⟨fun _ _ hmem => absurd hmem List.not_mem_nil, hsingle (Nat.le_refl _) nofun⟩
  | lookup key =>
    obtain ⟨c, hfind, -, hask⟩ | ⟨p, -, -, hask⟩ | ⟨-, -, hask⟩ := ask_lookup h key
    · obtain ⟨before, after, hentries, -⟩ := List.lookup_eq_some_iff.mp hfind
      have hc : c.serial < s.compiled :=
        hheld key c (hentries ▸ List.mem_append_right before List.mem_cons_self)
      rw [hask]
      refine ⟨fun k d hmem => ?_, hsingle (Nat.le_refl _) fun d hd => Option.some.inj hd ▸ hc⟩
      rcases List.mem_cons.mp hmem with heq | hmem
      · exact (Prod.mk.inj heq).2 ▸ hc
      · exact hheld k d (List.mem_filter.mp hmem).1
    · rw [hask]
      refine ⟨fun k d hmem => ?_, hsingle (Nat.le_succ _) fun d hd => ?_⟩
      · rcases List.mem_cons.mp hmem with heq | hmem
        · rw [(Prod.mk.inj heq).2]
          exact Nat.lt_succ_self _
        · exact Nat.lt_succ_of_lt (hheld k d (List.mem_of_mem_take hmem))
      · rw [← Option.some.inj hd]
        exact Nat.lt_succ_self _
    · rw [hask]
      exact ⟨hheld, hsingle (Nat.le_refl _) (by simp)⟩

theorem numbered_serve (capacity : Nat) (requests : List StoreRequest) :
    ((new capacity).serve requests).Numbered ((new capacity).objects requests) := by
  induction requests using List.reverseRecOn with
  | nil => exact ⟨fun _ _ hmem => absurd hmem List.not_mem_nil, by simp [objects]⟩
  | append_singleton requests request ih =>
    rw [serve_append, objects_append]
    exact ih.ask ((IsFaithful.new capacity).serve requests) request

/-- A key that is not held gets an object that was never handed out before. -/
theorem isNew_of_not_held {capacity : Nat} {requests : List StoreRequest} {key : StoreKey}
    {c : Compiled} (hkey : key ∉ ((new capacity).serve requests).keys)
    (hask : (((new capacity).serve requests).ask (.lookup key)).2 = some c) :
    c.IsNew ((new capacity).objects requests) := by
  intro old hold
  have hlt := (numbered_serve capacity requests).2 old hold
  obtain ⟨d, hfind, -, -⟩ | ⟨p, -, -, heq⟩ | ⟨-, -, heq⟩ :=
    ask_lookup ((IsFaithful.new capacity).serve requests) key
  · exact absurd (mem_keys_of_find? hfind) hkey
  · rw [heq] at hask
    rw [← Option.some.inj hask]
    exact Nat.ne_of_lt hlt
  · rw [heq] at hask
    exact absurd hask (by simp)

end Store

/-- A key that was asked for is among the latest ones if nothing was cleared and few enough other
keys were asked for since. -/
theorem mem_latest_iff {key : StoreKey} (hkey : key.compiles = true)
    {before between : List StoreRequest}
    (hnot : .lookup key ∉ between) (n : Nat) :
    key ∈ (recent (before ++ .lookup key :: between)).eraseDups.take n ↔
      .clear ∉ between ∧ (recent between).eraseDups.length < n := by
  have hbetween : key ∉ recent between := fun hmem => hnot (lookup_mem_of_mem_recent hmem)
  have hsplit : before ++ .lookup key :: between = (before ++ [.lookup key]) ++ between := by simp
  rw [hsplit, recent_append, recent_lookup, if_pos hkey]
  by_cases hclear : .clear ∈ between
  · rw [if_pos hclear]
    refine iff_of_false (fun hmem => hbetween ?_) fun h => h.1 hclear
    exact List.mem_eraseDups.mp (List.mem_of_mem_take hmem)
  · -- the key is the first one after those asked for since
    have hremove : (key :: recent before).removeAll (recent between) =
        key :: (recent before).removeAll (recent between) := by
      have hkeep : (!(recent between).elem key) = true := by simpa using hbetween
      exact List.filter_cons_of_pos hkeep
    rw [if_neg hclear, List.eraseDups_append, hremove, List.eraseDups_cons, List.take_append]
    constructor
    · intro hmem
      refine ⟨hclear, ?_⟩
      rcases List.mem_append.mp hmem with hmem | hmem
      · exact absurd (List.mem_eraseDups.mp (List.mem_of_mem_take hmem)) hbetween
      · by_contra hlen
        rw [Nat.sub_eq_zero_of_le (Nat.le_of_not_lt hlen)] at hmem
        exact absurd hmem List.not_mem_nil
    · rintro ⟨-, hlen⟩
      obtain ⟨m, hm⟩ : ∃ m, n - (recent between).eraseDups.length = m + 1 :=
        ⟨n - (recent between).eraseDups.length - 1, by omega⟩
      rw [hm, List.take_succ_cons]
      exact List.mem_append_right _ List.mem_cons_self

namespace Store

theorem compile_eq_ok_iff {s : Store} {key : StoreKey} {c : Compiled} :
    (s.compile key.template key.flags).value.2 = .ok c ↔ (s.ask (.lookup key)).2 = some c := by
  change _ ↔ (s.compile key.template key.flags).value.2.toOption = some c
  cases (s.compile key.template key.flags).value.2 with
  | ok d => simp [Except.toOption]
  | error e => simp [Except.toOption]

/-- A template that compiles gets an object, which is a new one exactly if the key is not held. -/
theorem compile_gives (capacity : Nat) (requests : List StoreRequest) {key : StoreKey}
    (hkey : key.compiles = true) :
    ∃ c, (((new capacity).serve requests).compile key.template key.flags).value.2 = .ok c ∧
      (key ∈ ((new capacity).serve requests).keys →
        ((new capacity).serve requests).find? key = some c) ∧
      (key ∉ ((new capacity).serve requests).keys → c.IsNew ((new capacity).objects requests)) := by
  obtain ⟨c, hfind, -, hask⟩ | ⟨p, hfind, -, hask⟩ | ⟨-, hfail, -⟩ :=
    ask_lookup ((IsFaithful.new capacity).serve requests) key
  · refine ⟨c, compile_eq_ok_iff.mpr (by rw [hask]), fun _ => hfind, fun hnot => ?_⟩
    exact absurd (mem_keys_of_find? hfind) hnot
  · exact ⟨_, compile_eq_ok_iff.mpr (by rw [hask]),
      fun hheld => absurd hheld (not_mem_keys_of_find? hfind),
      fun hnot => isNew_of_not_held hnot (by rw [hask])⟩
  · exact absurd (hkey.symm.trans hfail) (by simp)

/-- A template that does not compile leaves the entries as they are. -/
theorem IsFaithful.compile_refuses {s : Store} (hs : s.IsFaithful) {key : StoreKey}
    (hkey : key.compiles = false) :
    ∃ e, (s.compile key.template key.flags).value.2 = .error e ∧
      (s.compile key.template key.flags).value.1.entries = s.entries := by
  have hcompile : (key.flags.compile key.template).isOk = false := hkey
  cases hresult : key.flags.compile key.template with
  | ok p =>
    rw [hresult] at hcompile
    exact absurd hcompile (by simp [Except.isOk, Except.toBool])
  | error e =>
    have hfind : s.find? key = none := by
      cases hfind : s.find? key with
      | none => rfl
      | some c => exact absurd ((hs.find? hfind).symm.trans hresult) (by simp)
    rw [compile_of_error hfind hresult]
    exact ⟨e, rfl, rfl⟩

/-- The object that a key got the last time was handed out, and is held unless its key was given
up since. -/
theorem compile_earlier (capacity : Nat) {key : StoreKey} (hkey : key.compiles = true)
    (before : List StoreRequest) {between : List StoreRequest} (hnot : .lookup key ∉ between) :
    ∃ earlier, (((new capacity).serve before).compile key.template key.flags).value.2 =
        .ok earlier ∧
      some earlier ∈ (new capacity).objects (before ++ .lookup key :: between) ∧
      (((new capacity).serve (before ++ .lookup key :: between)).find? key = some earlier ∨
        ((new capacity).serve (before ++ .lookup key :: between)).find? key = none) := by
  obtain ⟨earlier, hearlier, -⟩ := compile_gives capacity before hkey
  have hask := compile_eq_ok_iff.mp hearlier
  have hbefore := (IsFaithful.new capacity).serve before
  refine ⟨earlier, hearlier, ?_, ?_⟩
  · rw [objects_append, objects, hask]
    exact List.mem_append_right _ List.mem_cons_self
  · rw [serve_append, ← find?_ask_self hbefore hask]
    exact find?_serve (hbefore.ask _) hnot

/-- After any history, a store holds the keys that were compiled last since it was cleared, latest
first and as many as its capacity allows, matches counting for every template that they tried. A
template that does not compile changes nothing of that. One that does gets the object that its key
got the last time, if nothing was cleared since and fewer other keys than the capacity were
compiled; in any other case it gets an object that was never handed out. -/
theorem keeps_latest (capacity : Nat) (ops : List Operation) :
    let s := (new capacity).after ops
    let asked := ops.flatMap Operation.requests
    s.keys = (recent asked).eraseDups.take (max capacity 1) ∧
      ∀ key : StoreKey,
        (key.compiles = false →
          ∃ e, (s.compile key.template key.flags).value.2 = .error e ∧
            (s.compile key.template key.flags).value.1.entries = s.entries) ∧
        (key.compiles = true →
          ∃ c, (s.compile key.template key.flags).value.2 = .ok c ∧
            (.lookup key ∉ asked → c.IsNew ((new capacity).objects asked)) ∧
            ∀ before between, asked = before ++ .lookup key :: between → .lookup key ∉ between →
              ∃ earlier, (((new capacity).serve before).compile key.template key.flags).value.2 =
                  .ok earlier ∧
                (c = earlier ↔
                  .clear ∉ between ∧ (recent between).eraseDups.length < max capacity 1) ∧
                (c ≠ earlier → c.IsNew ((new capacity).objects asked))) := by
  intro s asked
  have hs : s = (new capacity).serve asked := after_eq_serve (.new capacity) ops
  have hfaithful : s.IsFaithful := hs ▸ (IsFaithful.new capacity).serve asked
  have hkeys : s.keys = (recent asked).eraseDups.take (max capacity 1) :=
    hs ▸ keys_serve capacity asked
  refine ⟨hkeys, fun key => ⟨hfaithful.compile_refuses, fun hkey => ?_⟩⟩
  obtain ⟨c, hc, hheld, hnew⟩ := compile_gives capacity asked hkey
  rw [← hs] at hc hheld hnew
  refine ⟨c, hc, fun hnot => hnew fun hmem => ?_, fun before between hasked hnot => ?_⟩
  · rw [hkeys] at hmem
    exact hnot (lookup_mem_of_mem_recent (List.mem_eraseDups.mp (List.mem_of_mem_take hmem)))
  · obtain ⟨earlier, hearlier, hhanded, hrest⟩ := compile_earlier capacity hkey before hnot
    rw [← hasked] at hhanded
    rw [← hasked, ← hs] at hrest
    have hiff : key ∈ s.keys ↔
        .clear ∉ between ∧ (recent between).eraseDups.length < max capacity 1 := by
      rw [hkeys, hasked]
      exact mem_latest_iff hkey hnot _
    -- the earlier object is still held, or its key was given up
    have hkept : key ∈ s.keys → c = earlier := by
      intro hmem
      rw [hheld hmem] at hrest
      exact Option.some.inj (hrest.resolve_right (by simp))
    have hlost : key ∉ s.keys → c ≠ earlier := by
      rintro hmem rfl
      exact hnew hmem c hhanded rfl
    refine ⟨earlier, hearlier, ?_, fun hne => hnew fun hmem => hne (hkept hmem)⟩
    rw [← hiff]
    exact ⟨fun heq => by_contra fun hmem => hlost hmem heq, hkept⟩

end Store

end MockHttp.Template
