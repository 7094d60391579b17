import MockHttp.Proofs.Template.Recency

/-!
# The counters of a store

Every lookup of a template counts as a hit or as a miss. A miss that compiles brings a template into
the store, where it is held until it is given up for another one or dropped by a clearing. So what
the counters say balances, whatever a store is asked.

Results:
1. `IsOrderly.ask`: no store holds more templates than it has room for.
2. `Advances.lookup`: what one lookup changes; `Advances.trans` for several.
3. `after_spec`: the accounts after some operations.
4. `counters_balance`: what the counters are after any history.
-/

namespace MockHttp.Template

/-- The keys that an operation looks up: that of the template which is to be compiled, or those of
the templates that are tried for a match. -/
def Operation.lookups : Operation → List StoreKey
  | compile template flags => [⟨flags, template⟩]
  | matchPath uri pattern => (tried uri pattern.flags pattern.paths).map (⟨pattern.flags, ·⟩)
  | clear => []

namespace Store

/-! ## Stores in order -/

/-- Every template that is held is the compiled form of its key, no key is held twice, and there is
room for those that are held and for one at least. -/
structure IsOrderly (s : Store) : Prop where
  faithful : s.IsFaithful
  distinct : s.keys.Nodup
  positive : 1 ≤ s.capacity
  bounded : s.entries.length ≤ s.capacity

theorem length_entries_hit {s : Store} (h : s.keys.Nodup) {key : StoreKey} (hkey : key ∈ s.keys)
    (c : Compiled) : (s.hit key c).entries.length = s.entries.length := by
  have hlength (s : Store) : s.entries.length = s.keys.length := (List.length_map _).symm
  have hpos : 0 < s.keys.length := List.length_pos_of_mem hkey
  rw [hlength, hlength, keys_hit, List.length_cons, ← h.erase_eq_filter,
    List.length_erase_of_mem hkey]
  omega

theorem length_entries_insert (s : Store) (key : StoreKey) (p : Pattern) :
    (s.insert key p).entries.length = min (s.capacity - 1) s.entries.length + 1 := by
  rw [insert, List.length_cons, List.length_take]

/-- A template is given up exactly if there is no room left. -/
theorem evictions_insert {s : Store} (h : 1 ≤ s.capacity) (key : StoreKey) (p : Pattern) :
    (s.entries.length < s.capacity ∧ (s.insert key p).evictions = s.evictions) ∨
      (s.capacity ≤ s.entries.length ∧ (s.insert key p).evictions = s.evictions + 1) := by
  rw [insert, victim?]
  by_cases hroom : s.entries.length < s.capacity
  · exact .inl ⟨hroom, by rw [if_pos hroom]; rfl⟩
  · have hne : s.entries ≠ [] := List.length_pos_iff.mp (by omega)
    refine .inr ⟨by omega, ?_⟩
    rw [if_neg hroom, List.getLast?_eq_some_getLast hne]
    rfl

theorem IsOrderly.new (capacity : Nat) : (Store.new capacity).IsOrderly :=
  ⟨.new capacity, List.nodup_nil, Nat.le_max_right _ _, Nat.zero_le _⟩

theorem IsOrderly.ask {s : Store} (h : s.IsOrderly) (request : StoreRequest) :
    (s.ask request).1.IsOrderly := by
  have hfaithful := h.faithful.ask request
  have hcapacity := capacity_ask h.faithful request
  obtain ⟨hs, hdistinct, hpositive, hbounded⟩ := h
  cases request with
  | clear => exact ⟨hfaithful, List.nodup_nil, hpositive, Nat.zero_le _⟩
  | lookup key =>
    obtain ⟨c, hfind, -, hask⟩ | ⟨p, hfind, -, hask⟩ | ⟨-, -, hask⟩ := ask_lookup hs key
    · have hheld := mem_keys_of_find? hfind
      rw [hask] at hfaithful hcapacity ⊢
      refine ⟨hfaithful, ?_, hcapacity ▸ hpositive, ?_⟩
      · rw [keys_hit, List.nodup_cons]
        exact ⟨by simp, hdistinct.filter _⟩
      · rw [length_entries_hit hdistinct hheld]
        exact hbounded
    · have hnew := not_mem_keys_of_find? hfind
      rw [hask] at hfaithful hcapacity ⊢
      refine ⟨hfaithful, ?_, hcapacity ▸ hpositive, ?_⟩
      · rw [keys_insert, List.nodup_cons]
        exact ⟨fun hmem => hnew (List.mem_of_mem_take hmem),
          hdistinct.sublist (List.take_sublist _ _)⟩
      · rw [length_entries_insert]
        show min (s.capacity - 1) s.entries.length + 1 ≤ s.capacity
        omega
    · rw [hask] at hfaithful ⊢
      exact ⟨hfaithful, hdistinct, hpositive, hbounded⟩

theorem IsOrderly.serve {s : Store} (h : s.IsOrderly) (requests : List StoreRequest) :
    (s.serve requests).IsOrderly := by
  induction requests generalizing s with
  | nil => exact h
  | cons request requests ih => exact ih (h.ask request)

/-! ## Lookups -/

/-- What changes in the accounts while some keys are looked up and some templates are dropped. -/
structure Balances (s s' : Store) (lookups : List StoreKey) (dropped : Nat) : Prop where
  capacity : s'.capacity = s.capacity
  /-- Every lookup is a hit or a miss. -/
  looked : s'.hits + s'.misses = s.hits + s.misses + lookups.length
  /-- Every miss is a failure, or its template is held, given up or dropped. -/
  conserved : s'.misses + (s.entries.length + s.evictions) =
    s.misses + lookups.countP (!·.compiles) + (s'.entries.length + s'.evictions + dropped)

/-- What changes while some keys are looked up. -/
structure Advances (s s' : Store) (lookups : List StoreKey) : Prop
    extends Balances s s' lookups 0 where
  hits : s.hits ≤ s'.hits
  misses : s.misses ≤ s'.misses
  evictions : s.evictions ≤ s'.evictions
  size : s.entries.length ≤ s'.entries.length
  /-- A store that gives up a template is full. -/
  full : s.evictions < s'.evictions → s'.entries.length = s'.capacity

theorem Balances.trans {s s' s'' : Store} {first second : List StoreKey} {dropped dropped' : Nat}
    (h : Balances s s' first dropped) (h' : Balances s' s'' second dropped') :
    Balances s s'' (first ++ second) (dropped + dropped') := by
  obtain ⟨hcapacity, hlooked, hconserved⟩ := h
  obtain ⟨hcapacity', hlooked', hconserved'⟩ := h'
  refine ⟨hcapacity'.trans hcapacity, ?_, ?_⟩
  · rw [List.length_append]
    omega
  · rw [List.countP_append]
    omega

theorem Balances.refl (s : Store) : Balances s s [] 0 := ⟨rfl, rfl, rfl⟩

theorem Advances.refl (s : Store) : Advances s s [] where
  toBalances := .refl s
  hits := Nat.le_refl _
  misses := Nat.le_refl _
  evictions := Nat.le_refl _
  size := Nat.le_refl _
  full h := absurd h (Nat.lt_irrefl _)

theorem Advances.trans {s s' s'' : Store} {first second : List StoreKey}
    (h : Advances s s' first) (h' : Advances s' s'' second) (hbounded : s''.IsOrderly) :
    Advances s s'' (first ++ second) where
  toBalances := h.toBalances.trans h'.toBalances
  hits := Nat.le_trans h.hits h'.hits
  misses := Nat.le_trans h.misses h'.misses
  evictions := Nat.le_trans h.evictions h'.evictions
  size := Nat.le_trans h.size h'.size
  full hlt := by
    by_cases hlater : s'.evictions < s''.evictions
    · exact h'.full hlater
    · -- it was full before the later lookups, and they drop nothing
      have hfull := h.full (by omega)
      have hsize := h'.size
      have hcapacity := h'.capacity
      have hroom := hbounded.bounded
      omega

section Lookup

variable {s : Store} {key : StoreKey}

theorem Advances.hit (h : s.keys.Nodup) (hheld : key ∈ s.keys) (hkey : key.compiles = true)
    (c : Compiled) : Advances s (s.hit key c) [key] where
  capacity := rfl
  looked := by
    show s.hits + 1 + s.misses = s.hits + s.misses + 1
    omega
  conserved := by
    rw [length_entries_hit h hheld, List.countP_singleton, hkey]
    rfl
  hits := Nat.le_succ _
  misses := Nat.le_refl _
  evictions := Nat.le_refl _
  size := Nat.le_of_eq (length_entries_hit h hheld c).symm
  full hlt := absurd hlt (Nat.lt_irrefl _)

theorem Advances.insert (h : s.IsOrderly) (hkey : key.compiles = true) (p : Pattern) :
    Advances s (s.miss.insert key p) [key] := by
  have hpositive := h.positive
  have hbounded := h.bounded
  have hlength : (s.miss.insert key p).entries.length =
      min (s.capacity - 1) s.entries.length + 1 := length_entries_insert s.miss key p
  -- there is room for the template, or one is given up for it
  have hevictions :
      (s.entries.length < s.capacity ∧ (s.miss.insert key p).evictions = s.evictions) ∨
        (s.capacity ≤ s.entries.length ∧ (s.miss.insert key p).evictions = s.evictions + 1) :=
    evictions_insert (s := s.miss) hpositive key p
  have hmisses : (s.miss.insert key p).misses = s.misses + 1 := rfl
  have hcapacity : (s.miss.insert key p).capacity = s.capacity := rfl
  have hcompiles : [key].countP (!·.compiles) = 0 := by simp [hkey]
  exact {
    capacity := rfl
    looked := rfl
    conserved := by omega
    hits := Nat.le_refl _
    misses := Nat.le_succ _
    evictions := by omega
    size := by omega
    full := by omega }

theorem Advances.miss (hkey : key.compiles = false) : Advances s s.miss [key] where
  capacity := rfl
  looked := rfl
  conserved := by
    have hfails : [key].countP (!·.compiles) = 1 := by simp [hkey]
    rw [hfails]
    rfl
  hits := Nat.le_refl _
  misses := Nat.le_succ _
  evictions := Nat.le_refl _
  size := Nat.le_refl _
  full hlt := absurd hlt (Nat.lt_irrefl _)

/-- One lookup. -/
theorem Advances.lookup (h : s.IsOrderly) (key : StoreKey) :
    Advances s (s.ask (.lookup key)).1 [key] := by
  obtain ⟨c, hfind, hkey, hask⟩ | ⟨p, -, hkey, hask⟩ | ⟨-, hkey, hask⟩ :=
    ask_lookup h.faithful key
  · rw [hask]
    exact .hit h.distinct (mem_keys_of_find? hfind) hkey c
  · rw [hask]
    exact .insert h hkey p
  · rw [hask]
    exact .miss hkey

/-- Several lookups. -/
theorem Advances.lookups (h : s.IsOrderly) (keys : List StoreKey) :
    Advances s (s.serve (keys.map .lookup)) keys := by
  induction keys generalizing s with
  | nil => exact .refl s
  | cons key keys ih =>
    have hnext := h.ask (.lookup key)
    exact (Advances.lookup h key).trans (ih hnext) (hnext.serve _)

end Lookup

/-! ## Histories -/

/-- Every operation but a clearing looks some keys up, and does nothing else. -/
theorem Advances.perform {s : Store} (h : s.IsOrderly) (op : Operation) (hop : op ≠ .clear) :
    Advances s (s.perform op).1 op.lookups := by
  have hrequests : op.requests = op.lookups.map .lookup := by
    cases op with
    | compile template flags => rfl
    | matchPath uri pattern => exact (List.map_map ..).symm
    | clear => exact absurd rfl hop
  rw [perform_eq_serve h.faithful, hrequests]
  exact .lookups h _

/-- The number of templates that an operation drops. -/
def drops (s : Store) : Operation → Nat
  | .clear => s.entries.length
  | _ => 0

/-- The number of templates that some operations drop, one after the other. -/
def dropped (s : Store) : List Operation → Nat
  | [] => 0
  | op :: ops => s.drops op + (s.perform op).1.dropped ops

theorem Balances.perform {s : Store} (h : s.IsOrderly) (op : Operation) :
    Balances s (s.perform op).1 op.lookups (s.drops op) := by
  cases op with
  | compile template flags => exact (Advances.perform h _ (by simp)).toBalances
  | matchPath uri pattern => exact (Advances.perform h _ (by simp)).toBalances
  | clear =>
    refine ⟨rfl, rfl, ?_⟩
    show s.misses + (s.entries.length + s.evictions) =
      s.misses + 0 + (0 + s.evictions + s.entries.length)
    omega

theorem IsOrderly.perform {s : Store} (h : s.IsOrderly) (op : Operation) :
    (s.perform op).1.IsOrderly := by
  rw [perform_eq_serve h.faithful]
  exact h.serve _

theorem after_spec {s : Store} (h : s.IsOrderly) (ops : List Operation) :
    (s.after ops).IsOrderly ∧
      Balances s (s.after ops) (ops.flatMap Operation.lookups) (s.dropped ops) := by
  induction ops generalizing s with
  | nil => exact ⟨h, .refl s⟩
  | cons op ops ih =>
    obtain ⟨horderly, hbalances⟩ := ih (h.perform op)
    exact ⟨horderly, (Balances.perform h op).trans hbalances⟩

/-- What the counters of a store say after any history, under any capacity. There is room for one
template at least, and not more are held than there is room for. Hits and misses together are the
lookups, a match counting for every template that it tried. The misses are the lookups that did not
compile, the templates that are held, those that were given up and those that clearings dropped.
Whatever comes next, no counter decreases; a clearing changes the size only; and a template is given
up only by a store that is full afterwards. -/
theorem counters_balance (capacity : Nat) (ops : List Operation) :
    let s := (new capacity).after ops
    let lookups := ops.flatMap Operation.lookups
    (s.stats.capacity = max capacity 1 ∧ 1 ≤ s.stats.capacity ∧ s.stats.size ≤ s.stats.capacity) ∧
    s.stats.hits + s.stats.misses = lookups.length ∧
    s.stats.misses = lookups.countP (!·.compiles) +
      (s.stats.size + s.stats.evictions + (new capacity).dropped ops) ∧
    (s.perform .clear).1.stats = { s.stats with size := 0 } ∧
    ∀ op, let s' := (s.perform op).1
      s.stats.hits ≤ s'.stats.hits ∧ s.stats.misses ≤ s'.stats.misses ∧
        s.stats.evictions ≤ s'.stats.evictions ∧
        (s.stats.evictions < s'.stats.evictions → s'.stats.size = s'.stats.capacity) := by
  intro s lookups
  obtain ⟨horderly, hbalances⟩ := after_spec (.new capacity) ops
  have hlooked : s.hits + s.misses = 0 + 0 + lookups.length := hbalances.looked
  have hconserved : s.misses + (0 + 0) =
      0 + lookups.countP (!·.compiles) +
        (s.entries.length + s.evictions + (new capacity).dropped ops) := hbalances.conserved
  refine ⟨⟨hbalances.capacity, horderly.positive, horderly.bounded⟩, ?_, ?_, rfl, fun op => ?_⟩
  · show s.hits + s.misses = _
    omega
  · show s.misses = _ + (s.entries.length + s.evictions + _)
    omega
  · by_cases hop : op = .clear
    · subst hop
      exact ⟨Nat.le_refl _, Nat.le_refl _, Nat.le_refl _, fun hlt => absurd hlt (Nat.lt_irrefl _)⟩
    · have h := Advances.perform horderly op hop
      exact ⟨h.hits, h.misses, h.evictions, h.full⟩

end Store

end MockHttp.Template
