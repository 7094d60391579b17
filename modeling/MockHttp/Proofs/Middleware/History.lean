import Mathlib.Data.List.Induction
import Mathlib.Data.List.Nodup
import MockHttp.Middleware.Chain

/-!
# What a chain holds after its history

A chain is a map with an order: of the changes of a name the last one counts, and the names stand in
the order in which they were registered since they were last removed. Both are read off the history
alone, by `latest?` and `Opens`, and the chain is compared with what they say.

Results:
1. `names_insert`, `names_erase`: what one change does to the names.
2. `lookup_after`: what is found under a name is what was registered last.
3. `mem_names_iff_opens`, `pairwise_opens`: a name is there from the change on that opens it, and
   the names stand in the order of these changes.
4. `getElem?_foldl_act`: a copy is what the chain was when it was taken.
5. `after_changes`: all of this for any history, and what the chain makes of a value.
-/

namespace MockHttp.Middleware

variable {τ : Type}

/-! ## Entries -/

namespace Chain

theorem names_insertEntry (name : String) (t : τ) (entries : List (String × τ)) :
    (insertEntry name t entries).map (·.1) =
      if name ∈ entries.map (·.1) then entries.map (·.1) else entries.map (·.1) ++ [name] := by
  induction entries with
  | nil => rfl
  | cons entry rest ih =>
    obtain ⟨n, u⟩ := entry
    by_cases hn : n = name
    · simp [insertEntry, hn]
    · have hmem : name ∈ ((n, u) :: rest).map (·.1) ↔ name ∈ rest.map (·.1) := by
        simp [Ne.symm hn]
      rw [insertEntry, if_neg hn, List.map_cons, ih]
      simp only [hmem]
      split
      · rfl
      · rfl

theorem lookup_insertEntry (name asked : String) (t : τ) (entries : List (String × τ)) :
    (insertEntry name t entries).lookup asked =
      if asked = name then some t else entries.lookup asked := by
  induction entries with
  | nil =>
    rw [insertEntry, List.lookup_cons]
    by_cases hasked : asked = name
    · simp [hasked]
    · simp [hasked, beq_false_of_ne hasked]
  | cons entry rest ih =>
    obtain ⟨n, u⟩ := entry
    rw [insertEntry]
    by_cases hn : n = name
    · rw [if_pos hn, List.lookup_cons, List.lookup_cons, ← hn]
      by_cases hasked : asked = n
      · simp [hasked]
      · simp [hasked, beq_false_of_ne hasked]
    · rw [if_neg hn, List.lookup_cons, List.lookup_cons, ih]
      by_cases hasked : asked = n
      · simp [hasked, hn]
      · simp [beq_false_of_ne hasked]

theorem names_eraseEntry (name : String) (entries : List (String × τ)) :
    (eraseEntry name entries).map (·.1) = (entries.map (·.1)).erase name := by
  induction entries with
  | nil => rfl
  | cons entry rest ih =>
    obtain ⟨n, u⟩ := entry
    rw [eraseEntry, List.map_cons, List.erase_cons]
    by_cases hn : n = name
    · simp [hn]
    · rw [if_neg hn, List.map_cons, ih, if_neg (by simpa using hn)]

/-- Of a name that is there once, the entry is gone afterwards. -/
theorem lookup_eraseEntry (name asked : String) {entries : List (String × τ)}
    (h : (entries.map (·.1)).Nodup) :
    (eraseEntry name entries).lookup asked =
      if asked = name then none else entries.lookup asked := by
  induction entries with
  | nil => simp [eraseEntry]
  | cons entry rest ih =>
    obtain ⟨n, u⟩ := entry
    obtain ⟨hnew, hrest⟩ := List.nodup_cons.mp h
    rw [eraseEntry]
    by_cases hn : n = name
    · rw [if_pos hn]
      by_cases hasked : asked = name
      · have hnone : rest.lookup n = none := by
          rw [List.lookup_eq_none_iff]
          intro entry hentry
          have hmem : entry.1 ∈ rest.map (·.1) := List.mem_map_of_mem hentry
          have hne : n ≠ entry.1 := fun heq => hnew (show n ∈ rest.map (·.1) from heq ▸ hmem)
          simpa using hne
        rw [if_pos hasked, hasked, ← hn, hnone]
      · rw [if_neg hasked, List.lookup_cons, beq_false_of_ne (hn ▸ hasked)]
    · rw [if_neg hn, List.lookup_cons, List.lookup_cons, ih hrest]
      by_cases hasked : asked = n
      · simp [hasked, hn]
      · simp [beq_false_of_ne hasked]

/-! ## Names -/

variable {c : Chain τ}

theorem contains_eq_isSome (c : Chain τ) (name : String) :
    c.contains name = (c.entries.lookup name).isSome := by
  rw [Bool.eq_iff_iff, List.lookup_isSome_iff, contains, List.contains_iff_mem, names, List.mem_map]
  constructor
  · rintro ⟨entry, hmem, rfl⟩
    exact ⟨entry, hmem, beq_self_eq_true _⟩
  · rintro ⟨entry, hmem, hname⟩
    exact ⟨entry, hmem, (beq_iff_eq.mp hname).symm⟩

/-- A name that is registered keeps its place, or gets the last one if it has none. -/
theorem names_insert (c : Chain τ) (name : String) (t : τ) :
    (c.insert name t).names = if name ∈ c.names then c.names else c.names ++ [name] :=
  names_insertEntry name t c.entries

/-- A name that is removed leaves the others as they are. -/
theorem names_erase (h : c.names.Nodup) (name : String) :
    (c.erase name).names = c.names.filter (· != name) :=
  (names_eraseEntry name c.entries).trans (h.erase_eq_filter name)

/-- Whether a removal has made the chain shorter tells whether the name was there. -/
theorem remove_eq (c : Chain τ) (name : String) :
    c.remove name = (c.erase name, c.contains name) := by
  have hsize (d : Chain τ) : d.size = d.names.length := (List.length_map _).symm
  have hshorter : ((c.erase name).size != c.size) = c.contains name := by
    rw [hsize, hsize, names, erase, names_eraseEntry, ← names, List.length_erase, contains]
    by_cases hmem : name ∈ c.names
    · have hpos : 0 < c.names.length := List.length_pos_of_mem hmem
      simp only [hmem, if_true, List.contains_eq_mem, decide_true, bne_iff_ne]
      omega
    · simp [hmem]
  rw [remove, upsert, hshorter]

/-- Where no name occurs twice, the values are what is found under the names. -/
theorem transforms_eq (h : c.names.Nodup) :
    c.transforms = c.names.filterMap fun name => c.entries.lookup name := by
  obtain ⟨entries⟩ := c
  show entries.map (·.2) = (entries.map (·.1)).filterMap fun name => entries.lookup name
  change (entries.map (·.1)).Nodup at h
  induction entries with
  | nil => rfl
  | cons entry rest ih =>
    obtain ⟨n, t⟩ := entry
    obtain ⟨hnew, hrest⟩ := List.nodup_cons.mp h
    have hothers : (rest.map (·.1)).filterMap (fun name => ((n, t) :: rest).lookup name) =
        (rest.map (·.1)).filterMap fun name => rest.lookup name := by
      refine List.filterMap_congr fun name hname => ?_
      have hne : name ≠ n := fun heq => hnew (show n ∈ rest.map (·.1) from heq ▸ hname)
      rw [List.lookup_cons, beq_false_of_ne hne]
    rw [List.map_cons, List.map_cons, List.filterMap_cons, List.lookup_cons_self, hothers, ih hrest]

end Chain

/-! ## Histories -/

inductive Change (τ : Type) where
  | upsert (name : String) (t : Option τ)
  | insert (name : String) (t : τ)
  | remove (name : String)

namespace Change

def name : Change τ → String
  | upsert name _ | insert name _ | remove name => name

/-- What is registered under the name; nothing if the name is removed. -/
def given? : Change τ → Option τ
  | upsert _ t => t
  | insert _ t => some t
  | remove _ => none

end Change

/-- What the last change of a name registered; nothing if it removed the name, or if there is no
change of the name. -/
def latest? (changes : List (Change τ)) (name : String) : Option τ :=
  (changes.reverse.find? (·.name == name)).bind (·.given?)

/-- The change with this number is the first registration of a name since the last removal of it. -/
structure Opens (changes : List (Change τ)) (name : String) (i : Nat) : Prop where
  /-- It registers the name. -/
  registers : ∃ change, changes[i]? = some change ∧ change.name = name ∧ change.given?.isSome
  /-- The name was not there before. -/
  first : latest? (changes.take i) name = none
  /-- No later change removes it. -/
  kept : ∀ change ∈ changes.drop (i + 1), change.name = name → change.given?.isSome

theorem latest?_concat (changes : List (Change τ)) (change : Change τ) (name : String) :
    latest? (changes ++ [change]) name =
      if change.name = name then change.given? else latest? changes name := by
  rw [latest?, List.reverse_append, List.reverse_singleton, List.singleton_append, List.find?_cons]
  by_cases hname : change.name = name
  · simp [hname]
  · rw [if_neg hname, beq_false_of_ne hname, latest?]

/-- A change closes the name that it removes, and opens the one that it registers if it was not
there. -/
theorem opens_concat {changes : List (Change τ)} {change : Change τ} {name : String} {i : Nat} :
    Opens (changes ++ [change]) name i ↔
      (Opens changes name i ∧ (change.name = name → change.given?.isSome)) ∨
        (i = changes.length ∧ change.name = name ∧ change.given?.isSome ∧
          latest? changes name = none) := by
  rcases Nat.lt_trichotomy i changes.length with hlt | rfl | hgt
  · have hget : (changes ++ [change])[i]? = changes[i]? := List.getElem?_append_left hlt
    have htake : (changes ++ [change]).take i = changes.take i :=
      List.take_append_of_le_length (Nat.le_of_lt hlt)
    have hdrop : (changes ++ [change]).drop (i + 1) = changes.drop (i + 1) ++ [change] :=
      List.drop_append_of_le_length hlt
    constructor
    · rintro ⟨hregisters, hfirst, hkept⟩
      rw [hget] at hregisters
      rw [htake] at hfirst
      rw [hdrop] at hkept
      exact .inl ⟨⟨hregisters, hfirst, fun d hd => hkept d (List.mem_append_left _ hd)⟩,
        hkept change (List.mem_append_right _ List.mem_cons_self)⟩
    · rintro (⟨⟨hregisters, hfirst, hkept⟩, hchange⟩ | ⟨heq, -⟩)
      · refine ⟨hget ▸ hregisters, htake ▸ hfirst, fun d hd => ?_⟩
        rw [hdrop] at hd
        rcases List.mem_append.mp hd with hd | hd
        · exact hkept d hd
        · exact List.mem_singleton.mp hd ▸ hchange
      · omega
  · have hget : (changes ++ [change])[changes.length]? = some change := by simp
    have hnone : changes[changes.length]? = none := by simp
    constructor
    · rintro ⟨⟨d, hd, hname, hgiven⟩, hfirst, -⟩
      obtain rfl := Option.some_inj.mp (hget.symm.trans hd)
      rw [List.take_left] at hfirst
      exact .inr ⟨rfl, hname, hgiven, hfirst⟩
    · rintro (⟨⟨⟨d, hd, -⟩, -⟩, -⟩ | ⟨-, hname, hgiven, hfirst⟩)
      · rw [hnone] at hd
        exact absurd hd (by simp)
      · exact ⟨⟨change, hget, hname, hgiven⟩, by rwa [List.take_left], by simp⟩
  · have hnone : (changes ++ [change])[i]? = none := by simp; omega
    have hnone' : changes[i]? = none := by simp; omega
    constructor
    · rintro ⟨⟨d, hd, -⟩, -⟩
      rw [hnone] at hd
      exact absurd hd (by simp)
    · rintro (⟨⟨⟨d, hd, -⟩, -⟩, -⟩ | ⟨heq, -⟩)
      · rw [hnone'] at hd
        exact absurd hd (by simp)
      · omega

theorem Opens.lt_length {changes : List (Change τ)} {name : String} {i : Nat}
    (h : Opens changes name i) : i < changes.length := by
  obtain ⟨change, hchange, -⟩ := h.registers
  exact (List.getElem?_eq_some_iff.mp hchange).1

/-- A name that is opened is there. -/
theorem Opens.isSome_latest? {changes : List (Change τ)} {name : String} {i : Nat}
    (h : Opens changes name i) : (latest? changes name).isSome := by
  induction changes using List.reverseRecOn with
  | nil =>
    obtain ⟨⟨change, hchange, -⟩, -⟩ := h
    exact absurd hchange (by simp)
  | append_singleton changes change ih =>
    rw [latest?_concat]
    rcases opens_concat.mp h with ⟨hbefore, hchange⟩ | ⟨-, hname, hgiven, -⟩
    · split
      · next hname => exact hchange hname
      · exact ih hbefore
    · rwa [if_pos hname]

/-- A name is opened by one change only. -/
theorem Opens.unique {changes : List (Change τ)} {name : String} {i j : Nat}
    (hi : Opens changes name i) (hj : Opens changes name j) : i = j := by
  have hnot {i j : Nat} (hi : Opens changes name i) (hj : Opens changes name j) : ¬i < j := by
    intro hlt
    have hbefore : Opens (changes.take j) name i := by
      obtain ⟨hregisters, hfirst, hkept⟩ := hi
      refine ⟨?_, ?_, fun d hd => hkept d ?_⟩
      · rwa [List.getElem?_take_of_lt hlt]
      · rwa [List.take_take, Nat.min_eq_left (Nat.le_of_lt hlt)]
      · rw [List.drop_take] at hd
        exact List.mem_of_mem_take hd
    have hsome := hbefore.isSome_latest?
    rw [hj.first] at hsome
    exact absurd hsome (by simp)
  have hij := hnot hi hj
  have hji := hnot hj hi
  omega

namespace Chain

def perform (c : Chain τ) : Change τ → Chain τ
  | .upsert name t => c.upsert name t
  | .insert name t => c.insert name t
  | .remove name => (c.remove name).1

/-- The chain after some changes, starting with no names. -/
def after (changes : List (Change τ)) : Chain τ := changes.foldl perform .empty

theorem perform_eq (c : Chain τ) (change : Change τ) :
    c.perform change = c.upsert change.name change.given? := by
  cases change with
  | upsert name t => rfl
  | insert name t => rfl
  | remove name => rfl

theorem after_concat (changes : List (Change τ)) (change : Change τ) :
    after (changes ++ [change]) = (after changes).upsert change.name change.given? := by
  rw [after, List.foldl_append, ← perform_eq]
  rfl

/-- No name is there twice. -/
theorem nodup_names_after (changes : List (Change τ)) : (after changes).names.Nodup := by
  induction changes using List.reverseRecOn with
  | nil => exact List.nodup_nil
  | append_singleton changes change ih =>
    rw [after_concat]
    cases change.given? with
    | none =>
      rw [upsert, names_erase ih]
      exact ih.filter _
    | some t =>
      rw [upsert, names_insert]
      split
      · exact ih
      · next hnew =>
        refine List.nodup_append.mpr ⟨ih, List.nodup_singleton _, fun n hn m hm heq => hnew ?_⟩
        rwa [← List.mem_singleton.mp hm, ← heq]

/-- What is found under a name is what was registered last. -/
theorem lookup_after (changes : List (Change τ)) (name : String) :
    (after changes).entries.lookup name = latest? changes name := by
  induction changes using List.reverseRecOn with
  | nil => rfl
  | append_singleton changes change ih =>
    rw [after_concat, latest?_concat]
    cases hgiven : change.given? with
    | none =>
      rw [upsert, erase, lookup_eraseEntry _ _ (nodup_names_after changes), ih]
      simp only [eq_comm]
    | some t =>
      rw [upsert, insert, lookup_insertEntry, ih]
      simp only [eq_comm]

theorem contains_after (changes : List (Change τ)) (name : String) :
    (after changes).contains name = (latest? changes name).isSome := by
  rw [contains_eq_isSome, lookup_after]

theorem mem_names_after {changes : List (Change τ)} {name : String} :
    name ∈ (after changes).names ↔ (latest? changes name).isSome := by
  rw [← contains_after, contains, List.contains_iff_mem]

/-- A name is there if some change opens it. -/
theorem mem_names_iff_opens {changes : List (Change τ)} {name : String} :
    name ∈ (after changes).names ↔ ∃ i, Opens changes name i := by
  refine ⟨fun hmem => ?_, fun ⟨i, hi⟩ => mem_names_after.mpr hi.isSome_latest?⟩
  induction changes using List.reverseRecOn with
  | nil => exact absurd hmem List.not_mem_nil
  | append_singleton changes change ih =>
    have hsome := mem_names_after.mp hmem
    rw [latest?_concat] at hsome
    simp only [opens_concat]
    by_cases hbefore : name ∈ (after changes).names
    · obtain ⟨i, hi⟩ := ih hbefore
      exact ⟨i, .inl ⟨hi, fun hname => by rwa [if_pos hname] at hsome⟩⟩
    · have hnone : latest? changes name = none := by
        rw [mem_names_after] at hbefore
        simpa using hbefore
      split at hsome
      · next hname => exact ⟨_, .inr ⟨rfl, hname, hsome, hnone⟩⟩
      · rw [hnone] at hsome
        exact absurd hsome (by simp)

/-- The names stand in the order in which they were opened. -/
theorem pairwise_opens (changes : List (Change τ)) :
    (after changes).names.Pairwise fun a b =>
      ∃ i j, Opens changes a i ∧ Opens changes b j ∧ i < j := by
  induction changes using List.reverseRecOn with
  | nil => exact .nil
  | append_singleton changes change ih =>
    rw [after_concat]
    cases hgiven : change.given? with
    | none =>
      -- the change closes its own name only, and that one is gone
      have hstays {name : String} {i : Nat} (hname : name ∈ (after changes).names.filter
          (· != change.name)) (h : Opens changes name i) : Opens (changes ++ [change]) name i := by
        have hne : name ≠ change.name := bne_iff_ne.mp (List.mem_filter.mp hname).2
        exact opens_concat.mpr (.inl ⟨h, fun heq => absurd heq.symm hne⟩)
      rw [upsert, names_erase (nodup_names_after changes)]
      refine (ih.filter _).imp_of_mem fun ha hb ⟨i, j, hi, hj, hlt⟩ => ?_
      exact ⟨i, j, hstays ha hi, hstays hb hj, hlt⟩
    | some t =>
      have hstays {name : String} {i : Nat} (h : Opens changes name i) :
          Opens (changes ++ [change]) name i :=
        opens_concat.mpr (.inl ⟨h, fun _ => by simp [hgiven]⟩)
      have hbefore : (after changes).names.Pairwise fun a b =>
          ∃ i j, Opens (changes ++ [change]) a i ∧ Opens (changes ++ [change]) b j ∧ i < j :=
        ih.imp fun ⟨i, j, hi, hj, hlt⟩ => ⟨i, j, hstays hi, hstays hj, hlt⟩
      rw [upsert, names_insert]
      split
      · exact hbefore
      · next hnew =>
        -- the new name is opened after all others
        have hopens : Opens (changes ++ [change]) change.name changes.length := by
          refine opens_concat.mpr (.inr ⟨rfl, rfl, by simp [hgiven], ?_⟩)
          rw [mem_names_after] at hnew
          simpa using hnew
        refine List.pairwise_append.mpr ⟨hbefore, List.pairwise_singleton _ _, ?_⟩
        intro a ha b hb
        obtain ⟨i, hi⟩ := mem_names_iff_opens.mp ha
        rw [List.mem_singleton.mp hb]
        exact ⟨i, changes.length, hstays hi, hopens, hi.lt_length⟩

/-! ## Copies -/

/-- What can be done where there are several chains: the one with a number is changed or copied. A
copy gets the next number. -/
inductive Deed (τ : Type) where
  | change (number : Nat) (change : Change τ)
  | copy (number : Nat)

def Deed.Changes (k : Nat) : Deed τ → Prop
  | change number _ => number = k
  | copy _ => False

def act (chains : List (Chain τ)) : Deed τ → List (Chain τ)
  | .change number change => chains.modify number (·.perform change)
  | .copy number => chains ++ chains[number]?.toList

/-- A chain that is not changed itself stays as it is. -/
theorem getElem?_act {chains : List (Chain τ)} {k : Nat} {c : Chain τ} (hk : chains[k]? = some c)
    {deed : Deed τ} (hdeed : ¬deed.Changes k) : (act chains deed)[k]? = some c := by
  cases deed with
  | change number change =>
    have hne : number ≠ k := hdeed
    rw [act, List.getElem?_modify, hk]
    simp [hne]
  | copy number =>
    rw [act, List.getElem?_append_left (List.getElem?_eq_some_iff.mp hk).1, hk]

theorem getElem?_foldl_act {chains : List (Chain τ)} {k : Nat} {c : Chain τ}
    (hk : chains[k]? = some c) {deeds : List (Deed τ)} (hdeeds : ∀ deed ∈ deeds, ¬deed.Changes k) :
    (deeds.foldl act chains)[k]? = some c := by
  induction deeds generalizing chains with
  | nil => exact hk
  | cons deed deeds ih =>
    obtain ⟨hdeed, hrest⟩ := List.forall_mem_cons.mp hdeeds
    exact ih (getElem?_act hk hdeed) hrest

/-! ## The whole history -/

/-- What a chain is after any history. No name is there twice. A name is there exactly if its last
change registered something. The names stand in the order of the changes that opened them, each name
being opened by one change: so a name that is registered again keeps its place, and one that is
removed and registered again gets the last one. A value passes through what was registered last
under each of the names, in their order. A removal tells whether the name was there. A copy is at
any later time what the chain was when the copy was taken, whatever is done to other chains. -/
theorem after_changes {α : Type} (changes : List (Change (α → α))) :
    let c := after changes
    c.names.Nodup ∧
    (∀ name, c.contains name = (latest? changes name).isSome) ∧
    (∀ name ∈ c.names, ∃! i, Opens changes name i) ∧
    (c.names.Pairwise fun a b => ∃ i j, Opens changes a i ∧ Opens changes b j ∧ i < j) ∧
    (∀ name f,
      (c.insert name f).names = (if name ∈ c.names then c.names else c.names ++ [name]) ∧
        ((c.remove name).1.insert name f).names = c.names.filter (· != name) ++ [name]) ∧
    (∀ a, c.apply a = (c.names.filterMap (latest? changes)).foldl (fun a f => f a) a) ∧
    (∀ name, (c.remove name).2 = c.contains name) ∧
    ∀ (chains : List (Chain (α → α))) (n : Nat), chains[n]? = some c →
      ∀ later : List (Deed (α → α)), (∀ deed ∈ later, ¬deed.Changes chains.length) →
        (later.foldl act (act chains (.copy n)))[chains.length]? = some c := by
  intro c
  have hnodup : c.names.Nodup := nodup_names_after changes
  refine ⟨hnodup, contains_after changes, fun name hname => ?_, pairwise_opens changes,
    fun name f => ⟨names_insert c name f, ?_⟩, fun a => ?_, fun name => ?_, ?_⟩
  · obtain ⟨i, hi⟩ := mem_names_iff_opens.mp hname
    exact ⟨i, hi, fun j hj => hj.unique hi⟩
  · rw [remove_eq, names_insert, names_erase hnodup, if_neg (by simp)]
  · have hlookup : (fun name => c.entries.lookup name) = latest? changes :=
      funext (lookup_after changes)
    rw [apply, transforms_eq hnodup, hlookup]
  · rw [remove_eq]
  · intro chains n hn later hlater
    refine getElem?_foldl_act ?_ hlater
    rw [act, hn]
    simp

/-- `b` keeps its place, `a` loses it. -/
example : (after [.insert "a" 1, .insert "b" 2, .remove "a", .upsert "b" (some 3),
    .insert "a" 4]).entries = [("b", 3), ("a", 4)] := by decide

end Chain

end MockHttp.Middleware
