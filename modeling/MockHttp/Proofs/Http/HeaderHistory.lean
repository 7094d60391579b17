import MockHttp.Proofs.Http.Headers
import MockHttp.Proofs.Json.RoundTrip
import MockHttp.Proofs.Middleware.History

/-!
# What headers hold after their history

In lower case, names that are equal up to case are equal, and headers are what a chain is: of the
changes of a name the last one counts, and a name stands where it was first set since it was last
removed. So the history of headers is one of a chain whose names are in lower case, and what is
known of chains says what the headers are.

Results:
1. `remove_eq`: a removal gives the value that was there.
2. `entries_after`: headers are what a chain is after the history in lower case.
3. `get?_perform`: what a change of one name changes.
4. `parse?_layout`: the document of headers has a member for every name.
5. `after_history`: all of this for any changes.
-/

namespace MockHttp.Http.Headers

open Text Middleware

/-! ## Single changes -/

/-- What is removed is the first entry of the name, and what is given is its value. -/
theorem remove_eq (h : Headers) (name : String) : h.remove name = (h.erase name, h.get? name) := by
  obtain ⟨entries⟩ := h
  simp only [remove, erase, get?]
  induction entries with
  | nil => rfl
  | cons entry rest ih =>
    obtain ⟨n, v⟩ := entry
    rw [List.findIdx?_cons, List.find?_cons, eraseEntry]
    cases hsame : sameName n name with
    | true => rfl
    | false =>
      cases hfound : rest.findIdx? (sameName ·.1 name) with
      | none =>
        rw [hfound] at ih
        obtain ⟨herase, hvalue⟩ := Prod.mk.inj ih
        simp only [Bool.false_eq_true, if_false, Option.map_none, ← Headers.mk.inj herase, ← hvalue]
      | some i =>
        rw [hfound] at ih
        obtain ⟨herase, hvalue⟩ := Prod.mk.inj ih
        simp only [Bool.false_eq_true, if_false, Option.map_some, List.eraseIdx_cons_succ,
          List.getElem?_cons_succ, Headers.mk.inj herase, hvalue]

section Lower

variable {entries : List (String × String)}

/-- Among names in lower case a header is set as a name of a chain is. -/
theorem insertEntry_eq (h : ∀ n ∈ namesOf entries, IsLower n) (name value : String) :
    insertEntry name value entries = Chain.insertEntry (asciiLower name) value entries := by
  induction entries with
  | nil => rfl
  | cons entry rest ih =>
    obtain ⟨n, v⟩ := entry
    have hrest := ih fun m hm => h m (List.mem_cons_of_mem _ hm)
    simp only [insertEntry, Chain.insertEntry, sameName_iff (h n List.mem_cons_self), hrest]

theorem eraseEntry_eq (h : ∀ n ∈ namesOf entries, IsLower n) (name : String) :
    eraseEntry name entries = Chain.eraseEntry (asciiLower name) entries := by
  induction entries with
  | nil => rfl
  | cons entry rest ih =>
    obtain ⟨n, v⟩ := entry
    have hrest := ih fun m hm => h m (List.mem_cons_of_mem _ hm)
    simp only [eraseEntry, Chain.eraseEntry, sameName_iff (h n List.mem_cons_self), hrest]

theorem find?_eq_lookup (h : ∀ n ∈ namesOf entries, IsLower n) (asked : String) :
    (entries.find? (sameName ·.1 asked)).map (·.2) = entries.lookup (asciiLower asked) := by
  induction entries with
  | nil => rfl
  | cons entry rest ih =>
    obtain ⟨n, v⟩ := entry
    have hrest := ih fun m hm => h m (List.mem_cons_of_mem _ hm)
    have hn : sameName n asked = true ↔ n = asciiLower asked :=
      sameName_iff (h n List.mem_cons_self)
    rw [List.find?_cons, List.lookup_cons]
    by_cases heq : n = asciiLower asked
    · rw [hn.mpr heq, beq_iff_eq.mpr heq.symm]
      rfl
    · rw [Bool.eq_false_iff.mpr (mt hn.mp heq), beq_false_of_ne (Ne.symm heq), hrest]

end Lower

namespace IsProper

variable {h : Headers}

theorem get?_eq_lookup (hh : h.IsProper) (asked : String) :
    h.get? asked = h.entries.lookup (asciiLower asked) := find?_eq_lookup hh.lower asked

theorem erase (hh : h.IsProper) (name : String) : (h.erase name).IsProper := by
  have hnames : namesOf (h.erase name).entries = (namesOf h.entries).erase (asciiLower name) := by
    rw [Headers.erase, eraseEntry_eq hh.lower]
    exact Chain.names_eraseEntry _ _
  constructor
  · exact fun n hn => hh.lower n (List.mem_of_mem_erase (hnames ▸ hn))
  · exact hnames ▸ hh.distinct.erase _

/-- A header that is removed is gone, and under other names the headers are as before. -/
theorem get?_erase (hh : h.IsProper) (name asked : String) :
    (h.erase name).get? asked = if sameName name asked then none else h.get? asked := by
  have hsame : asciiLower asked = asciiLower name ↔ sameName name asked = true := by
    rw [sameName, beq_iff_eq, eq_comm]
  rw [(hh.erase name).get?_eq_lookup, hh.get?_eq_lookup, Headers.erase, eraseEntry_eq hh.lower,
    Chain.lookup_eraseEntry _ _ hh.distinct]
  simp only [hsame]

/-- Of the entries only those of the name are gone. -/
theorem entries_erase (hh : h.IsProper) (name : String) :
    (h.erase name).entries = h.entries.filter (!sameName ·.1 name) := by
  obtain ⟨entries⟩ := h
  obtain ⟨hlower, hdistinct⟩ := hh
  show eraseEntry name entries = entries.filter (!sameName ·.1 name)
  induction entries with
  | nil => rfl
  | cons entry rest ih =>
    obtain ⟨n, v⟩ := entry
    obtain ⟨hnew, hrest⟩ := List.nodup_cons.mp hdistinct
    rw [eraseEntry, List.filter_cons]
    cases hsame : sameName n name with
    | true =>
      -- no other entry has the name
      have hothers : ∀ e ∈ rest, (!sameName e.1 name) = true := by
        intro e he
        have hmem : e.1 ∈ namesOf rest := List.mem_map_of_mem he
        rw [Bool.not_eq_true', Bool.eq_false_iff]
        intro hsame'
        refine hnew ?_
        rw [(sameName_iff (hlower n List.mem_cons_self)).mp hsame,
          ← (sameName_iff (hlower e.1 (List.mem_cons_of_mem _ hmem))).mp hsame']
        exact hmem
      exact (List.filter_eq_self.mpr hothers).symm
    | false =>
      simp only [Bool.false_eq_true, if_false, Bool.not_false, if_true]
      rw [ih (fun m hm => hlower m (List.mem_cons_of_mem _ hm)) hrest]

end IsProper

/-! ## Histories -/

inductive Change where
  | insert (name value : String)
  | remove (name : String)
  /-- The headers are made anew from pairs. -/
  | collect (pairs : List (String × String))

namespace Change

def name? : Change → Option String
  | insert name _ | remove name => some name
  | collect _ => none

/-- The value that a name is set to; none if it is removed. -/
def value? : Change → Option String
  | insert _ value => some value
  | remove _ | collect _ => none

end Change

def perform (h : Headers) : Change → Headers
  | .insert name value => h.insert name value
  | .remove name => (h.remove name).1
  | .collect pairs => ofList pairs

/-- The headers after some changes, starting with none. -/
def after (changes : List Change) : Headers := changes.foldl perform empty

/-- The history of names in lower case after a change. One that makes the headers anew begins it
again. -/
def record (past : List (Middleware.Change String)) : Change → List (Middleware.Change String)
  | .insert name value => past ++ [.insert (asciiLower name) value]
  | .remove name => past ++ [.remove (asciiLower name)]
  | .collect pairs => pairs.map fun pair => .insert (asciiLower pair.1) pair.2

/-- The history of names in lower case. -/
def history (changes : List Change) : List (Middleware.Change String) := changes.foldl record []

/-- What a change of a single name changes. -/
theorem get?_perform {h : Headers} (hh : h.IsProper) {change : Change} {name : String}
    (hname : change.name? = some name) (asked : String) :
    (h.perform change).get? asked =
      if sameName name asked then change.value? else h.get? asked := by
  cases change with
  | insert n value =>
    obtain rfl := Option.some_inj.mp hname
    exact get?_insert h n value asked
  | remove n =>
    obtain rfl := Option.some_inj.mp hname
    rw [perform, remove_eq]
    exact hh.get?_erase n asked
  | collect pairs => cases hname

theorem isProper_perform {h : Headers} (hh : h.IsProper) (change : Change) :
    (h.perform change).IsProper := by
  cases change with
  | insert name value => exact hh.insert name value
  | remove name =>
    rw [perform, remove_eq]
    exact hh.erase name
  | collect pairs => exact isProper_ofList pairs

theorem entries_ofList_eq (pairs : List (String × String)) : (ofList pairs).entries =
    (Chain.after (pairs.map fun pair => .insert (asciiLower pair.1) pair.2)).entries := by
  induction pairs using List.reverseRecOn with
  | nil => rfl
  | append_singleton pairs pair ih =>
    rw [ofList_concat, insert, insertEntry_eq (isProper_ofList pairs).lower, ih, List.map_append,
      List.map_singleton, Chain.after_concat]
    rfl

/-- One change keeps headers the chain of their history. -/
theorem entries_perform {h : Headers} (hh : h.IsProper) {past : List (Middleware.Change String)}
    (hpast : h.entries = (Chain.after past).entries) (change : Change) :
    (h.perform change).entries = (Chain.after (record past change)).entries := by
  cases change with
  | insert name value =>
    rw [record, Chain.after_concat, perform, insert, insertEntry_eq hh.lower, hpast]
    rfl
  | remove name =>
    rw [record, Chain.after_concat, perform, remove_eq, erase, eraseEntry_eq hh.lower, hpast]
    rfl
  | collect pairs => exact entries_ofList_eq pairs

/-- Headers are proper after any changes, and what a chain is after their history. -/
theorem entries_after (changes : List Change) : (after changes).IsProper ∧
    (after changes).entries = (Chain.after (history changes)).entries := by
  induction changes using List.reverseRecOn with
  | nil => exact ⟨.empty, rfl⟩
  | append_singleton changes change ih =>
    obtain ⟨hproper, hentries⟩ := ih
    have hafter : after (changes ++ [change]) = (after changes).perform change := by
      rw [after, List.foldl_append]
      rfl
    have hhistory : history (changes ++ [change]) = record (history changes) change := by
      rw [history, List.foldl_append]
      rfl
    rw [hafter, hhistory]
    exact ⟨isProper_perform hproper change, entries_perform hproper hentries change⟩

/-- Changes of names that differ in more than case make no difference to each other. -/
theorem get?_perform_perform {h : Headers} (hh : h.IsProper) {a b : Change} {m n : String}
    (ha : a.name? = some m) (hb : b.name? = some n) (hmn : sameName m n = false) (asked : String) :
    ((h.perform a).perform b).get? asked = ((h.perform b).perform a).get? asked := by
  rw [get?_perform (isProper_perform hh a) hb, get?_perform hh ha,
    get?_perform (isProper_perform hh b) ha, get?_perform hh hb]
  cases hm : sameName m asked with
  | false => simp
  | true =>
    have hn : sameName n asked = false := by
      rw [← hmn, sameName, sameName, beq_iff_eq.mp hm, Bool.eq_iff_iff, beq_iff_eq, beq_iff_eq,
        eq_comm]
    simp [hn]

/-! ## Documents -/

def members (h : Headers) : List (String × Json) := h.entries.map fun e => (e.1, .string e.2)

theorem compactText_layout (h : Headers) : h.layout.compactText =
    '\x7B' :: (Json.commaSeparated (Json.compactMembers h.members) ++ ['\x7D']) := by
  have hmembers (entries : List (String × String)) :
      Json.Layout.compactMembers (entries.map fun e => (e.1, .value (.string e.2))) =
        Json.compactMembers (entries.map fun e => (e.1, .string e.2)) := by
    induction entries with
    | nil => rfl
    | cons entry rest ih =>
      rw [List.map_cons, List.map_cons, Json.Layout.compactMembers, Json.compactMembers, ih]
      rfl
  rw [layout, Json.Layout.compactText, members, ← hmembers]
  rfl

/-- The document of headers is read as an object that has a member for every name, with its
value. -/
theorem parse?_layout {h : Headers} (hh : h.IsProper) :
    ∃ ms : List (String × Json), Json.parse? h.layout.compact = some (.object ms) ∧
      ms.Perm h.members := by
  have hstring : ∀ m ∈ h.members, ∃ s, m.2 = .string s := by
    intro m hm
    obtain ⟨e, -, rfl⟩ := List.mem_map.mp hm
    exact ⟨e.2, rfl⟩
  have hint : ∀ m ∈ h.members, Json.IsIntegral m.2 := fun m hm => by
    obtain ⟨s, hs⟩ := hstring m hm
    exact hs ▸ .string s
  have hdepth : Json.membersDepth h.members = 0 := by
    generalize h.members = ms at hstring
    induction ms with
    | nil => rfl
    | cons m ms ih =>
      obtain ⟨⟨s, hs⟩, hms⟩ := List.forall_mem_cons.mp hstring
      rw [Json.membersDepth, hs, ih hms]
      rfl
  have hread : Json.value Json.maxDepth h.layout.compactText =
      some (Json.ofMembers h.members, []) := by
    rw [compactText_layout, Json.value_compactMembers hint
      (fun m hm => Json.isReadBack_of_isIntegral (hint m hm)), hdepth, if_pos (by decide)]
  refine ⟨sortMembers h.members, ?_, perm_sortMembers ?_⟩
  · have hskip : Json.skipBlank h.layout.compactText = h.layout.compactText := by
      rw [compactText_layout]
      rfl
    rw [Json.parse?, Json.Layout.compact, String.toList_ofList, hskip, hread]
    rfl
  · rw [members, List.map_map]
    exact hh.distinct

/-! ## The whole history -/

/-- What headers are after any changes. Every name is in lower case and there once. The value of a
header is what it was last set to under a name that is equal up to case, unless it was removed
since; making the headers anew from pairs forgets what was before and sets each pair. The names
stand in the order of the changes that first set them since they were last removed. A removal gives
the value that was there, and takes away the entry of this name and nothing else. Changes of names
that differ in more than case may be exchanged without any effect on the values. So the document of
headers is an object with distinct keys: it is read as one that has exactly the names and values of
the headers. -/
theorem after_history (changes : List Change) :
    let h := after changes
    h.IsProper ∧
    (∀ asked, h.get? asked = latest? (history changes) (asciiLower asked)) ∧
    (∀ name ∈ namesOf h.entries, ∃! i, Opens (history changes) name i) ∧
    ((namesOf h.entries).Pairwise fun a b =>
      ∃ i j, Opens (history changes) a i ∧ Opens (history changes) b j ∧ i < j) ∧
    (∀ name, (h.remove name).2 = h.get? name ∧
      (h.remove name).1.entries = h.entries.filter (!sameName ·.1 name)) ∧
    (∀ a b m n, a.name? = some m → b.name? = some n → sameName m n = false → ∀ asked,
      ((h.perform a).perform b).get? asked = ((h.perform b).perform a).get? asked) ∧
    (∃ documents : List (String × Json.Layout), h.layout = .object documents ∧
      (documents.map (·.1)).Nodup) ∧
    ∃ ms : List (String × Json), Json.parse? h.layout.compact = some (.object ms) ∧
      ms.Perm h.members := by
  intro h
  obtain ⟨hproper, hentries⟩ := entries_after changes
  have hnames : namesOf h.entries = (Chain.after (history changes)).names :=
    congrArg namesOf hentries
  refine ⟨hproper, fun asked => ?_, fun name hname => ?_, hnames ▸ Chain.pairwise_opens _,
    fun name => ?_, fun a b m n => get?_perform_perform hproper, ⟨_, rfl, ?_⟩,
    parse?_layout hproper⟩
  · rw [hproper.get?_eq_lookup, hentries, Chain.lookup_after]
  · obtain ⟨i, hi⟩ := Chain.mem_names_iff_opens.mp (hnames ▸ hname)
    exact ⟨i, hi, fun j hj => hj.unique hi⟩
  · rw [remove_eq]
    exact ⟨rfl, hproper.entries_erase name⟩
  · rw [List.map_map]
    exact hproper.distinct

/-- A header that is set again keeps its place, whatever the case of its name; two names that differ
in the case of a letter beyond `Z` are two headers, and may be changed in either order. -/
theorem after_history_accents :
    let h := after [.collect [("Accept", "text/html"), ("X-Trace", "1")], .insert "ACCEPT" "*/*",
      .remove "x-trace", .insert "É" "1"]
    h.entries = [("accept", "*/*"), ("É", "1")] ∧ sameName "É" "é" = false ∧
      ((h.perform (.insert "é" "2")).perform (.remove "É")).get? "é" =
        ((h.perform (.remove "É")).perform (.insert "é" "2")).get? "é" := by
  intro h
  have hother : sameName "é" "É" = false := by decide
  obtain ⟨-, -, -, -, -, hexchange, -⟩ := after_history [
    .collect [("Accept", "text/html"), ("X-Trace", "1")], .insert "ACCEPT" "*/*",
    .remove "x-trace", .insert "É" "1"]
  exact ⟨by decide, by decide,
    hexchange (.insert "é" "2") (.remove "É") "é" "É" rfl rfl hother "é"⟩

end MockHttp.Http.Headers
