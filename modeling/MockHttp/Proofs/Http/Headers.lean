import Mathlib.Data.List.Induction
import Mathlib.Data.List.Nodup
import MockHttp.Http.Headers

/-!
# Proper headers

The names of headers are kept in lower case and none is kept twice. Setting a header keeps it so,
though a name may be given in any case.

Results:
1. `sameName_iff`: for names in lower case, to be equal up to case is to be equal.
2. `names_insertEntry`: setting a header adds its name where it is new.
3. `IsProper.insert`: setting a header keeps headers proper.
4. `IsProper.get?_eq_some_iff`: the value of a header is the one kept with its name.
5. `entries_ofList`: what headers are after some have been set one after the other.
-/

namespace MockHttp

/-! ## Names in lower case -/

namespace Text

/-- The text holds no letter from A to Z. -/
def IsLower (s : String) : Prop := ∀ c ∈ s.toList, c.isUpper = false

theorem isUpper_iff {c : Char} : c.isUpper = true ↔ c.val ≥ 'A'.val ∧ c.val ≤ 'Z'.val :=
  decide_eq_true_iff

theorem toLower_of_isUpper_eq_false {c : Char} (h : c.isUpper = false) : c.toLower = c :=
  dif_neg fun hupper => Bool.eq_false_iff.mp h (isUpper_iff.mpr hupper)

theorem isUpper_toLower (c : Char) : c.toLower.isUpper = false := by
  rw [Bool.eq_false_iff, Ne, isUpper_iff]
  unfold Char.toLower
  split
  · next h => grind [UInt32.toNat_add]
  · next h => exact h

theorem isLower_asciiLower (s : String) : IsLower (asciiLower s) := by
  intro c hc
  rw [asciiLower, String.toList_ofList] at hc
  obtain ⟨d, -, rfl⟩ := List.mem_map.mp hc
  exact isUpper_toLower d

theorem asciiLower_of_isLower {s : String} (hs : IsLower s) : asciiLower s = s := by
  have hmap : s.toList.map Char.toLower = s.toList.map id :=
    List.map_congr_left fun c hc => toLower_of_isUpper_eq_false (hs c hc)
  rw [asciiLower, hmap, List.map_id, String.ofList_toList]

/-- A name in lower case is equal to another one up to case if that one in lower case is it. -/
theorem sameName_iff {s t : String} (hs : IsLower s) :
    sameName s t = true ↔ s = asciiLower t := by
  rw [sameName, beq_iff_eq, asciiLower_of_isLower hs]

end Text

/-! ## Headers -/

namespace Http.Headers

open Text

def namesOf (entries : List (String × String)) : List String := entries.map (·.1)

/-- Every name is in lower case, and none occurs twice. -/
structure IsProper (h : Headers) : Prop where
  lower : ∀ name ∈ namesOf h.entries, IsLower name
  distinct : (namesOf h.entries).Nodup

/-- Setting a header adds its name at the end where it is new, and no name where it is not. -/
theorem names_insertEntry (name value : String) {entries : List (String × String)}
    (h : ∀ n ∈ namesOf entries, IsLower n) :
    namesOf (insertEntry name value entries) =
      if asciiLower name ∈ namesOf entries then namesOf entries
      else namesOf entries ++ [asciiLower name] := by
  induction entries with
  | nil => rfl
  | cons entry rest ih =>
    obtain ⟨n, v⟩ := entry
    have hn : IsLower n := h n List.mem_cons_self
    have hrest := ih fun m hm => h m (List.mem_cons_of_mem _ hm)
    cases hsame : sameName n name with
    | true =>
      have heq : n = asciiLower name := (sameName_iff hn).mp hsame
      have hmem : asciiLower name ∈ namesOf ((n, v) :: rest) := heq ▸ List.mem_cons_self
      rw [insertEntry, if_pos hsame, if_pos hmem]
      rfl
    | false =>
      have hne : asciiLower name ≠ n := by
        intro heq
        rw [(sameName_iff hn).mpr heq.symm] at hsame
        exact absurd hsame (by simp)
      have hmem : asciiLower name ∈ namesOf ((n, v) :: rest) ↔ asciiLower name ∈ namesOf rest :=
        ⟨fun hm => (List.mem_cons.mp hm).resolve_left hne, List.mem_cons_of_mem _⟩
      rw [insertEntry, if_neg (by simp [hsame])]
      show n :: namesOf (insertEntry name value rest) = _
      rw [hrest]
      simp only [hmem]
      split
      · rfl
      · rfl

/-- A header that is set is found, and under other names the headers are as before. -/
theorem get?_insert (h : Headers) (name value asked : String) :
    (h.insert name value).get? asked =
      if sameName name asked then some value else h.get? asked := by
  obtain ⟨entries⟩ := h
  show ((insertEntry name value entries).find? (sameName ·.1 asked)).map (·.2) =
    if sameName name asked then some value
    else (entries.find? (sameName ·.1 asked)).map (·.2)
  induction entries with
  | nil =>
    have hlower : sameName (asciiLower name) asked = sameName name asked := by
      rw [sameName, asciiLower_of_isLower (isLower_asciiLower name), sameName]
    rw [insertEntry, List.find?_singleton, hlower]
    split <;> rfl
  | cons entry rest ih =>
    obtain ⟨n, v⟩ := entry
    rw [insertEntry]
    split
    · next hsame =>
      -- the entry that is replaced is found under the same names
      have hasked : sameName n asked = sameName name asked := by
        rw [sameName, beq_iff_eq.mp hsame, sameName]
      rw [List.find?_cons, List.find?_cons, hasked]
      cases sameName name asked <;> rfl
    · next hother =>
      rw [List.find?_cons, List.find?_cons]
      cases hasked : sameName n asked with
      | false => exact ih
      | true =>
        have hname : ¬sameName name asked = true := fun h => hother
          (beq_iff_eq.mpr ((beq_iff_eq.mp hasked).trans (beq_iff_eq.mp h).symm))
        rw [if_neg hname]

/-- A header that is set has the value that it was set to. -/
theorem get?_insert_self (h : Headers) (name value : String) :
    (h.insert name value).get? name = some value := by
  have hsame : sameName name name = true := beq_self_eq_true _
  rw [get?_insert, if_pos hsame]

namespace IsProper

variable {h : Headers}

theorem empty : IsProper .empty := ⟨fun _ hname => absurd hname List.not_mem_nil, .nil⟩

theorem insert (hh : h.IsProper) (name value : String) : (h.insert name value).IsProper := by
  have hnames := names_insertEntry name value hh.lower
  constructor
  · intro n hn
    rw [Headers.insert, hnames] at hn
    split at hn
    · exact hh.lower n hn
    · rcases List.mem_append.mp hn with hn | hn
      · exact hh.lower n hn
      · rw [List.mem_singleton.mp hn]
        exact isLower_asciiLower name
  · rw [Headers.insert, hnames]
    split
    · exact hh.distinct
    · next hnew =>
      exact List.nodup_append.mpr ⟨hh.distinct, List.nodup_singleton _, fun n hn m hm heq =>
        hnew (List.mem_singleton.mp hm ▸ heq ▸ hn)⟩

/-- A header has the value that is kept with its name. -/
theorem get?_eq_some_iff (hh : h.IsProper) {name : String} (hname : IsLower name) {value : String} :
    h.get? name = some value ↔ (name, value) ∈ h.entries := by
  obtain ⟨entries⟩ := h
  obtain ⟨hlower, hdistinct⟩ := hh
  show (entries.find? (sameName ·.1 name)).map (·.2) = some value ↔ (name, value) ∈ entries
  induction entries with
  | nil => simp
  | cons entry rest ih =>
    obtain ⟨n, v⟩ := entry
    have hn : sameName n name = true ↔ n = name := by
      rw [sameName_iff (hlower n List.mem_cons_self), asciiLower_of_isLower hname]
    obtain ⟨hnew, hrest⟩ := List.nodup_cons.mp hdistinct
    cases hsame : sameName n name with
    | true =>
      obtain rfl := hn.mp hsame
      simp only [List.find?_cons, hsame, Option.map_some, Option.some_inj, List.mem_cons,
        Prod.mk.injEq, true_and]
      constructor
      · rintro rfl
        exact .inl rfl
      · rintro (rfl | hmem)
        · rfl
        · exact absurd (List.mem_map_of_mem (f := (·.1)) hmem) hnew
    | false =>
      have hne : n ≠ name := fun heq => by
        rw [hn.mpr heq] at hsame
        exact absurd hsame (by simp)
      simp only [List.find?_cons, hsame, List.mem_cons, Prod.mk.injEq]
      rw [ih (fun m hm => hlower m (List.mem_cons_of_mem _ hm)) hrest]
      constructor
      · exact .inr
      · rintro (⟨heq, -⟩ | hmem)
        · exact absurd heq.symm hne
        · exact hmem

/-- Headers are what is found under their names. -/
theorem entries_eq (hh : h.IsProper) :
    h.entries = (namesOf h.entries).filterMap fun name => (h.get? name).map (name, ·) := by
  have hfound : ∀ entry ∈ h.entries,
      (h.get? entry.1).map (entry.1, ·) = some entry := by
    rintro ⟨name, value⟩ hentry
    have hlower := hh.lower name (List.mem_map_of_mem (f := (·.1)) hentry)
    rw [(hh.get?_eq_some_iff hlower).mpr hentry]
    rfl
  rw [namesOf, List.filterMap_map]
  exact ((List.filterMap_congr hfound).trans List.filterMap_some).symm

end IsProper

/-! ## Headers set one after the other -/

/-- The pairs as headers: every name once, in lower case and in the place where it comes first, with
the value that comes last. -/
def overlaid (pairs : List (String × String)) : List (String × String) :=
  (pairs.map (asciiLower ·.1)).eraseDups.filterMap fun name =>
    (pairs.reverse.find? (sameName ·.1 name)).map fun pair => (name, pair.2)

theorem ofList_concat (pairs : List (String × String)) (name value : String) :
    ofList (pairs ++ [(name, value)]) = (ofList pairs).insert name value := by
  rw [ofList, List.foldl_append]
  rfl

theorem isProper_ofList (pairs : List (String × String)) : (ofList pairs).IsProper := by
  induction pairs using List.reverseRecOn with
  | nil => exact .empty
  | append_singleton pairs pair ih =>
    rw [ofList_concat]
    exact ih.insert pair.1 pair.2

theorem names_ofList (pairs : List (String × String)) :
    namesOf (ofList pairs).entries = (pairs.map (asciiLower ·.1)).eraseDups := by
  induction pairs using List.reverseRecOn with
  | nil => rfl
  | append_singleton pairs pair ih =>
    obtain ⟨name, value⟩ := pair
    rw [ofList_concat, insert, names_insertEntry name value (isProper_ofList pairs).lower, ih,
      List.map_append, List.eraseDups_append]
    split
    · next hmem =>
      have hold : asciiLower name ∈ pairs.map (asciiLower ·.1) := List.mem_eraseDups.mp hmem
      simp [List.removeAll, List.mem_map.mp hold]
    · next hnew =>
      have hnew : asciiLower name ∉ pairs.map (asciiLower ·.1) :=
        fun h => hnew (List.mem_eraseDups.mpr h)
      simp [List.removeAll, hnew, List.eraseDups_cons]

theorem get?_ofList (pairs : List (String × String)) (asked : String) :
    (ofList pairs).get? asked = (pairs.reverse.find? (sameName ·.1 asked)).map (·.2) := by
  induction pairs using List.reverseRecOn with
  | nil => rfl
  | append_singleton pairs pair ih =>
    obtain ⟨name, value⟩ := pair
    rw [ofList_concat, get?_insert, ih, List.reverse_append, List.reverse_singleton,
      List.singleton_append, List.find?_cons]
    cases sameName name asked <;> rfl

/-- Headers set one after the other keep the order in which their names come first and the values
that come last. -/
theorem entries_ofList (pairs : List (String × String)) :
    (ofList pairs).entries = overlaid pairs := by
  rw [(isProper_ofList pairs).entries_eq, names_ofList, overlaid]
  refine List.filterMap_congr fun name _ => ?_
  rw [get?_ofList, Option.map_map]
  rfl

end Http.Headers

end MockHttp
