import Mathlib.Data.String.Basic
import MockHttp.Members

/-!
# What members are

A list of members finds under a name the value that was set last, and members that are in order are
what setting them one after the other gives.

Results:
1. `lookup_insertMember`: what setting a member changes.
2. `lookup_sortMembers`: the last of several values of a name counts.
3. `isSorted_sortMembers`: the members are in order.
4. `sortMembers_eq`: setting members that are in order gives them back.
5. `perm_sortMembers`: setting members of different names loses none of them.
-/

namespace MockHttp

/-- The members are in ascending order of their names, no two of which are the same. -/
def IsSorted {ν : Type} (members : List (String × ν)) : Prop := members.Pairwise (·.1 < ·.1)

instance {ν : Type} (members : List (String × ν)) : Decidable (IsSorted members) :=
  inferInstanceAs (Decidable (members.Pairwise _))

section

variable {ν : Type} {name : String} {value : ν} {all pairs : List (String × ν)}

theorem lookup_pair (n m : String) (v : ν) (rest : List (String × ν)) :
    ((m, v) :: rest).lookup n = if n = m then some v else rest.lookup n := by
  by_cases h : n = m
  · rw [if_pos h, List.lookup_cons, beq_iff_eq.mpr h]
  · rw [if_neg h, List.lookup_cons, beq_false_of_ne h]

/-- A member that is set is found, and under other names the members are as before. -/
theorem lookup_insertMember (n : String) :
    (insertMember name value all).lookup n = if n = name then some value else all.lookup n := by
  induction all with
  | nil => exact lookup_pair n name value []
  | cons entry rest ih =>
    obtain ⟨m, v⟩ := entry
    rw [insertMember]
    split
    · exact lookup_pair n name value _
    · split
      · next heq =>
        subst heq
        rw [lookup_pair, lookup_pair]
        split <;> rfl
      · next hne =>
        rw [lookup_pair, lookup_pair, ih]
        by_cases hm : n = m
        · subst hm
          rw [if_pos rfl, if_neg (Ne.symm hne), if_pos rfl]
        · rw [if_neg hm, if_neg hm]

theorem lookup_foldl_insertMember (n : String) :
    (pairs.foldl (fun all (name, value) => insertMember name value all) all).lookup n =
      (pairs.reverse.lookup n).or (all.lookup n) := by
  induction pairs generalizing all with
  | nil => rfl
  | cons pair pairs ih =>
    obtain ⟨m, v⟩ := pair
    rw [List.foldl_cons, ih, lookup_insertMember, List.reverse_cons, List.lookup_append,
      Option.or_assoc, lookup_pair]
    split <;> rfl

/-- A name finds the last of the values that it was set to. -/
theorem lookup_sortMembers (n : String) :
    (sortMembers pairs).lookup n = pairs.reverse.lookup n := by
  rw [sortMembers, lookup_foldl_insertMember, List.lookup_nil, Option.or_none]

theorem mem_of_mem_insertMember {member : String × ν} (h : member ∈ insertMember name value all) :
    member = (name, value) ∨ member ∈ all := by
  induction all with
  | nil => exact .inl (List.mem_singleton.mp h)
  | cons entry rest ih =>
    obtain ⟨m, v⟩ := entry
    rw [insertMember] at h
    split at h
    · exact List.mem_cons.mp h
    · split at h
      · exact (List.mem_cons.mp h).imp_right (List.mem_cons_of_mem _)
      · rcases List.mem_cons.mp h with rfl | h
        · exact .inr List.mem_cons_self
        · exact (ih h).imp_right (List.mem_cons_of_mem _)

/-- Setting a member keeps the members in order. -/
theorem IsSorted.insertMember (h : IsSorted all) : IsSorted (insertMember name value all) := by
  induction all with
  | nil => exact List.pairwise_singleton _ _
  | cons entry rest ih =>
    obtain ⟨m, v⟩ := entry
    obtain ⟨hless, hrest⟩ := List.pairwise_cons.mp h
    rw [MockHttp.insertMember]
    split
    · next hlt =>
      refine List.pairwise_cons.mpr ⟨fun member hmember => ?_, h⟩
      rcases List.mem_cons.mp hmember with rfl | hmember
      · exact hlt
      · exact lt_trans hlt (hless member hmember)
    · next hle =>
      split
      · next heq =>
        subst heq
        exact List.pairwise_cons.mpr ⟨hless, hrest⟩
      · next hne =>
        refine List.pairwise_cons.mpr ⟨fun member hmember => ?_, ih hrest⟩
        rcases mem_of_mem_insertMember hmember with rfl | hmember
        · exact lt_of_le_of_ne (not_lt.mp hle) (Ne.symm hne)
        · exact hless member hmember

theorem isSorted_sortMembers : IsSorted (sortMembers pairs) := by
  have hfold : ∀ all : List (String × ν), IsSorted all →
      IsSorted (pairs.foldl (fun all (name, value) => insertMember name value all) all) := by
    induction pairs with
    | nil => exact fun all h => h
    | cons pair pairs ih => exact fun all h => ih _ h.insertMember
  exact hfold [] .nil

/-- A member with a name after all the others is put at the end. -/
theorem insertMember_last (h : ∀ member ∈ all, member.1 < name) :
    insertMember name value all = all ++ [(name, value)] := by
  induction all with
  | nil => rfl
  | cons entry rest ih =>
    obtain ⟨m, v⟩ := entry
    have hlt : m < name := h _ List.mem_cons_self
    rw [insertMember, if_neg hlt.not_gt, if_neg hlt.ne', ih fun member hmember =>
      h member (List.mem_cons_of_mem _ hmember)]
    rfl

theorem perm_insertMember (h : name ∉ all.map (·.1)) :
    (insertMember name value all).Perm ((name, value) :: all) := by
  induction all with
  | nil => exact .rfl
  | cons entry rest ih =>
    obtain ⟨m, v⟩ := entry
    rw [List.map_cons, List.mem_cons, not_or] at h
    rw [insertMember]
    split
    · exact .rfl
    · rw [if_neg h.1]
      exact ((ih h.2).cons (m, v)).trans (.swap (name, value) (m, v) rest)

/-- Members of different names are all there after they have been set. -/
theorem perm_sortMembers (h : (pairs.map (·.1)).Nodup) : (sortMembers pairs).Perm pairs := by
  have hfold : ∀ all : List (String × ν), ((pairs ++ all).map (·.1)).Nodup →
      (pairs.foldl (fun all (name, value) => insertMember name value all) all).Perm
        (pairs ++ all) := by
    clear h
    induction pairs with
    | nil => exact fun all _ => .rfl
    | cons pair pairs ih =>
      intro all hall
      have hmiddle : (pairs ++ pair :: all).Perm (pair :: (pairs ++ all)) := List.perm_middle
      have hnew : pair.1 ∉ all.map (·.1) := fun hmem =>
        (List.nodup_cons.mp hall).1 (List.map_append ▸ List.mem_append_right _ hmem)
      have hinsert : (insertMember pair.1 pair.2 all).Perm (pair :: all) := perm_insertMember hnew
      have hrest : (pairs ++ insertMember pair.1 pair.2 all).Perm (pair :: (pairs ++ all)) :=
        (hinsert.append_left pairs).trans hmiddle
      exact (ih _ ((hrest.map (·.1)).nodup_iff.mpr hall)).trans hrest
  have hpairs := hfold [] (by rwa [List.append_nil])
  rwa [List.append_nil] at hpairs

/-- Members that are in order are what they set. -/
theorem sortMembers_eq (h : IsSorted pairs) : sortMembers pairs = pairs := by
  have hfold : ∀ all : List (String × ν), IsSorted (all ++ pairs) →
      pairs.foldl (fun all (name, value) => insertMember name value all) all = all ++ pairs := by
    clear h
    induction pairs with
    | nil => exact fun all _ => (List.append_nil all).symm
    | cons pair pairs ih =>
      intro all hall
      obtain ⟨-, -, hbefore⟩ := List.pairwise_append.mp hall
      have hlast : insertMember pair.1 pair.2 all = all ++ [pair] :=
        insertMember_last fun member hmember => hbefore member hmember pair List.mem_cons_self
      rw [List.append_cons] at hall ⊢
      rw [List.foldl_cons, ← ih _ hall, ← hlast]
  exact hfold [] h

end

end MockHttp
