import Mathlib.Algebra.Ring.Parity
import Mathlib.Data.List.DropRight
import Mathlib.Data.List.Infix
import MockHttp.Proofs.Template.Pieces

/-!
# Guarded bodies

Where a backslash takes the character after it along, a text is a sequence of atoms: such pairs,
characters that stand for themselves, and perhaps a backslash at the end that has nothing to take.
Guarding the body of a group turns every parenthesis and every dollar sign that stands for itself
into a pair, and leaves all other atoms alone. The body of a group of a template never ends with a
stray backslash, so the parenthesis behind it closes the group.

Results:
1. `reading_iff`: a text has one reading.
2. `atoms_append`: what stands behind a text without a stray backslash is read by itself.
3. `stray_mem_atoms_iff`: a backslash is stray where an odd number of them end the text.
4. `atoms_escapeGroup`: the atoms of a guarded text.
5. `escapeGroup_neutral`: what guarding does to any text, and to the body of a group.
-/

namespace MockHttp.Template

/-! ## Atoms -/

/-- What a text consists of where a backslash takes the character after it along. -/
inductive Atom where
  /-- A backslash and the character that it takes along. -/
  | pair (c : Char)
  /-- A character that stands for itself. -/
  | plain (c : Char)
  /-- A backslash with nothing behind it. -/
  | stray
  deriving DecidableEq, Repr

namespace Atom

def text : Atom → List Char
  | pair c => ['\\', c]
  | plain c => [c]
  | stray => ['\\']

/-- What guarding makes of an atom. -/
def guarded : Atom → Atom
  | plain c => if c = '(' ∨ c = ')' ∨ c = '$' then pair c else plain c
  | pair c => pair c
  | stray => stray

/-- The characters of what guarding makes of an atom, each with whether it has been added. -/
def marked : Atom → List (Char × Bool)
  | plain c => if c = '(' ∨ c = ')' ∨ c = '$' then [('\\', true), (c, false)] else [(c, false)]
  | pair c => [('\\', false), (c, false)]
  | stray => [('\\', false)]

/-- The atom opens and closes no group and is no anchor. -/
def IsNeutral : Atom → Prop
  | plain c => c ≠ '\\' ∧ c ≠ '(' ∧ c ≠ ')' ∧ c ≠ '$'
  | pair _ | stray => True

theorem guarded_plain {c : Char} (h : ¬(c = '(' ∨ c = ')' ∨ c = '$')) :
    guarded (plain c) = plain c := if_neg h

theorem guarded_guarded (a : Atom) : a.guarded.guarded = a.guarded := by
  cases a with
  | pair c => rfl
  | plain c =>
    by_cases h : c = '(' ∨ c = ')' ∨ c = '$'
    · rw [guarded, if_pos h, guarded]
    · rw [guarded_plain h, guarded_plain h]
  | stray => rfl

theorem guarded_eq_stray_iff {a : Atom} : a.guarded = stray ↔ a = stray := by
  cases a with
  | pair c => simp [guarded]
  | plain c =>
    rw [guarded]
    split <;> simp
  | stray => simp [guarded]

/-- The marked characters are those of the guarded atom. -/
theorem chars_marked (a : Atom) : a.marked.map (·.1) = a.guarded.text := by
  cases a with
  | pair c => rfl
  | plain c =>
    rw [marked, guarded]
    split <;> rfl
  | stray => rfl

/-- Without those that were added they are the ones of the atom itself. -/
theorem kept_marked (a : Atom) : (a.marked.filter (!·.2)).map (·.1) = a.text := by
  cases a with
  | pair c => rfl
  | plain c =>
    rw [marked]
    split <;> rfl
  | stray => rfl

end Atom

/-- The atoms are those of the text, read from left to right. -/
inductive Reading : List Char → List Atom → Prop
  | nil : Reading [] []
  | pair (c : Char) {cs : List Char} {as : List Atom} :
    Reading cs as → Reading ('\\' :: c :: cs) (.pair c :: as)
  | plain {c : Char} {cs : List Char} {as : List Atom} :
    c ≠ '\\' → Reading cs as → Reading (c :: cs) (.plain c :: as)
  | stray : Reading ['\\'] [.stray]

def atoms : List Char → List Atom
  | [] => []
  | ['\\'] => [.stray]
  | '\\' :: c :: cs => .pair c :: atoms cs
  | c :: cs => .plain c :: atoms cs

@[simp] theorem atoms_nil : atoms [] = [] := rfl

@[simp] theorem atoms_stray : atoms ['\\'] = [.stray] := rfl

@[simp] theorem atoms_pair (c : Char) (cs : List Char) :
    atoms ('\\' :: c :: cs) = .pair c :: atoms cs := rfl

theorem atoms_plain {c : Char} (hc : c ≠ '\\') (cs : List Char) :
    atoms (c :: cs) = .plain c :: atoms cs := by
  rw [atoms]
  · exact fun heq _ => hc heq
  · exact fun _ _ heq _ => hc heq

theorem reading_atoms (cs : List Char) : Reading cs (atoms cs) := by
  fun_induction atoms cs with
  | case1 => exact .nil
  | case2 => exact .stray
  | case3 c cs ih => exact .pair c ih
  | case4 c cs hlone hpair ih =>
    refine .plain ?_ ih
    rintro rfl
    cases cs with
    | nil => exact hlone rfl rfl
    | cons d cs => exact hpair d cs rfl rfl

/-- A text has one reading. -/
theorem reading_iff {cs : List Char} {as : List Atom} : Reading cs as ↔ as = atoms cs := by
  refine ⟨fun h => ?_, fun h => h ▸ reading_atoms cs⟩
  induction h with
  | nil => rfl
  | pair c _ ih => rw [ih, atoms_pair]
  | plain hc _ ih => rw [ih, atoms_plain hc]
  | stray => rfl

theorem text_atoms (cs : List Char) : (atoms cs).flatMap Atom.text = cs := by
  have h := reading_atoms cs
  generalize atoms cs = as at h
  induction h with
  | nil => rfl
  | pair c _ ih => rw [List.flatMap_cons, ih]; rfl
  | plain _ _ ih => rw [List.flatMap_cons, ih]; rfl
  | stray => rfl

/-- What stands for itself is no backslash. -/
theorem ne_of_plain_mem {cs : List Char} {c : Char} (h : .plain c ∈ atoms cs) : c ≠ '\\' := by
  have hreading := reading_atoms cs
  generalize atoms cs = as at h hreading
  induction hreading with
  | nil => exact absurd h List.not_mem_nil
  | pair d _ ih => exact ih (by simpa using h)
  | plain hd _ ih =>
    rcases List.mem_cons.mp h with heq | h
    · exact Atom.plain.inj heq ▸ hd
    · exact ih h
  | stray => exact absurd h (by simp)

/-! ## Stray backslashes -/

/-- What stands behind a text without a stray backslash is read by itself. -/
theorem atoms_append {cs : List Char} (h : .stray ∉ atoms cs) (rest : List Char) :
    atoms (cs ++ rest) = atoms cs ++ atoms rest := by
  have hreading := reading_atoms cs
  generalize atoms cs = as at h hreading
  induction hreading with
  | nil => rfl
  | pair c _ ih =>
    rw [List.cons_append, List.cons_append, atoms_pair, ih (by simpa using h), List.cons_append]
  | plain hc _ ih =>
    rw [List.cons_append, atoms_plain hc, ih (by simpa using h), List.cons_append]
  | stray => exact absurd List.mem_cons_self h

/-- A stray backslash ends the text, and takes along whatever is put behind it. -/
theorem exists_concat_of_stray {cs : List Char} (h : .stray ∈ atoms cs) :
    ∃ before, cs = before ++ ['\\'] ∧ .stray ∉ atoms before := by
  have hreading := reading_atoms cs
  generalize atoms cs = as at h hreading
  induction hreading with
  | nil => exact absurd h List.not_mem_nil
  | pair c _ ih =>
    obtain ⟨before, rfl, hbefore⟩ := ih (by simpa using h)
    exact ⟨'\\' :: c :: before, rfl, by simpa using hbefore⟩
  | plain hc _ ih =>
    obtain ⟨before, rfl, hbefore⟩ := ih (by simpa using h)
    exact ⟨_ :: before, rfl, by simpa [atoms_plain hc] using hbefore⟩
  | stray => exact ⟨[], rfl, List.not_mem_nil⟩

theorem stray_mem_atoms_concat (cs : List Char) (c : Char) :
    .stray ∈ atoms (cs ++ [c]) ↔ c = '\\' ∧ .stray ∉ atoms cs := by
  by_cases h : .stray ∈ atoms cs
  · obtain ⟨before, rfl, hbefore⟩ := exists_concat_of_stray h
    have hpair : atoms (before ++ ['\\', c]) = atoms before ++ [.pair c] := atoms_append hbefore _
    rw [List.append_assoc, List.singleton_append, hpair]
    simp [h, hbefore]
  · rw [atoms_append h, List.mem_append]
    by_cases hc : c = '\\'
    · subst hc
      simp [h]
    · simp [h, hc, atoms_plain hc]

/-- A backslash is stray where the text ends with an odd number of them. -/
theorem stray_mem_atoms_iff (cs : List Char) :
    .stray ∈ atoms cs ↔ Odd (cs.rtakeWhile (· == '\\')).length := by
  induction cs using List.reverseRecOn with
  | nil => simp
  | append_singleton cs c ih =>
    rw [stray_mem_atoms_concat, List.rtakeWhile_concat]
    by_cases hc : c = '\\'
    · simp [hc, ih, Nat.odd_add_one]
    · simp [hc]

/-- Only the last atom can be a stray backslash. -/
theorem stray_notMem_dropLast (cs : List Char) : .stray ∉ (atoms cs).dropLast := by
  by_cases h : .stray ∈ atoms cs
  · obtain ⟨before, rfl, hbefore⟩ := exists_concat_of_stray h
    have hlast : atoms (before ++ ['\\']) = atoms before ++ [.stray] := atoms_append hbefore _
    rwa [hlast, List.dropLast_concat]
  · exact fun hmem => h (List.mem_of_mem_dropLast hmem)

/-! ## Guarded texts -/

/-- Guarding works atom by atom. -/
theorem atoms_escapeGroup (g : List Char) : atoms (escapeGroup g) = (atoms g).map Atom.guarded := by
  have hreading := reading_atoms g
  generalize atoms g = as at hreading
  induction hreading with
  | nil => rfl
  | pair c _ ih => exact congrArg (.pair c :: ·) ih
  | @plain c cs as hc _ ih =>
    have hescape : escapeGroup (c :: cs) = if c = '(' ∨ c = ')' ∨ c = '$'
        then '\\' :: c :: escapeGroup cs else c :: escapeGroup cs := by
      rw [escapeGroup]
      · exact fun heq _ => hc heq
      · exact fun _ _ heq _ => hc heq
    rw [hescape, List.map_cons, Atom.guarded]
    split
    · rw [atoms_pair, ih]
    · rw [atoms_plain hc, ih]
  | stray => rfl

theorem stray_mem_atoms_escapeGroup {g : List Char} :
    .stray ∈ atoms (escapeGroup g) ↔ .stray ∈ atoms g := by
  rw [atoms_escapeGroup, List.mem_map]
  constructor
  · rintro ⟨a, ha, hstray⟩
    rwa [Atom.guarded_eq_stray_iff.mp hstray] at ha
  · exact fun h => ⟨.stray, h, rfl⟩

theorem isNeutral_of_mem {g : List Char} {a : Atom} (h : a ∈ atoms (escapeGroup g)) :
    a.IsNeutral := by
  cases a with
  | pair c => trivial
  | stray => trivial
  | plain c =>
    have hback : c ≠ '\\' := ne_of_plain_mem h
    rw [atoms_escapeGroup] at h
    obtain ⟨b, -, hb⟩ := List.mem_map.mp h
    cases b with
    | pair d => exact absurd hb (by simp [Atom.guarded])
    | stray => exact absurd hb (by simp [Atom.guarded])
    | plain d =>
      rw [Atom.guarded] at hb
      split at hb
      · exact absurd hb (by simp)
      · next hd =>
        obtain rfl := Atom.plain.inj hb
        simp only [not_or] at hd
        exact ⟨hback, hd⟩

theorem escapeGroup_escapeGroup (g : List Char) : escapeGroup (escapeGroup g) = escapeGroup g := by
  have hatoms : atoms (escapeGroup (escapeGroup g)) = atoms (escapeGroup g) := by
    rw [atoms_escapeGroup, atoms_escapeGroup, List.map_map]
    exact List.map_congr_left fun a _ => a.guarded_guarded
  rw [← text_atoms (escapeGroup (escapeGroup g)), hatoms, text_atoms]

/-- The marked characters of a text are those of the guarded text. -/
theorem chars_flatMap_marked (g : List Char) :
    ((atoms g).flatMap Atom.marked).map (·.1) = escapeGroup g := by
  rw [List.map_flatMap]
  calc (atoms g).flatMap (fun a => a.marked.map (·.1))
    _ = ((atoms g).map Atom.guarded).flatMap Atom.text := by
      rw [List.flatMap_map]
      exact List.flatMap_congr fun a _ => a.chars_marked
    _ = escapeGroup g := by rw [← atoms_escapeGroup, text_atoms]

/-- Without those that were added they are the text. -/
theorem kept_flatMap_marked (g : List Char) :
    (((atoms g).flatMap Atom.marked).filter (!·.2)).map (·.1) = g := by
  rw [List.filter_flatMap, List.map_flatMap]
  calc (atoms g).flatMap (fun a => (a.marked.filter (!·.2)).map (·.1))
    _ = (atoms g).flatMap Atom.text := List.flatMap_congr fun a _ => a.kept_marked
    _ = g := text_atoms g

/-- The body of a group does not end with a stray backslash. -/
theorem stray_notMem_of_isBody {body : List Char} (h : IsBody body) : .stray ∉ atoms body := by
  induction h with
  | nil => exact List.not_mem_nil
  | pair c _ ih => simpa using ih
  | char hback _ _ _ ih => simpa [atoms_plain hback] using ih

/-- What guarding does to any text. The guarded text is read from left to right in one way: as
pairs, characters other than backslash, parentheses and dollar sign, and at most one stray
backslash, which is its last character; there is one exactly if the text itself ends with an odd
number of backslashes. The atoms are those of the text in their order, where only what stands for
itself may have got a backslash, and pairs stay what they are; without the backslashes that were
added the text comes back. Guarding a guarded text changes nothing. The guarded body of a group of a
template has no stray backslash, so that, wherever it stands between parentheses, it is read by
itself, and the second one closes the group. -/
theorem escapeGroup_neutral (g : List Char) :
    (∀ as, Reading (escapeGroup g) as ↔ as = atoms (escapeGroup g)) ∧
      (∀ a ∈ atoms (escapeGroup g), a.IsNeutral) ∧
      .stray ∉ (atoms (escapeGroup g)).dropLast ∧
      (.stray ∈ atoms (escapeGroup g) ↔ Odd (g.rtakeWhile (· == '\\')).length) ∧
      atoms (escapeGroup g) = (atoms g).map Atom.guarded ∧
      ((atoms g).flatMap Atom.marked).map (·.1) = escapeGroup g ∧
      (((atoms g).flatMap Atom.marked).filter (!·.2)).map (·.1) = g ∧
      escapeGroup (escapeGroup g) = escapeGroup g ∧
      ∀ cs rest, group? cs = some (g, rest) →
        .stray ∉ atoms (escapeGroup g) ∧
          ∀ before after, .stray ∉ atoms before →
            atoms (before ++ '(' :: (escapeGroup g ++ ')' :: after)) =
              atoms before ++
                .plain '(' :: (atoms (escapeGroup g) ++ .plain ')' :: atoms after) := by
  refine ⟨fun as => reading_iff, fun a => isNeutral_of_mem, stray_notMem_dropLast _,
    stray_mem_atoms_escapeGroup.trans (stray_mem_atoms_iff g), atoms_escapeGroup g,
    chars_flatMap_marked g, kept_flatMap_marked g, escapeGroup_escapeGroup g, fun cs rest h => ?_⟩
  have hbody : IsBody g := (group?_eq_some_iff.mp h).2.1
  have hstray : .stray ∉ atoms (escapeGroup g) :=
    fun hmem => stray_notMem_of_isBody hbody (stray_mem_atoms_escapeGroup.mp hmem)
  refine ⟨hstray, fun before after hbefore => ?_⟩
  rw [atoms_append hbefore, atoms_plain (by decide), atoms_append hstray, atoms_plain (by decide)]

/-- A body with an escaped backslash, an escaped parenthesis and a dollar sign. -/
theorem escapeGroup_neutral_pairs :
    group? "(\\\\\\)$)?".toList = some ("\\\\\\)$".toList, ['?']) ∧
      atoms (escapeGroup "\\\\\\)$".toList) = [.pair '\\', .pair ')', .pair '$'] ∧
      atoms (':' :: 'a' :: '(' :: (escapeGroup "\\\\\\)$".toList ++ ')' :: ['?'])) =
        [.plain ':', .plain 'a', .plain '(', .pair '\\', .pair ')', .pair '$', .plain ')',
          .plain '?'] := by
  have hgroup : group? "(\\\\\\)$)?".toList = some ("\\\\\\)$".toList, ['?']) := by decide
  obtain ⟨-, -, -, -, hatoms, -, -, -, hclosed⟩ := escapeGroup_neutral "\\\\\\)$".toList
  have hread : atoms (escapeGroup "\\\\\\)$".toList) = [.pair '\\', .pair ')', .pair '$'] :=
    hatoms.trans (by decide)
  refine ⟨hgroup, hread, ?_⟩
  exact ((hclosed _ _ hgroup).2 [':', 'a'] ['?'] (by decide)).trans (by rw [hread]; rfl)

end MockHttp.Template
