import Mathlib.Data.List.TakeWhile
import MockHttp.Template.Scan

/-!
# How templates divide into pieces

A grammar of templates that does not say how they are read: escape pairs, markers that take all they
can, and plain characters where neither of them begins. Every template is divided in one way only,
and that is how it is read.

Results:
1. `closeGroup_eq_some_iff`, `group?_eq_some_iff`: which texts begin with a group.
2. `marker?_eq_some_iff`: which texts begin with a marker.
3. `division_iff`: the pieces of a template are its only division.
-/

namespace MockHttp.Template

/-! ## The grammar -/

/-- A letter from A to Z in either case, a decimal digit or an underscore. -/
def IsWordChar (c : Char) : Prop :=
  ('A' ≤ c ∧ c ≤ 'Z') ∨ ('a' ≤ c ∧ c ≤ 'z') ∨ ('0' ≤ c ∧ c ≤ '9') ∨ c = '_'

/-- The body of a group: pairs of a backslash and any character, and characters other than backslash
and parentheses. -/
inductive IsBody : List Char → Prop
  | nil : IsBody []
  | pair (c : Char) {cs : List Char} : IsBody cs → IsBody ('\\' :: c :: cs)
  | char {c : Char} {cs : List Char} : c ≠ '\\' → c ≠ '(' → c ≠ ')' → IsBody cs → IsBody (c :: cs)

/-- A group with a body that is not empty begins the text. -/
def BeginsGroup (cs : List Char) : Prop :=
  ∃ body rest, body ≠ [] ∧ IsBody body ∧ cs = '(' :: (body ++ ')' :: rest)

def Modifier.source : Option Modifier → List Char
  | none => []
  | some .optional => ['?']
  | some .repeated => ['+']
  | some .optionalRepeated => ['*']

def Marker.source (m : Marker) : List Char :=
  (match m.name with
    | some name => ':' :: name
    | none => []) ++
  (match m.body with
    | some body => '(' :: (body ++ [')'])
    | none => []) ++ Modifier.source m.modifier

/-- The marker is well formed, and where it stands before `rest` its parts take all they can: the
name is not continued, a group is there if one follows the name, and so is a modifier. -/
structure Marker.StandsBefore (m : Marker) (rest : List Char) : Prop where
  name : ∀ name, m.name = some name → name ≠ [] ∧ ∀ c ∈ name, IsWordChar c
  body : ∀ body, m.body = some body → body ≠ [] ∧ IsBody body
  either : m.name.isSome = true ∨ m.body.isSome = true
  longest : m.body = none → ∀ c, (Modifier.source m.modifier ++ rest).head? = some c → ¬IsWordChar c
  noGroup : m.body = none → ¬BeginsGroup (Modifier.source m.modifier ++ rest)
  noModifier : m.modifier = none → ∀ c, rest.head? = some c → c ≠ '?' ∧ c ≠ '+' ∧ c ≠ '*'
  next : m.next = rest.head?

/-- The text is divided into the pieces: from left to right, escape pairs and markers, and plain
characters where neither an escape pair nor a marker begins. -/
inductive Division : List Char → List Piece → Prop
  | nil : Division [] []
  | escaped (c : Char) {rest : List Char} {ps : List Piece} :
    Division rest ps → Division ('\\' :: c :: rest) (.escaped c :: ps)
  | marker {m : Marker} {rest : List Char} {ps : List Piece} :
    m.StandsBefore rest → Division rest ps → Division (m.source ++ rest) (.marker m :: ps)
  | plain {c : Char} {rest : List Char} {ps : List Piece} :
    (∀ d after, c :: rest ≠ '\\' :: d :: after) →
    (∀ (m : Marker) after, m.StandsBefore after → c :: rest ≠ m.source ++ after) →
    Division rest ps → Division (c :: rest) (.plain c :: ps)

/-! ## Names, groups and modifiers -/

theorem isNameChar_iff (c : Char) : isNameChar c = true ↔ IsWordChar c := by
  have hbetween {lo hi : Char} :
      (decide (c.val ≥ lo.val) && decide (c.val ≤ hi.val)) = true ↔ lo ≤ c ∧ c ≤ hi := by
    rw [Bool.and_eq_true, decide_eq_true_iff, decide_eq_true_iff, ge_iff_le, Char.le_def,
      Char.le_def]
  have hupper : c.isUpper = true ↔ 'A' ≤ c ∧ c ≤ 'Z' := decide_eq_true_iff
  have hlower : c.isLower = true ↔ 'a' ≤ c ∧ c ≤ 'z' := hbetween
  have hdigit : c.isDigit = true ↔ '0' ≤ c ∧ c ≤ '9' := hbetween
  change (c.isUpper || c.isLower || c.isDigit || c == '_') = true ↔ _
  rw [Bool.or_eq_true, Bool.or_eq_true, Bool.or_eq_true, hupper, hlower, hdigit, beq_iff_eq,
    or_assoc, or_assoc, IsWordChar]

/-- The body of a group goes up to the first parenthesis that is not escaped, which closes it. -/
theorem closeGroup_eq_some_iff {cs body rest : List Char} :
    closeGroup cs = some (body, rest) ↔ IsBody body ∧ cs = body ++ ')' :: rest := by
  constructor
  · intro h
    fun_induction closeGroup cs generalizing body with
    | case1 => cases h
    | case2 => cases h
    | case3 => cases h
    | case4 =>
      cases h
      exact ⟨.nil, rfl⟩
    | case5 c after ih =>
      obtain ⟨⟨inner, rest'⟩, hinner, heq⟩ := Option.map_eq_some_iff.mp h
      cases heq
      obtain ⟨hbody, rfl⟩ := ih hinner
      exact ⟨.pair c hbody, rfl⟩
    | case6 c after hlone hopen hclose hpair ih =>
      obtain ⟨⟨inner, rest'⟩, hinner, heq⟩ := Option.map_eq_some_iff.mp h
      cases heq
      obtain ⟨hbody, rfl⟩ := ih hinner
      refine ⟨.char ?_ hopen hclose hbody, rfl⟩
      rintro rfl
      cases inner with
      | nil => exact hpair _ _ rfl rfl
      | cons c inner => exact hpair _ _ rfl rfl
  · rintro ⟨hbody, rfl⟩
    induction hbody with
    | nil => rfl
    | pair c _ ih =>
      rw [List.cons_append, List.cons_append, closeGroup, ih]
      rfl
    | char hbackslash hopen hclose _ ih =>
      rw [List.cons_append, closeGroup, ih]
      · rfl
      · exact fun heq _ => hbackslash heq
      · exact hopen
      · exact hclose
      · exact fun _ _ heq _ => hbackslash heq

theorem group?_eq_some_iff {cs body rest : List Char} :
    group? cs = some (body, rest) ↔
      body ≠ [] ∧ IsBody body ∧ cs = '(' :: (body ++ ')' :: rest) := by
  constructor
  · intro h
    unfold group? at h
    split at h
    · obtain ⟨hclose, hne⟩ := Option.filter_eq_some_iff.mp h
      rw [closeGroup_eq_some_iff] at hclose
      obtain ⟨hbody, rfl⟩ := hclose
      exact ⟨by simpa using hne, hbody, rfl⟩
    · cases h
  · rintro ⟨hne, hbody, rfl⟩
    have hclose : closeGroup (body ++ ')' :: rest) = some (body, rest) := by
      rw [closeGroup_eq_some_iff]
      exact ⟨hbody, rfl⟩
    rw [group?, hclose]
    simp [hne]

theorem group?_eq_none_iff {cs : List Char} : group? cs = none ↔ ¬BeginsGroup cs := by
  rw [Option.eq_none_iff_forall_ne_some]
  constructor
  · rintro h ⟨body, rest, hbegins⟩
    exact h _ (group?_eq_some_iff.mpr hbegins)
  · rintro h ⟨body, rest⟩ hgroup
    exact h ⟨body, rest, group?_eq_some_iff.mp hgroup⟩

theorem ofChar?_eq_none_iff {c : Char} :
    Modifier.ofChar? c = none ↔ c ≠ '?' ∧ c ≠ '+' ∧ c ≠ '*' := by
  unfold Modifier.ofChar?
  split <;> simp_all

theorem source_of_ofChar? {c : Char} {m : Modifier} (h : Modifier.ofChar? c = some m) :
    Modifier.source (some m) = [c] := by
  unfold Modifier.ofChar? at h
  split at h <;> cases h <;> rfl

/-- A modifier is read where there is one. -/
theorem modifier_eq_iff {cs rest : List Char} {found : Option Modifier} :
    modifier cs = (found, rest) ↔ cs = Modifier.source found ++ rest ∧
      (found = none → ∀ c, rest.head? = some c → c ≠ '?' ∧ c ≠ '+' ∧ c ≠ '*') := by
  constructor
  · intro h
    unfold modifier at h
    split at h
    · next c after =>
      split at h
      · next m hm =>
        cases h
        rw [source_of_ofChar? hm]
        exact ⟨rfl, nofun⟩
      · next hnone =>
        cases h
        refine ⟨rfl, fun _ d hd => ?_⟩
        cases hd
        exact ofChar?_eq_none_iff.mp hnone
    · cases h
      exact ⟨rfl, fun _ d hd => nomatch hd⟩
  · rintro ⟨rfl, hnone⟩
    cases found with
    | some m => cases m <;> rfl
    | none =>
      cases rest with
      | nil => rfl
      | cons c rest =>
        have hc := ofChar?_eq_none_iff.mpr (hnone rfl c rfl)
        simp [Modifier.source, modifier, hc]

/-- A name goes up to the first character that cannot continue it. -/
theorem takeWhile_name {name after : List Char} (hname : ∀ c ∈ name, isNameChar c = true)
    (hstop : ∀ c, after.head? = some c → isNameChar c = false) :
    (name ++ after).takeWhile isNameChar = name ∧ (name ++ after).dropWhile isNameChar = after := by
  rw [List.takeWhile_append_of_pos hname, List.dropWhile_append_of_pos hname]
  cases after with
  | nil => simp
  | cons c after => simp [hstop c rfl]

/-! ## Markers -/

/-- How a marker is completed by what follows its name and group. -/
theorem completeMarker_eq_iff {name body : Option (List Char)} {cs rest : List Char} {m : Marker} :
    completeMarker name body cs = (m, rest) ↔
      m.name = name ∧ m.body = body ∧ m.next = rest.head? ∧
        cs = Modifier.source m.modifier ++ rest ∧
        (m.modifier = none → ∀ c, rest.head? = some c → c ≠ '?' ∧ c ≠ '+' ∧ c ≠ '*') := by
  unfold completeMarker
  obtain ⟨name', body', found', next'⟩ := m
  generalize hmodifier : modifier cs = read
  obtain ⟨found, after⟩ := read
  simp only [Prod.mk.injEq, Marker.mk.injEq]
  constructor
  · rintro ⟨⟨rfl, rfl, rfl, rfl⟩, rfl⟩
    exact ⟨rfl, rfl, rfl, modifier_eq_iff.mp hmodifier⟩
  · rintro ⟨rfl, rfl, rfl, hsource⟩
    obtain ⟨rfl, rfl⟩ := Prod.mk.inj (hmodifier.symm.trans (modifier_eq_iff.mpr hsource))
    exact ⟨⟨rfl, rfl, rfl, rfl⟩, rfl⟩

/-- A marker that is completed takes all it can, if its name and its group do. -/
theorem standsBefore_of_completeMarker {name body : Option (List Char)} {cs rest : List Char}
    {m : Marker} (h : completeMarker name body cs = (m, rest))
    (hname : ∀ n, name = some n → n ≠ [] ∧ ∀ c ∈ n, IsWordChar c)
    (hbody : ∀ b, body = some b → b ≠ [] ∧ IsBody b)
    (heither : name.isSome = true ∨ body.isSome = true)
    (hends : body = none → (∀ c, cs.head? = some c → ¬IsWordChar c) ∧ ¬BeginsGroup cs) :
    m.StandsBefore rest := by
  rw [completeMarker_eq_iff] at h
  obtain ⟨rfl, rfl, hnext, rfl, hmodifier⟩ := h
  exact ⟨hname, hbody, heither, fun hnone => (hends hnone).1, fun hnone => (hends hnone).2,
    hmodifier, hnext⟩

theorem source_of_completeMarker {name body : Option (List Char)} {cs rest : List Char}
    {m : Marker} (h : completeMarker name body cs = (m, rest)) :
    m.source ++ rest = (name.elim [] (':' :: ·)) ++
      ((body.elim [] fun b => '(' :: (b ++ [')'])) ++ cs) := by
  rw [completeMarker_eq_iff] at h
  obtain ⟨rfl, rfl, -, rfl, -⟩ := h
  unfold Marker.source
  cases m.name <;> cases m.body <;> simp

/-- What a marker that is read begins with, and that it takes all it can. -/
theorem standsBefore_of_marker? {cs rest : List Char} {m : Marker}
    (h : marker? cs = some (m, rest)) : cs = m.source ++ rest ∧ m.StandsBefore rest := by
  unfold marker? at h
  split at h
  · next cs =>
    extract_lets name tail at h
    have hcs : cs = name ++ tail := List.takeWhile_append_dropWhile.symm
    have hstop : ∀ c, tail.head? = some c → ¬IsWordChar c := by
      intro c hc hword
      have hnot := List.head?_dropWhile_not isNameChar cs
      rw [show cs.dropWhile isNameChar = tail from rfl, hc] at hnot
      exact absurd ((isNameChar_iff c).mpr hword) (by simpa using hnot)
    split at h
    · cases h
    · next hne =>
      have hname : ∀ n, some name = some n → n ≠ [] ∧ ∀ c ∈ n, IsWordChar c := by
        rintro n ⟨⟩
        exact ⟨by simpa using hne, fun c hc => (isNameChar_iff c).mp (List.mem_takeWhile_imp hc)⟩
      split at h
      · next body after hgroup =>
        obtain ⟨hnonempty, hbody, htail⟩ := group?_eq_some_iff.mp hgroup
        have hcomplete := Option.some_inj.mp h
        refine ⟨?_, standsBefore_of_completeMarker hcomplete hname ?_ (.inl rfl) nofun⟩
        · rw [source_of_completeMarker hcomplete, hcs, htail]
          simp
        · rintro b ⟨⟩
          exact ⟨hnonempty, hbody⟩
      · next hgroup =>
        have hcomplete := Option.some_inj.mp h
        refine ⟨?_, standsBefore_of_completeMarker hcomplete hname nofun (.inl rfl) fun _ =>
          ⟨hstop, group?_eq_none_iff.mp hgroup⟩⟩
        rw [source_of_completeMarker hcomplete, hcs]
        rfl
  · obtain ⟨⟨body, after⟩, hgroup, hcomplete⟩ := Option.map_eq_some_iff.mp h
    obtain ⟨hnonempty, hbody, rfl⟩ := group?_eq_some_iff.mp hgroup
    refine ⟨?_, standsBefore_of_completeMarker hcomplete nofun ?_ (.inr rfl) nofun⟩
    · rw [source_of_completeMarker hcomplete]
      simp
    · rintro b ⟨⟩
      exact ⟨hnonempty, hbody⟩

/-- A marker that takes all it can is read. -/
theorem Marker.StandsBefore.marker?_eq {m : Marker} {rest : List Char} (h : m.StandsBefore rest) :
    marker? (m.source ++ rest) = some (m, rest) := by
  obtain ⟨name, body, found, next⟩ := m
  have hcomplete : completeMarker name body (Modifier.source found ++ rest) =
      (⟨name, body, found, next⟩, rest) := by
    rw [completeMarker_eq_iff]
    exact ⟨rfl, rfl, h.next, rfl, h.noModifier⟩
  have hgroup : ∀ body', body = some body' →
      group? ('(' :: (body' ++ ')' :: (Modifier.source found ++ rest))) =
        some (body', Modifier.source found ++ rest) := fun body' heq =>
    group?_eq_some_iff.mpr ⟨(h.body body' heq).1, (h.body body' heq).2, rfl⟩
  cases name with
  | none =>
    cases body with
    | none => exact absurd h.either (by simp)
    | some body =>
      simp only [Marker.source, List.nil_append, List.cons_append, List.append_assoc]
      rw [marker?, hgroup body rfl, Option.map_some, ← hcomplete]
      exact nofun
  | some name =>
    obtain ⟨hne, hword⟩ := h.name name rfl
    have hname : ∀ c ∈ name, isNameChar c = true := fun c hc => (isNameChar_iff c).mpr (hword c hc)
    cases body with
    | none =>
      have hstop : ∀ c, (Modifier.source found ++ rest).head? = some c → isNameChar c = false := by
        intro c hc
        rw [Bool.eq_false_iff]
        exact fun hword => h.longest rfl c hc ((isNameChar_iff c).mp hword)
      obtain ⟨htake, hdrop⟩ := takeWhile_name hname hstop
      simp only [Marker.source, List.append_nil, List.cons_append, List.append_assoc]
      rw [marker?, htake, hdrop, group?_eq_none_iff.mpr (h.noGroup rfl), hcomplete]
      simp [hne]
    | some body =>
      have hstop : ∀ c, ('(' :: (body ++ ')' :: (Modifier.source found ++ rest))).head? = some c →
          isNameChar c = false := by
        rintro c ⟨⟩
        decide
      obtain ⟨htake, hdrop⟩ := takeWhile_name hname hstop
      simp only [Marker.source, List.cons_append, List.append_assoc, List.nil_append]
      rw [marker?, htake, hdrop, hgroup body rfl]
      simp [hne, hcomplete]

/-- A text begins with a marker that takes all it can exactly if one is read. -/
theorem marker?_eq_some_iff {cs rest : List Char} {m : Marker} :
    marker? cs = some (m, rest) ↔ cs = m.source ++ rest ∧ m.StandsBefore rest := by
  constructor
  · exact standsBefore_of_marker?
  · rintro ⟨rfl, h⟩
    exact h.marker?_eq

/-- A marker begins with a colon or a parenthesis. -/
theorem Marker.StandsBefore.source_eq {m : Marker} {rest : List Char} (h : m.StandsBefore rest) :
    ∃ c cs, m.source = c :: cs ∧ c ≠ '\\' := by
  obtain ⟨name, body, found, next⟩ := m
  cases name with
  | some name => exact ⟨':', _, rfl, by decide⟩
  | none =>
    cases body with
    | some body => exact ⟨'(', _, rfl, by decide⟩
    | none => exact absurd h.either (by simp)

/-! ## Divisions -/

theorem pieces_marker {m : Marker} {rest : List Char} (h : m.StandsBefore rest) :
    pieces (m.source ++ rest) = .marker m :: pieces rest := by
  obtain ⟨c, cs, hsource, hc⟩ := h.source_eq
  have hmarker := h.marker?_eq
  rw [hsource, List.cons_append] at hmarker ⊢
  rw [pieces, hmarker]
  · simp
  · exact fun _ _ heq _ => hc heq

/-- The pieces of a template are a division. -/
theorem division_pieces (cs : List Char) : Division cs (pieces cs) := by
  fun_induction pieces cs with
  | case1 => exact .nil
  | case2 c rest ih => exact .escaped c ih
  | case3 c rest hpair m after hmarker hlength ih =>
    obtain ⟨hcs, hm⟩ := marker?_eq_some_iff.mp hmarker
    rw [hcs]
    exact .marker hm ih
  | case4 c rest hpair m after hmarker hlength =>
    -- a marker takes a character at least, so there is no such case
    obtain ⟨hcs, hm⟩ := marker?_eq_some_iff.mp hmarker
    obtain ⟨d, source, hsource, -⟩ := hm.source_eq
    rw [hsource] at hcs
    obtain ⟨rfl, rfl⟩ := List.cons.inj hcs
    exact absurd (by simp) hlength
  | case5 c rest hpair hmarker ih =>
    refine .plain ?_ ?_ ih
    · intro d after heq
      obtain ⟨rfl, rfl⟩ := List.cons.inj heq
      exact hpair d after rfl rfl
    · intro m after hm heq
      rw [heq, hm.marker?_eq] at hmarker
      cases hmarker

theorem Division.eq_pieces {cs : List Char} {ps : List Piece} (h : Division cs ps) :
    ps = pieces cs := by
  induction h with
  | nil => rw [pieces]
  | escaped c _ ih => rw [pieces, ih]
  | marker hm _ ih => rw [pieces_marker hm, ih]
  | @plain c rest ps hpair hmarker _ ih =>
    have hnone : marker? (c :: rest) = none := by
      rw [Option.eq_none_iff_forall_ne_some]
      rintro ⟨m, after⟩ hsome
      obtain ⟨heq, hm⟩ := marker?_eq_some_iff.mp hsome
      exact hmarker m after hm heq
    rw [pieces, hnone, ih]
    rintro d after rfl rfl
    exact hpair d after rfl

/-- Every marker of a division takes all it can where it stands. -/
theorem Division.standsBefore {cs : List Char} {ps : List Piece} (h : Division cs ps) {m : Marker}
    (hm : .marker m ∈ ps) : ∃ rest, m.StandsBefore rest := by
  induction h with
  | nil => exact absurd hm List.not_mem_nil
  | escaped c _ ih => exact ih (by simpa using hm)
  | plain _ _ _ ih => exact ih (by simpa using hm)
  | marker hstands _ ih =>
    rcases List.mem_cons.mp hm with heq | hm
    · cases heq
      exact ⟨_, hstands⟩
    · exact ih hm

/-- No piece is without text. -/
theorem Division.length_le {cs : List Char} {ps : List Piece} (h : Division cs ps) :
    ps.length ≤ cs.length := by
  induction h with
  | nil => exact Nat.le_refl _
  | escaped c _ ih => exact Nat.le_succ_of_le (Nat.succ_le_succ ih)
  | plain _ _ _ ih => exact Nat.succ_le_succ ih
  | marker hm _ ih =>
    obtain ⟨c, cs, hsource, -⟩ := hm.source_eq
    rw [hsource, List.length_cons, List.length_append, List.length_cons]
    omega

/-- Every template is divided in one way only. -/
theorem division_iff {cs : List Char} {ps : List Piece} : Division cs ps ↔ ps = pieces cs := by
  constructor
  · exact Division.eq_pieces
  · rintro rfl
    exact division_pieces cs

end MockHttp.Template
