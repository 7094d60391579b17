import MockHttp.Regex.Brackets
import Mathlib.Data.List.TakeWhile

/-!
# Bracket expressions in the text of a pattern

Inside a bracket expression a parenthesis opens nothing. `Zone.step` follows the text of a pattern
character by character and tells on which side of a bracket a place lies, without reading escapes
or ranges; the reader arrives at the same places.

Results:
1. `Escape.read_takes`: all that an escape reads after the escaped character is ordinary.
2. `Brackets.read_reaches`: a bracket expression that can be read leads from its opening bracket to
   the outside, and opens no group.
3. `Zone.after_mono`: a text that leaves a bracket open outside does so inside as well.
-/

namespace MockHttp.Regex

/-- What a computation in two steps gives, its second step gives. -/
theorem bind_eq_ok {ε α β : Type} {x : Except ε α} {f : α → Except ε β} {b : β}
    (h : x >>= f = .ok b) : ∃ a, x = .ok a ∧ f a = .ok b := by
  cases x with
  | error e => cases h
  | ok a => exact ⟨a, rfl, h⟩

theorem bind_eq_error {ε α β : Type} {x : Except ε α} {f : α → Except ε β} {e : ε}
    (h : x >>= f = .error e) : x = .error e ∨ ∃ a, x = .ok a ∧ f a = .error e := by
  cases x with
  | error e' =>
    cases h
    exact .inl rfl
  | ok a => exact .inr ⟨a, rfl, h⟩

/-- Where a place in the text of a pattern lies. -/
inductive Zone where
  /-- Outside of bracket expressions. -/
  | outside
  /-- Outside of them, after a backslash. -/
  | outsideEscape
  /-- After the bracket that begins a bracket expression. -/
  | opened
  /-- After that bracket and a caret. -/
  | openedCaret
  /-- Inside a bracket expression, with `depth` more brackets open. -/
  | inside (depth : Nat)
  /-- Inside one, after a backslash. -/
  | insideEscape (depth : Nat)
  deriving DecidableEq, Repr

namespace Zone

/-- The place after a character that follows `depth` more open brackets. -/
def within (depth : Nat) (c : Char) : Zone :=
  if c = '\\' then insideEscape depth
  else if c = '[' then inside (depth + 1)
  else if c = ']' then if depth = 0 then outside else inside (depth - 1)
  else inside depth

/-- The place after a character. A closing bracket at the very start of a bracket expression, or
after a leading caret, stands for itself. -/
def step (zone : Zone) (c : Char) : Zone :=
  match zone with
  | outside => if c = '\\' then outsideEscape else if c = '[' then opened else outside
  | outsideEscape => outside
  | opened => if c = '^' then openedCaret else if c = ']' then inside 0 else within 0 c
  | openedCaret => if c = ']' then inside 0 else within 0 c
  | inside depth => within depth c
  | insideEscape depth => inside depth

def after (zone : Zone) (text : List Char) : Zone :=
  text.foldl step zone

@[simp] theorem after_nil (zone : Zone) : zone.after [] = zone := rfl

@[simp] theorem after_cons (zone : Zone) (c : Char) (text : List Char) :
    zone.after (c :: text) = (zone.step c).after text := rfl

@[simp] theorem after_append (zone : Zone) (a b : List Char) :
    zone.after (a ++ b) = (zone.after a).after b := List.foldl_append

/-- No backslash waits for the character it escapes. -/
def isSettled : Zone → Bool
  | outsideEscape | insideEscape _ => false
  | _ => true

end Zone

/-- A parenthesis before this text opens a remembered group: no question mark follows, or one that
gives the group a name. -/
def remembers : List Char → Bool
  | '?' :: '<' :: '=' :: _ | '?' :: '<' :: '!' :: _ => false
  | '?' :: '<' :: _ | '?' :: '\x27' :: _ | '?' :: 'P' :: '<' :: _ => true
  | '?' :: _ => false
  | _ => true

/-- A parenthesis before this text opens a group, looks ahead, or switches to ignoring case. -/
def isSimple : List Char → Bool
  | '?' :: ':' :: _ | '?' :: '=' :: _ | '?' :: 'i' :: ')' :: _ => true
  | cs => remembers cs

theorem isSimple_of_remembers {cs : List Char} (h : remembers cs = true) : isSimple cs = true := by
  unfold isSimple
  split
  · rfl
  · rfl
  · rfl
  · exact h

theorem remembers_of_ne {cs : List Char} (h : ∀ rest, cs ≠ '?' :: rest) :
    remembers cs = true := by
  unfold remembers
  split <;> first | rfl | exact absurd rfl (h _)

theorem remembers_named {rest : List Char} (hequals : ∀ tail, rest ≠ '=' :: tail)
    (hexclaims : ∀ tail, rest ≠ '!' :: tail) : remembers ('?' :: '<' :: rest) = true := by
  cases rest with
  | nil => rfl
  | cons c rest =>
    unfold remembers
    split
    · next heq => exact absurd (List.cons.inj (List.cons.inj heq).2).2 (hequals _)
    · next heq => exact absurd (List.cons.inj (List.cons.inj heq).2).2 (hexclaims _)
    · rfl
    · rfl
    · rfl
    · next hangle _ _ heq => exact absurd (List.cons.inj heq).2.symm (hangle _)
    · rfl

theorem remembers_unnamed {rest : List Char} (hangle : ∀ tail, rest ≠ '<' :: tail)
    (hquote : ∀ tail, rest ≠ '\x27' :: tail) (hname : ∀ tail, rest ≠ 'P' :: '<' :: tail) :
    remembers ('?' :: rest) = false := by
  unfold remembers
  split
  · next heq => exact absurd (List.cons.inj heq).2 (hangle _)
  · next heq => exact absurd (List.cons.inj heq).2 (hangle _)
  · next heq => exact absurd (List.cons.inj heq).2 (hangle _)
  · next heq => exact absurd (List.cons.inj heq).2 (hquote _)
  · next heq => exact absurd (List.cons.inj heq).2 (hname _)
  · rfl
  · next hquestion => exact absurd rfl (hquestion _)

/-- A simple parenthesis that names nothing and does not look ahead has a colon or the flag. -/
theorem isSimple_unnamed {rest : List Char} (h : isSimple ('?' :: rest) = true)
    (hequals : ∀ tail, rest ≠ '=' :: tail) (hremembers : remembers ('?' :: rest) = false) :
    (∃ tail, rest = ':' :: tail) ∨ ∃ tail, rest = 'i' :: ')' :: tail := by
  unfold isSimple at h
  split at h
  · next heq => exact .inl ⟨_, (List.cons.inj heq).2⟩
  · next heq => exact absurd (List.cons.inj heq).2 (hequals _)
  · next heq => exact .inr ⟨_, (List.cons.inj heq).2⟩
  · exact absurd h (by simp [hremembers])

/-- A character without a meaning for where bracket expressions and groups begin and end. -/
def isOrdinary (c : Char) : Bool :=
  !(['\\', '[', ']', '('].contains c)

theorem isOrdinary_iff {c : Char} :
    isOrdinary c = true ↔ c ≠ '\\' ∧ c ≠ '[' ∧ c ≠ ']' ∧ c ≠ '(' := by
  simp [isOrdinary]

/-- A test that selects no special character selects ordinary ones only. -/
theorem isOrdinary_of_test (test : Char → Bool) {c : Char}
    (htest : ['\\', '[', ']', '('].all (fun d => !test d) = true) (hc : test c = true) :
    isOrdinary c = true := by
  refine isOrdinary_iff.mpr ⟨?_, ?_, ?_, ?_⟩ <;> rintro rfl <;> simp_all

/-- A character that is no backslash, no bracket and no parenthesis. -/
def isBare (c : Char) : Bool :=
  !(['\\', '[', ']', '(', ')'].contains c)

theorem isOrdinary_of_isBare {c : Char} (hc : isBare c = true) : isOrdinary c = true :=
  isOrdinary_of_test isBare (by decide) hc

/-- A test that selects no special character and no closing parenthesis selects bare ones only. -/
theorem isBare_of_test (test : Char → Bool) {c : Char}
    (htest : ['\\', '[', ']', '(', ')'].all (fun d => !test d) = true) (hc : test c = true) :
    isBare c = true := by
  simp only [isBare, List.contains_eq_mem, List.mem_cons, List.not_mem_nil, or_false]
  rw [Bool.not_eq_eq_eq_not, Bool.not_true, decide_eq_false_iff_not]
  rintro (rfl | rfl | rfl | rfl | rfl) <;> simp_all

/-- The first character that `dropWhile` leaves fails the test. -/
theorem dropWhile_head {test : Char → Bool} {cs rest : List Char} {d : Char}
    (hdrop : cs.dropWhile test = d :: rest) : test d = false := by
  have hhead := List.head?_dropWhile_not test cs
  rwa [hdrop] at hhead

/-- The text consists of some ordinary characters and of what comes after them. -/
def TakesOrdinary (cs after : List Char) : Prop :=
  ∃ extra, cs = extra ++ after ∧ ∀ c ∈ extra, isOrdinary c = true

namespace TakesOrdinary

theorem refl (cs : List Char) : TakesOrdinary cs cs := ⟨[], rfl, by simp⟩

theorem cons {c : Char} {cs after : List Char} (hc : isOrdinary c = true)
    (h : TakesOrdinary cs after) : TakesOrdinary (c :: cs) after := by
  obtain ⟨extra, rfl, hextra⟩ := h
  exact ⟨c :: extra, rfl, by simpa using ⟨hc, hextra⟩⟩

theorem trans {cs cs' after : List Char} (h : TakesOrdinary cs cs')
    (h' : TakesOrdinary cs' after) : TakesOrdinary cs after := by
  obtain ⟨extra, rfl, hextra⟩ := h
  obtain ⟨extra', rfl, hextra'⟩ := h'
  exact ⟨extra ++ extra', (List.append_assoc ..).symm,
    List.forall_mem_append.mpr ⟨hextra, hextra'⟩⟩

/-- Text up to a character that is ordinary itself. -/
theorem upTo {close d : Char} {cs after : List Char} (hclose : isOrdinary close = true)
    (hdrop : cs.dropWhile (· != close) = d :: after)
    (hname : ∀ c ∈ cs.takeWhile (· != close), isOrdinary c = true) : TakesOrdinary cs after := by
  obtain rfl : d = close := by simpa using dropWhile_head hdrop
  refine ⟨cs.takeWhile (· != d) ++ [d], ?_, ?_⟩
  · rw [List.append_assoc, List.singleton_append, ← hdrop, List.takeWhile_append_dropWhile]
  · intro c hc
    rcases List.mem_append.mp hc with hc | hc
    · exact hname c hc
    · rw [List.mem_singleton.mp hc]
      exact hclose

end TakesOrdinary

namespace Zone

theorem step_outside {c : Char} (hc : isOrdinary c = true) : outside.step c = outside := by
  obtain ⟨hback, hopen, -, -⟩ := isOrdinary_iff.mp hc
  rw [step, if_neg hback, if_neg hopen]

theorem step_inside {c : Char} {depth : Nat} (hc : isOrdinary c = true) :
    (inside depth).step c = inside depth := by
  obtain ⟨hback, hopen, hclose, -⟩ := isOrdinary_iff.mp hc
  rw [step, within, if_neg hback, if_neg hopen, if_neg hclose]

/-! ## Ways through a text -/

/-- The texts after the parentheses outside of brackets that open a remembered group. -/
def openings (zone : Zone) : List Char → List (List Char)
  | [] => []
  | c :: rest =>
    let others := (zone.step c).openings rest
    if zone = outside ∧ c = '(' ∧ remembers rest = true then rest :: others else others

/-- The parentheses outside of brackets are simple. -/
def Simple (zone : Zone) : List Char → Prop
  | [] => True
  | c :: rest => (zone = outside → c = '(' → isSimple rest = true) ∧ (zone.step c).Simple rest

/-- The text leads from one place to another, where `after` is still to come, and on the way no
parenthesis opens a remembered group. -/
inductive Reaches : Zone → List Char → Zone → List Char → Prop where
  | refl (zone : Zone) (cs : List Char) : Reaches zone cs zone cs
  | cons {zone zone' : Zone} {c : Char} {cs after : List Char}
      (hc : zone = outside → c = '(' → isSimple cs = true ∧ remembers cs = false)
      (hrest : Reaches (zone.step c) cs zone' after) : Reaches zone (c :: cs) zone' after

theorem Reaches.char {zone zone' : Zone} {c : Char} {cs after : List Char} (hc : c ≠ '(')
    (h : Reaches (zone.step c) cs zone' after) : Reaches zone (c :: cs) zone' after :=
  .cons (fun _ heq => absurd heq hc) h

theorem Reaches.hidden {zone zone' : Zone} {c : Char} {cs after : List Char}
    (hzone : zone ≠ Zone.outside) (h : Reaches (zone.step c) cs zone' after) :
    Reaches zone (c :: cs) zone' after :=
  .cons (fun heq => absurd heq hzone) h

theorem Reaches.escape_outside {zone : Zone} {c : Char} {cs after : List Char}
    (h : Reaches Zone.outside cs zone after) : Reaches Zone.outside ('\\' :: c :: cs) zone after :=
  .char (by decide) (.hidden (by decide : outsideEscape ≠ Zone.outside) h)

theorem Reaches.escape_inside {zone : Zone} {depth : Nat} {c : Char} {cs after : List Char}
    (h : Reaches (Zone.inside depth) cs zone after) :
    Reaches (Zone.inside depth) ('\\' :: c :: cs) zone after :=
  .char (by decide) (.hidden (by simp : insideEscape depth ≠ Zone.outside) h)

theorem Reaches.trans {z z' z'' : Zone} {cs cs' after : List Char} (h : Reaches z cs z' cs')
    (h' : Reaches z' cs' z'' after) : Reaches z cs z'' after := by
  induction h with
  | refl zone cs => exact h'
  | cons hc _ ih => exact .cons hc (ih h')

/-- Both places are followed by the same. -/
theorem Reaches.after_eq {z z' : Zone} {cs after : List Char} (h : Reaches z cs z' after) :
    z.after cs = z'.after after := by
  induction h with
  | refl zone cs => rfl
  | cons _ _ ih => exact ih

theorem Reaches.openings_eq {z z' : Zone} {cs after : List Char} (h : Reaches z cs z' after) :
    z.openings cs = z'.openings after := by
  induction h with
  | refl zone cs => rfl
  | cons hc _ ih =>
    rw [openings, if_neg]
    · exact ih
    · rintro ⟨hzone, hopen, hremembers⟩
      exact absurd hremembers (by simp [(hc hzone hopen).2])

theorem Reaches.simple_iff {z z' : Zone} {cs after : List Char} (h : Reaches z cs z' after) :
    z.Simple cs ↔ z'.Simple after := by
  induction h with
  | refl zone cs => rfl
  | cons hc _ ih => exact (and_iff_right fun hzone hopen => (hc hzone hopen).1).trans ih

/-- Another place inside of brackets that treats the next character alike. -/
theorem Reaches.congr {depth : Nat} {z : Zone} {cs after : List Char}
    (h : Reaches (Zone.inside depth) cs outside after) (hz : z ≠ outside)
    (hstep : ∀ c text, cs = c :: text → z.step c = (Zone.inside depth).step c) :
    Reaches z cs outside after := by
  cases h with
  | cons _ hrest => exact .cons (fun heq => absurd heq hz) (hstep _ _ rfl ▸ hrest)

/-- Ordinary text stays where ordinary characters stay. -/
theorem Reaches.ordinary {zone : Zone} {cs after : List Char}
    (hstep : ∀ c, isOrdinary c = true → zone.step c = zone) (h : TakesOrdinary cs after) :
    Reaches zone cs zone after := by
  obtain ⟨extra, rfl, hextra⟩ := h
  induction extra with
  | nil => exact .refl _ _
  | cons c extra ih =>
    obtain ⟨hc, hextra⟩ := List.forall_mem_cons.mp hextra
    refine .char (isOrdinary_iff.mp hc).2.2.2 ?_
    rw [hstep c hc]
    exact ih hextra

/-- Ordinary text stays outside. -/
theorem Reaches.outside {cs after : List Char} (h : TakesOrdinary cs after) :
    Reaches outside cs outside after :=
  .ordinary (fun _ hc => step_outside hc) h

/-- Ordinary text stays inside. -/
theorem Reaches.inside {cs after : List Char} {depth : Nat} (h : TakesOrdinary cs after) :
    Reaches (inside depth) cs (inside depth) after :=
  .ordinary (fun _ hc => step_inside hc) h

end Zone

/-! ## Escapes -/

theorem isBare_of_hexNumber? {digits : List Char} {n : Nat} (h : hexNumber? digits = some n) :
    ∀ c ∈ digits, isBare c = true := by
  have hfold : ∀ (ds : List Char) (m : Nat),
      ds.foldlM (fun n c => (hexValue? c).map (n * 16 + ·)) m = some n →
        ∀ c ∈ ds, isBare c = true := by
    intro ds
    induction ds with
    | nil => simp
    | cons d ds ih =>
      intro m hm c hc
      rw [List.foldlM_cons, Option.bind_eq_bind, Option.bind_eq_some_iff] at hm
      obtain ⟨k, hk, hm⟩ := hm
      rcases List.mem_cons.mp hc with rfl | hc
      · refine isBare_of_test (fun c => (hexValue? c).isSome) (by decide) ?_
        cases hvalue : hexValue? c with
        | none => simp [hvalue] at hk
        | some v => rfl
      · exact ih k hm c hc
  exact hfold digits 0 h

theorem readDecimal_eq {cs after : List Char} {n : Nat} (h : readDecimal cs = some (n, after)) :
    ∃ digits, cs = digits ++ after ∧ digits ≠ [] ∧ ∀ c ∈ digits, isOrdinary c = true := by
  unfold readDecimal at h
  split at h
  · cases h
  · next digits hdigits =>
    obtain ⟨-, h⟩ := Option.ite_none_right_eq_some.mp h
    cases h
    refine ⟨cs.takeWhile Char.isDigit, List.takeWhile_append_dropWhile.symm, hdigits, ?_⟩
    intro c hc
    exact isOrdinary_of_test Char.isDigit (by decide) (List.mem_takeWhile_imp hc)

/-! ## Names of properties -/

namespace CharSet

open Unicode

/-- A special character of a name still stands in the name as names are compared. -/
theorem mem_bareName {c : Char} {name : List Char} (hc : c ∈ name)
    (hspecial : isBare c = false) : c ∈ (Property.bareName name).toList := by
  have hchars : c = '\\' ∨ c = '[' ∨ c = ']' ∨ c = '(' ∨ c = ')' := by
    rw [isBare, Bool.not_eq_eq_eq_not] at hspecial
    simpa using List.contains_iff_mem.mp hspecial
  have hloose : c ∈ Property.looseName name := by
    refine List.mem_map.mpr ⟨c, List.mem_filter.mpr ⟨hc, ?_⟩, ?_⟩ <;>
      rcases hchars with rfl | rfl | rfl | rfl | rfl <;> decide
  unfold Property.bareName
  split
  · next rest heq =>
    rw [heq] at hloose
    have hrest : c ∈ rest := by
      rcases hchars with rfl | rfl | rfl | rfl | rfl <;> simpa using hloose
    split
    · next hsyllable =>
      rw [eq_of_beq hsyllable] at hrest
      simpa using Or.inr (Or.inr (List.mem_singleton.mp hrest))
    · simpa using hrest
  · simpa using hloose

theorem isBare_of_bareName {name : List Char}
    (h : ∀ c ∈ (Property.bareName name).toList, isBare c = true) :
    ∀ c ∈ name, isBare c = true := by
  intro c hc
  cases hspecial : isBare c with
  | true => rfl
  | false => exact hspecial.symm.trans (h c (mem_bareName hc hspecial))

/-- A name that is found in a table of bare names is bare. -/
theorem isBare_of_find? {β : Type} {table : List (String × String × β)} {name : String}
    {entry : String × String × β}
    (htable : table.all (fun entry =>
      entry.1.toList.all isBare && entry.2.1.toList.all isBare) = true)
    (h : table.find? (fun entry => entry.1 == name || entry.2.1 == name) = some entry) :
    ∀ c ∈ name.toList, isBare c = true := by
  have hnames := List.all_eq_true.mp htable entry (List.mem_of_find?_eq_some h)
  have hname := List.find?_some h
  simp only [Bool.and_eq_true, List.all_eq_true, Bool.or_eq_true, beq_iff_eq] at hnames hname
  rcases hname with rfl | rfl
  · exact hnames.1
  · exact hnames.2

theorem isBare_of_category? {name : String} {found : Property × Bool}
    (h : Property.category? name = some found) : ∀ c ∈ name.toList, isBare c = true := by
  obtain ⟨entry, hentry, -⟩ := Option.map_eq_some_iff.mp h
  exact isBare_of_find? (by decide +kernel) hentry

theorem isBare_of_script? {name : String} {found : Property × Bool}
    (h : Property.script? name = some found) : ∀ c ∈ name.toList, isBare c = true := by
  obtain ⟨entry, hentry, -⟩ := Option.map_eq_some_iff.mp h
  exact isBare_of_find? (by decide +kernel) hentry

theorem isBare_of_plain? {name : String} {found : Property × Bool}
    (h : Property.plain? name = some found) : ∀ c ∈ name.toList, isBare c = true := by
  obtain ⟨entry, hentry, -⟩ := Option.map_eq_some_iff.mp h
  exact isBare_of_find? (by decide +kernel) hentry

/-- A name that stands alone is one of a plain set, of a category or of a script. -/
theorem isBare_of_alone {name : List Char} {found : Property × Bool}
    (h : (Property.plain? (Property.bareName name)).or
      ((Property.category? (Property.bareName name)).or
        (Property.script? (Property.bareName name))) = some found) :
    ∀ c ∈ name, isBare c = true := by
  refine isBare_of_bareName ?_
  rcases Option.or_eq_some_iff.mp h with h | ⟨-, h⟩
  · exact isBare_of_plain? h
  · rcases Option.or_eq_some_iff.mp h with h | ⟨-, h⟩
    · exact isBare_of_category? h
    · exact isBare_of_script? h

/-- Of a kind and a value both are names. -/
theorem isBare_of_pair {kind value : List Char} {found : Property × Bool}
    (h : (match Property.bareName kind with
      | "gc" | "generalcategory" => Property.category? (Property.bareName value)
      | "sc" | "script" | "scx" | "scriptextensions" =>
        Property.script? (Property.bareName value)
      | _ => none) = some found) :
    (∀ c ∈ kind, isBare c = true) ∧ ∀ c ∈ value, isBare c = true := by
  constructor
  · refine isBare_of_bareName ?_
    split at h
    case h_7 => cases h
    all_goals
      next hkind =>
        rw [hkind]
        exact List.all_eq_true.mp (by decide +kernel)
  · refine isBare_of_bareName ?_
    split at h
    case h_1 | h_2 => exact isBare_of_category? h
    case h_3 | h_4 | h_5 | h_6 => exact isBare_of_script? h
    case h_7 => cases h

theorem isBare_of_dropLast {name : List Char} {mark : Char}
    (hlast : name.getLast? = some mark) (hmark : isBare mark = true)
    (h : ∀ c ∈ name.dropLast, isBare c = true) : ∀ c ∈ name, isBare c = true := by
  intro c hc
  have hne : name ≠ [] := List.ne_nil_of_mem hc
  rw [List.getLast?_eq_some_getLast hne, Option.some.injEq] at hlast
  rw [← List.dropLast_concat_getLast hne, hlast, List.mem_append, List.mem_singleton] at hc
  rcases hc with hc | rfl
  · exact h c hc
  · exact hmark

/-- A text that names a property consists of bare characters. -/
theorem isBare_of_ofName? {text : List Char} {found : Property × Bool}
    (h : Property.ofName? text = some found) : ∀ c ∈ text, isBare c = true := by
  unfold Property.ofName? at h
  extract_lets name at h
  have htext : name ++ text.dropWhile (fun c => !(c == '=' || c == ':')) = text :=
    List.takeWhile_append_dropWhile
  rw [← htext]
  split at h
  · next hdrop =>
    rw [hdrop, List.append_nil]
    exact isBare_of_alone h
  · next sign value hdrop =>
    extract_lets differs kind propertyOf at h
    obtain ⟨result, hresult, -⟩ := Option.map_eq_some_iff.mp h
    obtain ⟨hkind, hvalue⟩ := isBare_of_pair hresult
    have hsign : isBare sign = true :=
      isBare_of_test (fun c => c == '=' || c == ':') (by decide)
        (Bool.not_eq_eq_eq_not.mp (dropWhile_head hdrop))
    -- an exclamation mark that belongs to the sign is no part of the kind
    have hname : ∀ c ∈ name, isBare c = true := by
      by_cases hdiffers : differs = true
      · obtain ⟨-, hlast⟩ := Bool.and_eq_true_iff.mp hdiffers
        refine isBare_of_dropLast (beq_iff_eq.mp hlast) (by decide) ?_
        simpa only [kind, if_pos hdiffers] using hkind
      · simpa only [kind, if_neg hdiffers] using hkind
    rw [hdrop]
    exact List.forall_mem_append.mpr ⟨hname, List.forall_mem_cons.mpr ⟨hsign, hvalue⟩⟩

theorem isBare_of_ofProperty? {negated ignoreCase : Bool} {name : List Char} {s : CharSet}
    (h : ofProperty? negated ignoreCase name = some s) : ∀ c ∈ name, isBare c = true := by
  obtain ⟨found, hfound, -⟩ := Option.map_eq_some_iff.mp h
  exact isBare_of_ofName? hfound

end CharSet

namespace Escape

theorem readCode_takes {digits : Nat} {cs after : List Char} {found : Escape}
    (h : readCode digits cs = .ok (found, after)) : TakesOrdinary cs after := by
  unfold readCode at h
  extract_lets number at h
  -- the number is written by so many digits, or by any number of them between braces
  have hnumber : ∀ n rest, number = some (n, rest) → TakesOrdinary cs rest := by
    intro n rest hn
    simp only [number] at hn
    split at hn
    · next m hm =>
      obtain ⟨-, hn⟩ := Option.ite_none_right_eq_some.mp hn
      cases hn
      exact ⟨cs.take digits, (List.take_append_drop digits cs).symm,
        fun c hc => isOrdinary_of_isBare (isBare_of_hexNumber? hm c hc)⟩
    · split at hn
      · next braced =>
        split at hn
        · cases hn
        · split at hn
          · next close rest' hdrop =>
            obtain ⟨m, hm, heq⟩ := Option.map_eq_some_iff.mp hn
            cases heq
            exact .cons (by decide) (.upTo (by decide) hdrop
              fun c hc => isOrdinary_of_isBare (isBare_of_hexNumber? hm c hc))
          · cases hn
      · cases hn
  split at h
  · next c rest hfound =>
    cases h
    obtain ⟨⟨n, rest⟩, hn, hchar⟩ := Option.bind_eq_some_iff.mp hfound
    obtain ⟨c, -, heq⟩ := Option.map_eq_some_iff.mp hchar
    cases heq
    exact hnumber n _ hn
  · cases h

theorem readProperty_takes {negated ignoreCase : Bool} {cs after : List Char} {found : Escape}
    (h : readProperty negated ignoreCase cs = .ok (found, after)) : TakesOrdinary cs after := by
  unfold readProperty at h
  split at h
  · cases h
  · next rest =>
    split at h
    · next close rest' hdrop =>
      split at h
      · next s hs =>
        cases h
        exact .cons (by decide) (.upTo (by decide) hdrop
          fun c hc => isOrdinary_of_isBare (CharSet.isBare_of_ofProperty? hs c hc))
      · cases h
    · cases h
  · next c rest _ =>
    split at h
    · next s hs =>
      cases h
      exact .cons (isOrdinary_of_isBare (CharSet.isBare_of_ofProperty? hs c List.mem_cons_self))
        (.refl _)
    · cases h

/-- A name that is read stands between two ordinary characters. -/
theorem readName_takes {cs after : List Char} {found : Escape}
    (h : readName cs = .ok (found, after)) :
    ∃ name, found = .groupName name ∧
      ((∀ c ∈ name, isOrdinary c = true) → TakesOrdinary cs after) := by
  unfold readName at h
  extract_lets close? at h
  cases hclose : close? with
  | none => simp [hclose] at h
  | some pair =>
    obtain ⟨close, rest⟩ := pair
    have hcs : ∃ opener, isOrdinary opener = true ∧ isOrdinary close = true ∧
        cs = opener :: rest := by
      simp only [close?] at hclose
      split at hclose
      · cases hclose
        exact ⟨_, by decide, by decide, rfl⟩
      · cases hclose
        exact ⟨_, by decide, by decide, rfl⟩
      · cases hclose
    obtain ⟨opener, hopener, hordinary, rfl⟩ := hcs
    simp only [hclose] at h
    split at h
    · next d rest' hdrop =>
      split at h
      · cases h
      · cases h
        exact ⟨_, rfl, fun hname => .cons hopener (.upTo hordinary hdrop hname)⟩
    · cases h

theorem readOutside_takes {c : Char} {rest after : List Char} {found : Escape}
    (h : readOutside c rest = some (.ok (found, after)))
    (hname : ∀ name, found = .groupName name → ∀ d ∈ name, isOrdinary d = true) :
    TakesOrdinary rest after := by
  unfold readOutside at h
  split at h
  case h_1 =>
    obtain ⟨name, hfound, htakes⟩ := readName_takes (Option.some.inj h)
    exact htakes (hname name hfound)
  case h_4 | h_5 =>
    split at h
    · cases h
    · cases h
      exact .refl _
  all_goals
    cases h
    try exact .refl _

theorem readAnywhere_takes {ignoreCase : Bool} {c : Char} {rest after : List Char} {found : Escape}
    (h : readAnywhere ignoreCase c rest = .ok (found, after)) : TakesOrdinary rest after := by
  unfold readAnywhere at h
  split at h
  case h_9 | h_10 | h_11 => exact readCode_takes h
  case h_12 | h_13 => exact readProperty_takes h
  case h_14 =>
    split at h
    · cases h
      exact .refl _
    · split at h
      · cases h
      · cases h
        exact .refl _
  all_goals
    cases h
    exact .refl _

/-- What an escape reads after the escaped character is ordinary; for the name of a group this is so
if the name is. -/
theorem read_takes {inBrackets ignoreCase : Bool} {cs after : List Char} {found : Escape}
    (h : read inBrackets ignoreCase cs = .ok (found, after)) :
    ∃ c rest, cs = c :: rest ∧
      ((∀ name, found = .groupName name → ∀ d ∈ name, isOrdinary d = true) →
        TakesOrdinary rest after) := by
  unfold read at h
  split at h
  · cases h
  · next c rest =>
    refine ⟨c, rest, rfl, fun hname => ?_⟩
    split at h
    · split at h
      · next n after' hn =>
        cases h
        obtain ⟨digits, hdigits, hne, hordinary⟩ := readDecimal_eq hn
        cases digits with
        | nil => exact absurd rfl hne
        | cons d ds =>
          obtain ⟨rfl, hrest⟩ := List.cons_eq_cons.mp hdigits
          exact ⟨ds, hrest, fun e he => hordinary e (List.mem_cons_of_mem c he)⟩
      · cases h
    · split at h
      · next found' hfound =>
        subst h
        obtain ⟨-, houtside⟩ := Option.ite_none_left_eq_some.mp hfound
        exact readOutside_takes houtside hname
      · exact readAnywhere_takes h

end Escape

/-! ## Bracket expressions -/

namespace Brackets

open Zone

theorem splitFrom_reaches {ignoreCase : Bool} {depth : Nat} {parts parts' : List Part}
    {cs after : List Char} (h : splitFrom ignoreCase depth parts cs = .ok (parts', after)) :
    Reaches (inside depth) cs outside after := by
  fun_induction splitFrom ignoreCase depth parts cs with
  | case1 | case2 | case3 | case5 => cases h
  | case4 depth parts rest found next hread part? part hpart _ ih =>
    obtain ⟨c, tail, rfl, htakes⟩ := Escape.read_takes hread
    refine .escape_inside ((Reaches.inside (htakes ?_)).trans (ih h))
    rintro name rfl
    simp [part?] at hpart
  | case6 depth parts rest ih => exact .char (by decide) (ih h)
  | case7 parts rest =>
    cases h
    exact .char (by decide) (.refl _ _)
  | case8 parts rest depth ih => exact .char (by decide) (ih h)
  | case9 depth parts c rest hback hopen hclose ih =>
    refine .hidden (by simp) ?_
    rw [step, within, if_neg hback, if_neg hopen, if_neg hclose]
    exact ih h

theorem split_reaches {ignoreCase : Bool} {parts : List Part} {cs after : List Char}
    (h : split ignoreCase cs = .ok (parts, after)) : Reaches opened cs outside after := by
  unfold split at h
  split at h
  · exact .char (by decide) (.char (by decide) (splitFrom_reaches h))
  · next rest hclose =>
    have hreach : Reaches openedCaret rest outside after :=
      (splitFrom_reaches h).congr (by decide) fun c text hrest =>
        if_neg fun hc => hclose text (by rw [hrest, hc])
    exact .char (by decide) hreach
  · exact .char (by decide) (splitFrom_reaches h)
  · next hcaret' hcaret hclose =>
    refine (splitFrom_reaches h).congr (by decide) fun c text hrest => ?_
    rw [step, if_neg fun hc => hcaret text (by rw [hrest, hc]),
      if_neg fun hc => hclose text (by rw [hrest, hc]), step]

theorem read_reaches {ignoreCase : Bool} {s : CharSet} {cs after : List Char}
    (h : read ignoreCase cs = .ok (s, after)) : Reaches opened cs outside after := by
  obtain ⟨⟨parts, rest⟩, hsplit, h⟩ := bind_eq_ok h
  obtain ⟨set, -, h⟩ := bind_eq_ok h
  cases h
  exact split_reaches hsplit

end Brackets

/-! ## Open brackets -/

namespace Zone

/-- The first place has no more brackets open than the second one. -/
inductive Below : Zone → Zone → Prop where
  | refl (zone : Zone) : Below zone zone
  | outside {zone : Zone} (h : zone.isSettled = true) : Below outside zone
  | outsideEscape (depth : Nat) : Below outsideEscape (insideEscape depth)
  | opened (depth : Nat) : Below opened (inside (depth + 1))
  | openedCaret (depth : Nat) : Below openedCaret (inside (depth + 1))
  | inside {m n : Nat} (h : m ≤ n) : Below (inside m) (inside n)
  | insideEscape {m n : Nat} (h : m ≤ n) : Below (insideEscape m) (insideEscape n)

theorem Below.eq_outside {z : Zone} (h : Below z Zone.outside) : z = Zone.outside := by
  cases h with
  | refl | outside => rfl

theorem isSettled_step {z : Zone} {c : Char} (hz : z.isSettled = true) (hback : c ≠ '\\') :
    (z.step c).isSettled = true := by
  have hwithin (depth : Nat) : (within depth c).isSettled = true := by
    rw [within, if_neg hback]
    repeat' split
    all_goals rfl
  cases z with
  | outside =>
    rw [step, if_neg hback]
    split <;> rfl
  | opened =>
    rw [step]
    split
    · rfl
    · split
      · rfl
      · exact hwithin 0
  | openedCaret =>
    rw [step]
    split
    · rfl
    · exact hwithin 0
  | inside depth => exact hwithin depth
  | outsideEscape | insideEscape depth => cases hz

theorem within_mono {m n : Nat} (h : m ≤ n) (c : Char) : Below (within m c) (within n c) := by
  unfold within
  split
  · exact .insideEscape h
  · split
    · exact .inside (Nat.succ_le_succ h)
    · split
      · split
        · split
          · exact .refl _
          · exact .outside rfl
        · next hm =>
          rw [if_neg (by omega)]
          exact .inside (by omega)
      · exact .inside h

theorem step_mono {z z' : Zone} (h : Below z z') (c : Char) : Below (z.step c) (z'.step c) := by
  cases h with
  | refl => exact .refl _
  | outside hz =>
    -- outside only a backslash and a bracket lead elsewhere, and inside they lead to no less
    by_cases hback : c = '\\'
    · subst hback
      cases z' with
      | outside => exact .refl _
      | opened | openedCaret | inside depth => exact .outsideEscape _
      | outsideEscape | insideEscape depth => cases hz
    · by_cases hopen : c = '['
      · subst hopen
        cases z' with
        | outside => exact .refl _
        | opened | openedCaret | inside depth => exact .opened _
        | outsideEscape | insideEscape depth => cases hz
      · have hstep := isSettled_step hz hback
        rw [step, if_neg hback, if_neg hopen]
        exact .outside hstep
  | outsideEscape depth => exact .outside rfl
  | opened depth =>
    by_cases hcaret : c = '^'
    · subst hcaret
      exact .openedCaret depth
    · by_cases hclose : c = ']'
      · subst hclose
        exact .inside (Nat.zero_le _)
      · rw [step, if_neg hcaret, if_neg hclose]
        exact within_mono (Nat.zero_le _) c
  | openedCaret depth =>
    by_cases hclose : c = ']'
    · subst hclose
      exact .inside (Nat.zero_le _)
    · rw [step, if_neg hclose]
      exact within_mono (Nat.zero_le _) c
  | inside h => exact within_mono h c
  | insideEscape h => exact .inside h

/-- A text that leaves a bracket open outside leaves one open inside. -/
theorem after_mono {z z' : Zone} (h : Below z z') (text : List Char) :
    Below (z.after text) (z'.after text) := by
  induction text generalizing z z' with
  | nil => exact h
  | cons c text ih => exact ih (step_mono h c)

end Zone

end MockHttp.Regex
