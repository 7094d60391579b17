import MockHttp.Proofs.Regex.Ways
import MockHttp.Template.Escaping

/-!
# How patterns are written

`Writes` says that a text, wherever it stands in a pattern, is read as some pieces and nothing else.
The text that follows must be `fresh`: it must not begin with a repetition sign, which would apply
to the last piece, nor with a comment. `WritesOne` is the stronger statement for a text that writes
one piece, whatever follows: such a piece can be repeated. The pieces depend on whether case is
ignored where the text stands; unless it is said, it is not.

Results:
1. `writes_literal`, `writes_noneOf`: escaped characters and bracket expressions.
2. `ReadsBody.capture`, `ReadsBody.bare`, `WritesOne.optional`, `WritesOne.star`: groups and
   repetitions.
3. `Writes.or`, `ReadsBody.ahead`: alternatives, and conditions on what follows.
4. `readPattern_eq_of_writes`: what is written without looking back is a pattern by itself.
-/

namespace MockHttp.Regex

open Progress Template

/-! ## Progress -/

namespace Progress

@[simp] theorem settle_flags (p : Progress) : p.settle.flags = p.flags := by
  unfold settle
  split <;> rfl

@[simp] theorem settle_groups (p : Progress) : p.settle.groups = p.groups := by
  unfold settle
  split <;> rfl

@[simp] theorem settle_names (p : Progress) : p.settle.names = p.names := by
  unfold settle
  split <;> rfl

@[simp] theorem settle_outer (p : Progress) : p.settle.outer = p.outer := by
  unfold settle
  split <;> rfl

@[simp] theorem settle_last (p : Progress) : p.settle.last = none := by
  unfold settle
  split
  · next hlast => exact hlast
  · rfl
  · rfl

theorem settle_of_last {p : Progress} (hlast : p.last = none) : p.settle = p := by
  unfold settle
  rw [hlast]

@[simp] theorem settle_settle (p : Progress) : p.settle.settle = p.settle :=
  settle_of_last (settle_last p)

theorem finish_settle (p : Progress) : p.settle.finish = p.finish := by
  simp only [finish, settle_settle]

/-- Only the level changes. -/
theorem settle_eq (p : Progress) : p.settle = { p with last := none, level := p.settle.level } := by
  unfold settle
  split
  · next hlast => rw [← hlast]
  · rfl
  · rfl

/-- Closing a group settles its last piece. -/
theorem leave_settle (p : Progress) : p.settle.leave = p.leave := by
  have hfinish := finish_settle p
  obtain ⟨level, hlevel⟩ : ∃ level, p.settle = { p with last := none, level := level } :=
    ⟨_, settle_eq p⟩
  rw [hlevel] at hfinish ⊢
  unfold leave
  rw [hfinish]

def grow (p : Progress) (groups : Nat) (pieces : List Expr) : Progress :=
  { p with
    groups := p.groups + groups
    level := { p.level with pieces := pieces.reverse ++ p.level.pieces } }

/-- The progress after some more groups and one piece that a repetition may apply to. -/
def growOne (p : Progress) (groups : Nat) (piece : Expr) : Progress :=
  { p with groups := p.groups + groups, last := some piece }

theorem grow_grow (p : Progress) (m n : Nat) (es fs : List Expr) :
    (p.grow m es).grow n fs = p.grow (m + n) (es ++ fs) := by
  simp only [grow, Nat.add_assoc, List.reverse_append, List.append_assoc]

theorem settle_growOne {p : Progress} {groups : Nat} {piece : Expr} (hp : p.last = none)
    (hpiece : piece ≠ .empty) : (p.growOne groups piece).settle = p.grow groups [piece] := by
  unfold settle growOne
  split
  · next hlast => exact absurd hlast (by simp)
  · next hlast => exact absurd (Option.some.inj hlast) hpiece
  · next e _ hlast =>
    obtain rfl := Option.some.inj hlast
    simp [grow, hp]

/-- Groups can be nested `depth` deep here, no flag is set except perhaps that case is ignored, and
no group has a name. -/
structure IsOpen (p : Progress) (depth : Nat) (ignoreCase : Bool := false) : Prop where
  flags : p.flags = { ignoreCase := ignoreCase }
  names : p.names = []
  depth : p.outer.length + depth < maxDepth

variable {ic : Bool}

theorem IsOpen.settle {p : Progress} {depth : Nat} (hp : p.IsOpen depth ic) :
    p.settle.IsOpen depth ic :=
  ⟨by rw [settle_flags, hp.flags], by rw [settle_names, hp.names],
    by rw [settle_outer]; exact hp.depth⟩

theorem IsOpen.mono {p : Progress} {m n : Nat} (hp : p.IsOpen n ic) (h : m ≤ n) : p.IsOpen m ic :=
  ⟨hp.flags, hp.names, Nat.lt_of_le_of_lt (Nat.add_le_add_left h _) hp.depth⟩

/-- Whatever settles as a grown progress is as open as the progress was. -/
theorem IsOpen.of_settle {p q : Progress} {depth groups : Nat} {pieces : List Expr}
    (hp : p.IsOpen depth ic) (hq : q.settle = p.settle.grow groups pieces) :
    q.IsOpen depth ic := by
  refine ⟨?_, ?_, ?_⟩
  · rw [← settle_flags, hq]
    exact hp.settle.flags
  · rw [← settle_names, hq]
    exact hp.settle.names
  · rw [← settle_outer, hq]
    exact hp.settle.depth

end Progress

/-! ## Steps of the reader -/

variable {ic : Bool}

/-- The text begins with neither a repetition sign nor a comment. -/
def fresh : List Char → Bool
  | '(' :: '?' :: '#' :: _ => false
  | c :: _ => !(['?', '*', '+', '\x7B'].contains c)
  | [] => true

theorem fresh_cons {c : Char} {rest : List Char} (hopen : c ≠ '(')
    (hc : ['?', '*', '+', '\x7B'].contains c = false) : fresh (c :: rest) = true := by
  unfold fresh
  split
  · next heq => exact absurd (List.cons_eq_cons.mp heq).1 hopen
  · next heq =>
    obtain ⟨rfl, rfl⟩ := List.cons_eq_cons.mp heq
    simp only [hc, Bool.not_false]
  · rfl

theorem skipBlank_cons {c : Char} {rest : List Char} (hopen : c ≠ '(') :
    skipBlank { ignoreCase := ic } (c :: rest) = some (c :: rest) := by
  unfold skipBlank skipBlankFrom
  split <;> simp_all

theorem skipBlank_of_fresh {cs : List Char} (hcs : fresh cs = true) :
    skipBlank { ignoreCase := ic } cs = some cs := by
  unfold skipBlank skipBlankFrom
  split <;> simp_all [fresh]

/-- One step of the reader. -/
theorem readAll_step {p q : Progress} {c : Char} {rest after : List Char}
    (hp : p.flags = { ignoreCase := ic })
    (hblank : skipBlank { ignoreCase := ic } (c :: rest) = some (c :: rest))
    (hstep : p.step c rest = .ok (q, after)) (hlen : after.length ≤ rest.length) :
    readAll p (c :: rest) = readAll q after := by
  rw [readAll, hp, hblank]
  dsimp only
  rw [hstep]
  exact dif_pos (Nat.lt_succ_of_le hlen)

/-- Wherever it stands, the text is read as `groups` remembered groups, nested at most `depth` deep,
and some pieces, which depend on the number of groups before. -/
def Writes (text : List Char) (groups depth : Nat) (pieces : Nat → List Expr)
    (ignoreCase : Bool := false) : Prop :=
  (∀ rest, fresh rest = true → fresh (text ++ rest) = true) ∧
    ∀ p rest, p.IsOpen depth ignoreCase → fresh rest = true →
      ∃ q, readAll p (text ++ rest) = readAll q rest ∧
        q.settle = p.settle.grow groups (pieces p.groups)

/-- Wherever it stands and whatever follows, the text is read as `groups` remembered groups, nested
at most `depth` deep, and one piece, which is not empty. -/
def WritesOne (text : List Char) (groups depth : Nat) (piece : Nat → Expr)
    (ignoreCase : Bool := false) : Prop :=
  (∀ rest, fresh (text ++ rest) = true) ∧ (∀ n, piece n ≠ .empty) ∧
    ∀ p rest, p.IsOpen depth ignoreCase →
      readAll p (text ++ rest) = readAll (p.settle.growOne groups (piece p.groups)) rest

namespace Writes

variable {text text' : List Char} {m n depth depth' : Nat} {es fs : Nat → List Expr}

theorem nil : Writes [] 0 depth (fun _ => []) ic :=
  ⟨fun _ h => h, fun p _ _ _ => ⟨p, rfl, rfl⟩⟩

theorem append (h : Writes text m depth es ic) (h' : Writes text' n depth fs ic) :
    Writes (text ++ text') (m + n) depth (fun g => es g ++ fs (g + m)) ic := by
  refine ⟨fun rest hrest => ?_, fun p rest hp hrest => ?_⟩
  · rw [List.append_assoc]
    exact h.1 _ (h'.1 _ hrest)
  · obtain ⟨q, hread, hq⟩ := h.2 p (text' ++ rest) hp (h'.1 _ hrest)
    obtain ⟨r, hread', hr⟩ := h'.2 q rest (hp.of_settle hq) hrest
    have hgroups : q.groups = p.groups + m := by
      rw [← settle_groups, hq]
      simp [grow]
    exact ⟨r, by rw [List.append_assoc, hread, hread'], by rw [hr, hq, hgroups, grow_grow]⟩

theorem mono (h : Writes text m depth es ic) (hle : depth ≤ depth') :
    Writes text m depth' es ic :=
  ⟨h.1, fun p rest hp => h.2 p rest (hp.mono hle)⟩

end Writes

theorem WritesOne.toWrites {text : List Char} {n depth : Nat} {piece : Nat → Expr}
    (h : WritesOne text n depth piece ic) : Writes text n depth (fun g => [piece g]) ic :=
  ⟨fun rest _ => h.1 rest, fun p rest hp _ => ⟨_, h.2.2 p rest hp, by
    rw [settle_growOne (settle_last p) (h.2.1 _)]⟩⟩

/-! ## Characters -/

theorem step_char (p : Progress) {c : Char} (rest : List Char) (hc : isOperator c = false) :
    p.step c rest = .ok (p.push (.char c p.flags.ignoreCase), rest) := by
  unfold step
  split <;> first | rfl | exact absurd hc (by decide)

/-- A character that is no operator writes itself. -/
theorem writesOne_char {c : Char} (hc : isOperator c = false) :
    WritesOne [c] 0 0 (fun _ => .char c ic) ic := by
  have hopen : c ≠ '(' := by
    rintro rfl
    exact absurd hc (by decide)
  refine ⟨fun rest => fresh_cons hopen ?_, by simp, fun p rest hp => ?_⟩
  · simp only [isOperator, List.contains_eq_mem, List.mem_cons, decide_eq_false_iff_not] at hc ⊢
    tauto
  · have hstep := step_char p rest hc
    rw [hp.flags] at hstep
    exact readAll_step hp.flags (skipBlank_cons hopen) hstep (Nat.le_refl _)

theorem readEscape_operator (p : Progress) {c : Char} (rest : List Char)
    (hc : isOperator c = true) : p.readEscape (c :: rest) = .ok (p.push (.char c false), rest) := by
  have hescape : Escape.read false p.flags.ignoreCase (c :: rest) = .ok (.char c false, rest) := by
    simp only [isOperator, List.contains_eq_mem, List.mem_cons, List.not_mem_nil, or_false,
      decide_eq_true_eq] at hc
    rcases hc with rfl | rfl | rfl | rfl | rfl | rfl | rfl | rfl | rfl | rfl | rfl | rfl | rfl | rfl
      <;> rfl
  unfold readEscape
  rw [hescape]
  rfl

/-- An operator after a backslash writes itself. -/
theorem writesOne_escaped {c : Char} (hc : isOperator c = true) :
    WritesOne ['\\', c] 0 0 (fun _ => .char c false) ic := by
  refine ⟨fun rest => rfl, by simp, fun p rest hp => ?_⟩
  exact readAll_step hp.flags (skipBlank_cons (by decide)) (readEscape_operator p rest hc)
    (Nat.le_succ _)

/-- The expressions of a text, character by character. The case of an operator, which is escaped, is
never ignored. -/
def charExprs (text : List Char) (ignoreCase : Bool := false) : List Expr :=
  text.map fun c => .char c (ignoreCase && !isOperator c)

/-- Escaped text writes its characters. -/
theorem writes_literal (text : List Char) :
    Writes (escapeLiteral text) 0 0 (fun _ => charExprs text ic) ic := by
  induction text with
  | nil => exact .nil
  | cons c text ih =>
    have hexprs : charExprs (c :: text) ic =
        .char c (ic && !isOperator c) :: charExprs text ic := rfl
    rw [hexprs]
    cases hc : isOperator c with
    | true =>
      have htext : escapeLiteral (c :: text) = ['\\', c] ++ escapeLiteral text := by
        simp [escapeLiteral, escapeWhere, hc]
      rw [htext, Bool.not_true, Bool.and_false]
      exact (writesOne_escaped hc).toWrites.append ih
    | false =>
      have htext : escapeLiteral (c :: text) = [c] ++ escapeLiteral text := by
        simp [escapeLiteral, escapeWhere, hc]
      rw [htext, Bool.not_false, Bool.and_true]
      exact (writesOne_char hc).toWrites.append ih

/-! ## Bracket expressions -/

namespace Brackets

/-- The part that a character writes inside of brackets when it is escaped where needed. -/
def partOf (c : Char) : Part := if isBracketOperator c then .literal c else .raw c

theorem readEscape_operator {c : Char} (rest : List Char) (hc : isBracketOperator c = true) :
    Escape.read true ic (c :: rest) = .ok (.char c false, rest) := by
  simp only [isBracketOperator, List.contains_eq_mem, List.mem_cons, List.not_mem_nil, or_false,
    decide_eq_true_eq] at hc
  rcases hc with rfl | rfl | rfl | rfl | rfl | rfl | rfl <;> rfl

theorem splitFrom_escaped (text rest : List Char) (parts : List Part) :
    splitFrom ic 0 parts (escapeBrackets text ++ ']' :: rest) =
      .ok (parts.reverse ++ text.map partOf ++ [.raw ']'], rest) := by
  induction text generalizing parts with
  | nil =>
    rw [escapeBrackets, escapeWhere, List.nil_append, splitFrom]
    simp
  | cons c text ih =>
    cases hc : isBracketOperator c with
    | true =>
      have htext : escapeBrackets (c :: text) = '\\' :: c :: escapeBrackets text := by
        simp [escapeBrackets, escapeWhere, hc]
      rw [htext, List.cons_append, List.cons_append, splitFrom, readEscape_operator _ hc]
      simp [ih, partOf, hc]
    | false =>
      have htext : escapeBrackets (c :: text) = c :: escapeBrackets text := by
        simp [escapeBrackets, escapeWhere, hc]
      -- every other case of the reader asks for an operator
      rw [htext, List.cons_append]
      unfold splitFrom
      split
      · next heq => exact absurd heq (by simp)
      · next heq =>
        obtain ⟨rfl, _⟩ := List.cons_eq_cons.mp heq
        exact absurd hc (by decide)
      · next heq =>
        obtain ⟨rfl, _⟩ := List.cons_eq_cons.mp heq
        exact absurd hc (by decide)
      · next heq =>
        obtain ⟨rfl, _⟩ := List.cons_eq_cons.mp heq
        exact absurd hc (by decide)
      · next heq =>
        obtain ⟨rfl, rfl⟩ := List.cons_eq_cons.mp heq
        simp [ih, partOf, hc]

/-- The set of the characters of a text, and those of another set. -/
def withChars (s : CharSet) (text : List Char) : CharSet :=
  text.foldl (fun s c => s.union (.single c)) s

theorem contains_withChars (s : CharSet) (text : List Char) (c : Char) :
    (withChars s text).contains c = (s.contains c || text.contains c) := by
  induction text generalizing s with
  | nil => simp [withChars]
  | cons d text ih =>
    have hsingle : (CharSet.single d).contains c = (c == d) := by
      rw [CharSet.single, CharSet.contains, Bool.eq_iff_iff, Bool.and_eq_true, decide_eq_true_eq,
        decide_eq_true_eq, beq_iff_eq]
      refine ⟨fun h => Char.le_antisymm h.2 h.1, ?_⟩
      rintro rfl
      exact ⟨Char.le_refl _, Char.le_refl _⟩
    rw [withChars, List.foldl_cons]
    rw [← withChars, ih, CharSet.contains, hsingle, List.contains_cons, Bool.or_assoc]

theorem partOf_ne {c d : Char} (hd : isBracketOperator d = true) : partOf c ≠ .raw d := by
  unfold partOf
  split
  · simp
  · next hc =>
    rintro ⟨rfl⟩
    exact hc hd

theorem toSet_partOf (c : Char) : (partOf c).toSet = .single c := by
  unfold partOf
  split <;> rfl

theorem readItem_partOf (c : Char) (text : List Char) :
    readItem (partOf c) (text.map partOf ++ [.raw ']']) =
      .ok (.single c, text.map partOf ++ [.raw ']']) := by
  rw [← toSet_partOf]
  cases text with
  | nil =>
    unfold partOf
    split <;> rfl
  | cons d text =>
    have hne : partOf d ≠ .raw '-' := partOf_ne (by decide)
    unfold readItem
    split <;> simp_all

theorem buildFrom_partOf (level : Level) (text : List Char) :
    buildFrom ic level [] (text.map partOf ++ [.raw ']']) =
      .ok ({ level with items := withChars level.items text }.close ic) := by
  induction text generalizing level with
  | nil =>
    rw [List.map_nil, List.nil_append, buildFrom]
    rfl
  | cons c text ih =>
    have hne := fun d hd => partOf_ne (c := c) (d := d) hd
    -- no part of an escaped text is an operator, so only the case of an item is left
    have hitem := readItem_partOf c text
    rw [List.map_cons, List.cons_append]
    unfold buildFrom
    split
    · next heq => exact absurd heq (by simp)
    · next heq => exact absurd (List.cons_eq_cons.mp heq).1 (hne _ (by decide))
    · next heq => exact absurd (List.cons_eq_cons.mp heq).1 (hne _ (by decide))
    · next heq => exact absurd (List.cons_eq_cons.mp heq).1 (hne _ (by decide))
    · next heq => exact absurd (List.cons_eq_cons.mp heq).1 (hne _ (by decide))
    · next heq => exact absurd (List.cons_eq_cons.mp heq).1 (hne _ (by decide))
    · next heq =>
      obtain ⟨rfl, rfl⟩ := List.cons_eq_cons.mp heq
      rw [hitem]
      dsimp only
      rw [dif_pos (Nat.le_refl _)]
      exact ih _

def otherChars (text : List Char) (ignoreCase : Bool := false) : CharSet :=
  .compl ((withChars .empty text).foldIf ignoreCase)

/-- Brackets around an escaped text that is not empty, with a caret before it, hold all characters
that are not in the text. -/
theorem read_noneOf {text : List Char} (htext : text ≠ []) (rest : List Char) :
    Brackets.read ic ('^' :: escapeBrackets text ++ ']' :: rest) =
      .ok (otherChars text ic, rest) := by
  obtain ⟨c, text, rfl⟩ := List.exists_cons_of_ne_nil htext
  have hsplit : split ic ('^' :: escapeBrackets (c :: text) ++ ']' :: rest) =
      .ok (.raw '^' :: (c :: text).map partOf ++ [.raw ']'], rest) := by
    have hfrom : splitFrom ic 0 [.raw '^'] _ = _ := splitFrom_escaped (c :: text) rest [.raw '^']
    -- a bracket right after the caret would stand for itself
    have hhead : (escapeBrackets (c :: text) ++ ']' :: rest).head? ≠ some ']' := by
      simp only [escapeBrackets, escapeWhere]
      split
      · simp
      · next hc =>
        simp only [List.cons_append, List.head?_cons, ne_eq, Option.some.injEq]
        rintro rfl
        exact hc (by decide)
    rw [List.cons_append]
    unfold split
    split
    · next heq =>
      rw [(List.cons_eq_cons.mp heq).2] at hhead
      exact absurd rfl hhead
    · next heq =>
      obtain ⟨_, rfl⟩ := List.cons_eq_cons.mp heq
      exact hfrom
    · next heq => exact absurd (List.cons_eq_cons.mp heq).1 (by decide)
    · next hcaret _ => exact absurd rfl (hcaret _)
  have hopen : openLevel (.raw '^' :: (c :: text).map partOf ++ [.raw ']']) =
      (⟨true, none, .empty⟩, (c :: text).map partOf ++ [.raw ']']) := by
    have hhyphen : (partOf c == .raw '-') = false := by
      rw [beq_eq_false_iff_ne]
      exact partOf_ne (by decide)
    have hclose : partOf c ≠ .raw ']' := partOf_ne (by decide)
    simp only [openLevel, List.map_cons, List.cons_append, List.takeWhile_cons, hhyphen,
      List.dropWhile_cons]
    split
    · next heq => exact absurd (List.cons_eq_cons.mp heq).1 hclose
    · rfl
  have hbuild : buildFrom ic ⟨true, none, .empty⟩ [] _ = _ := buildFrom_partOf _ (c :: text)
  unfold Brackets.read
  rw [hsplit]
  simp only [build, hopen, hbuild, bind, Except.bind]
  rfl

end Brackets

/-! ## Repetitions -/

theorem fresh_ne {c : Char} {rest : List Char} (hrest : fresh (c :: rest) = true) {d : Char}
    (hd : ['?', '*', '+', '\x7B'].contains d = true) : c ≠ d := by
  rintro rfl
  unfold fresh at hrest
  split at hrest
  · exact absurd hrest (by simp)
  · next heq =>
    obtain ⟨rfl, _⟩ := List.cons_eq_cons.mp heq
    rw [hd] at hrest
    exact absurd hrest (by simp)
  · next heq => exact absurd heq (by simp)

/-- A repetition sign without a second sign after it. -/
theorem quantify_greedy {p : Progress} (n lo : Nat) (hi : Option Nat) {e : Expr} {rest : List Char}
    (hp : p.flags = { ignoreCase := ic }) (hlast : p.last = none) (he : repeatable e = true)
    (hrest : fresh rest = true) :
    (p.growOne n e).quantify lo hi rest = .ok (p.grow n [.iter e lo hi true], rest) := by
  obtain ⟨flags, groups, names, numbered, outer, level, last⟩ := p
  obtain rfl : flags = { ignoreCase := ic } := hp
  obtain rfl : last = none := hlast
  unfold quantify
  dsimp only [growOne]
  rw [if_neg (by simp [he]), skipBlank_of_fresh hrest]
  cases rest with
  | nil => rfl
  | cons c after =>
    have hmark : c ≠ '?' := fresh_ne hrest (by decide)
    have hplus : c ≠ '+' := fresh_ne hrest (by decide)
    dsimp only
    split
    · next heq =>
      split at heq
      · next h => exact absurd (List.cons_eq_cons.mp h).1 hmark
      · exact absurd (List.cons_eq_cons.mp heq).1 hplus
    · split
      · next h => exact absurd (List.cons_eq_cons.mp h).1 hmark
      · rfl

/-- A repetition sign with a question mark after it. -/
theorem quantify_reluctant {p : Progress} (n lo : Nat) (hi : Option Nat) {e : Expr}
    {rest : List Char} (hp : p.flags = { ignoreCase := ic }) (hlast : p.last = none)
    (he : repeatable e = true) (hrest : fresh rest = true) :
    (p.growOne n e).quantify lo hi ('?' :: rest) = .ok (p.grow n [.iter e lo hi false], rest) := by
  obtain ⟨flags, groups, names, numbered, outer, level, last⟩ := p
  obtain rfl : flags = { ignoreCase := ic } := hp
  obtain rfl : last = none := hlast
  unfold quantify
  dsimp only [growOne]
  rw [if_neg (by simp [he]), skipBlank_cons (by decide)]
  dsimp only
  split
  · next after heq =>
    obtain rfl : rest = '+' :: after := heq
    exact absurd rfl (fresh_ne hrest (by decide))
  · rfl

/-- A bracket expression that excludes some characters, repeated at least once and reluctantly. -/
theorem writes_noneOf {text : List Char} (htext : text ≠ []) :
    Writes ('[' :: '^' :: escapeBrackets text ++ [']', '+', '?']) 0 0
      (fun _ => [.iter (.set (Brackets.otherChars text ic)) 1 none false]) ic := by
  refine ⟨fun rest _ => rfl, fun p rest hp hrest => ⟨_, ?_, settle_of_last (settle_last p)⟩⟩
  have hbrackets : p.step '[' ('^' :: escapeBrackets text ++ ']' :: '+' :: '?' :: rest) =
      .ok (p.push (.set (Brackets.otherChars text ic)), '+' :: '?' :: rest) := by
    unfold step
    rw [hp.flags, Brackets.read_noneOf htext]
    rfl
  have hplus := quantify_reluctant 0 1 none (p := p.settle)
    (e := .set (Brackets.otherChars text ic)) hp.settle.flags (settle_last p) rfl hrest
  rw [show '[' :: '^' :: escapeBrackets text ++ [']', '+', '?'] ++ rest =
    '[' :: ('^' :: escapeBrackets text ++ ']' :: '+' :: '?' :: rest) by simp]
  rw [readAll_step hp.flags (skipBlank_cons (by decide)) hbrackets (by simp; omega)]
  exact readAll_step hp.settle.flags (skipBlank_cons (by decide)) hplus (by simp)

section Repetition

variable {text : List Char} {n depth : Nat} {piece : Nat → Expr}

/-- A piece with a repetition sign after it. -/
theorem WritesOne.repeated (h : WritesOne text n depth piece ic)
    (hrep : ∀ g, repeatable (piece g) = true) (sign : Char) (lo : Nat) (hi : Option Nat)
    (hopen : sign ≠ '(') (hsign : ∀ p rest, step p sign rest = p.quantify lo hi rest) :
    Writes (text ++ [sign]) n depth (fun g => [.iter (piece g) lo hi true]) ic := by
  refine ⟨fun rest _ => ?_, fun p rest hp hrest => ?_⟩
  · rw [List.append_assoc]
    exact h.1 _
  · have hstep : step (p.settle.growOne n (piece p.groups)) sign rest =
        .ok (p.settle.grow n [.iter (piece p.groups) lo hi true], rest) := by
      rw [hsign, quantify_greedy n lo hi hp.settle.flags (settle_last p) (hrep _) hrest]
    refine ⟨_, ?_, settle_of_last (settle_last p)⟩
    rw [List.append_assoc, h.2.2 p _ hp]
    exact readAll_step hp.settle.flags (skipBlank_cons hopen) hstep (Nat.le_refl _)

theorem WritesOne.optional (h : WritesOne text n depth piece ic)
    (hrep : ∀ g, repeatable (piece g) = true) :
    Writes (text ++ ['?']) n depth (fun g => [.iter (piece g) 0 (some 1) true]) ic :=
  h.repeated hrep '?' 0 (some 1) (by decide) fun _ _ => rfl

theorem WritesOne.star (h : WritesOne text n depth piece ic)
    (hrep : ∀ g, repeatable (piece g) = true) :
    Writes (text ++ ['*']) n depth (fun g => [.iter (piece g) 0 none true]) ic :=
  h.repeated hrep '*' 0 none (by decide) fun _ _ => rfl

end Repetition

/-! ## Groups -/

def Level.alternatives (level : Level) : List Expr :=
  (.ofSeq level.pieces.reverse :: level.done).reverse

theorem finish_eq {p : Progress} (hp : p.names = []) :
    p.finish = .ok (.ofAlt p.settle.level.alternatives) := by
  unfold finish Level.alternatives
  dsimp only
  rw [settle_names, hp]
  cases p.settle.level.done with
  | nil => simp [Expr.ofAlt]
  | cons e done => rfl

/-- The expression that a closed group stands for. -/
def Opener.wrap : Opener → Expr → Expr
  | .group n, e => .group n e
  | .plain _, e => e
  | .look side negated, e => .look side negated e
  | .atomic, e => .atomic e

/-- The flags that hold after a group, `flags` being those inside of it. -/
def Opener.flagsAfter (flags : Flags) : Opener → Flags
  | .plain before => before
  | _ => flags

theorem leave_eq {p : Progress} {opener : Opener} {around : Level} {outer : List (Opener × Level)}
    (hp : p.names = []) (houter : p.outer = (opener, around) :: outer) :
    p.leave = .ok { p with
      flags := opener.flagsAfter p.flags
      outer := outer
      level := around
      last := some (opener.wrap (.ofAlt p.settle.level.alternatives)) } := by
  unfold leave
  rw [houter, finish_eq hp]
  cases opener <;> rfl

/-- Between parentheses the text is read as `groups` remembered groups, nested at most `depth` deep,
and some alternatives. -/
def WritesBody (text : List Char) (groups depth : Nat) (alts : Nat → List Expr)
    (ignoreCase : Bool := false) : Prop :=
  (∀ rest, fresh (text ++ ')' :: rest) = true) ∧
    ∀ p rest, p.IsOpen depth ignoreCase → p.last = none → p.level.pieces = [] →
      ∃ q level, readAll p (text ++ ')' :: rest) = readAll q (')' :: rest) ∧
        q.settle = { p with groups := p.groups + groups, level := level } ∧
        level.alternatives = p.level.done.reverse ++ alts p.groups

/-- The same without a condition on how the text begins. -/
def ReadsBody (text : List Char) (groups depth : Nat) (alts : Nat → List Expr)
    (ignoreCase : Bool := false) : Prop :=
  ∀ p rest, p.IsOpen depth ignoreCase → p.last = none → p.level.pieces = [] →
    ∃ q level, readAll p (text ++ ')' :: rest) = readAll q (')' :: rest) ∧
      q.settle = { p with groups := p.groups + groups, level := level } ∧
      level.alternatives = p.level.done.reverse ++ alts p.groups

theorem WritesBody.toReads {text : List Char} {n depth : Nat} {alts : Nat → List Expr}
    (h : WritesBody text n depth alts ic) : ReadsBody text n depth alts ic := h.2

theorem ReadsBody.mono {text : List Char} {n depth depth' : Nat} {alts : Nat → List Expr}
    (h : ReadsBody text n depth alts ic) (hle : depth ≤ depth') :
    ReadsBody text n depth' alts ic :=
  fun p rest hp => h p rest (hp.mono hle)

theorem Writes.toBody {text : List Char} {n depth : Nat} {pieces : Nat → List Expr}
    (h : Writes text n depth pieces ic) :
    WritesBody text n depth (fun g => [.ofSeq (pieces g)]) ic := by
  have hclose : ∀ rest, fresh (')' :: rest) = true := fun rest => rfl
  refine ⟨fun rest => h.1 _ (hclose rest), fun p rest hp hlast hlevel => ?_⟩
  obtain ⟨q, hread, hq⟩ := h.2 p _ hp (hclose rest)
  refine ⟨q, ⟨(pieces p.groups).reverse, p.level.done⟩, hread, ?_, ?_⟩
  · rw [hq, settle_of_last hlast, grow, hlevel, List.append_nil]
  · simp [Level.alternatives]

/-- One alternative before others. -/
theorem Writes.or {text text' : List Char} {m n depth : Nat} {pieces alts : Nat → List Expr}
    (h : Writes text m depth pieces ic) (h' : WritesBody text' n depth alts ic) :
    WritesBody (text ++ '|' :: text') (m + n) depth
      (fun g => .ofSeq (pieces g) :: alts (g + m)) ic := by
  have htext (rest : List Char) :
      text ++ '|' :: text' ++ ')' :: rest = text ++ '|' :: (text' ++ ')' :: rest) := by
    simp
  have hbar : ∀ rest, fresh ('|' :: rest) = true := fun rest => rfl
  refine ⟨fun rest => ?_, fun p rest hp hlast hlevel => ?_⟩
  · rw [htext]
    exact h.1 _ (hbar _)
  · -- the bar puts the first alternative aside, and the others are read from an empty level
    obtain ⟨q, hread, hq⟩ := h.2 p _ hp (hbar (text' ++ ')' :: rest))
    have hqopen := hp.of_settle hq
    have hbranch : q.branch = { p with
        groups := p.groups + m
        level := ⟨[], .ofSeq (pieces p.groups) :: p.level.done⟩ } := by
      rw [branch, hq, settle_of_last hlast, grow]
      simp [hlevel]
    have hopen : q.branch.IsOpen depth ic := by
      rw [hbranch]
      exact ⟨hp.flags, hp.names, hp.depth⟩
    obtain ⟨r, level, hread', hr, hlevel'⟩ := h'.2 q.branch rest hopen
      (by rw [hbranch]; exact hlast) (by rw [hbranch])
    refine ⟨r, level, ?_, ?_, ?_⟩
    · rw [htext, hread, ← hread']
      exact readAll_step hqopen.flags (skipBlank_cons (by decide)) rfl (Nat.le_refl _)
    · rw [hr, hbranch]
      simp [Nat.add_assoc]
    · rw [hlevel', hbranch]
      simp

/-- A group is read as its body, wrapped in what its opening parenthesis stands for. -/
theorem ReadsBody.readAll_eq {text : List Char} {n depth : Nat} {alts : Nat → List Expr}
    (h : ReadsBody text n depth alts ic) {p : Progress} (opener : Opener) (before : Nat)
    (hp : p.IsOpen (depth + 1) ic)
    (hopener : opener.flagsAfter { ignoreCase := ic } = { ignoreCase := ic }) (rest : List Char) :
    readAll { p.enter opener with groups := before } (text ++ ')' :: rest) =
      readAll ({ p.settle with groups := before }.growOne n
        (opener.wrap (.ofAlt (alts before)))) rest := by
  have hopen : IsOpen { p.enter opener with groups := before } depth ic := by
    refine ⟨hp.settle.flags, hp.settle.names, ?_⟩
    have hdepth := hp.settle.depth
    simp only [enter, List.length_cons]
    omega
  obtain ⟨q, level, hread, hq, hlevel⟩ := h _ rest hopen (settle_last p) rfl
  have hflags : q.flags = { ignoreCase := ic } := by
    rw [← settle_flags, hq]
    exact hopen.flags
  -- the parenthesis returns to the level at which the group was entered
  have hstep : q.step ')' rest = .ok
      (({ p.settle with groups := before }.growOne n (opener.wrap (.ofAlt (alts before)))),
        rest) := by
    have hnames : q.settle.names = [] := by
      rw [hq]
      exact hp.settle.names
    have houter : q.settle.outer = (opener, p.settle.level) :: p.settle.outer := by
      rw [hq]
      rfl
    have hkeep : opener.flagsAfter p.settle.flags = p.settle.flags := by
      rw [hp.settle.flags, hopener]
    have hleave : q.leave = .ok
        ({ p.settle with groups := before }.growOne n (opener.wrap (.ofAlt (alts before)))) := by
      have halts : level.alternatives = alts before := hlevel
      rw [← leave_settle, leave_eq hnames houter, settle_settle, hq]
      dsimp only [enter, growOne]
      rw [hkeep, halts]
    unfold step
    rw [hleave]
    rfl
  rw [hread]
  exact readAll_step hflags (skipBlank_cons (by decide)) hstep (Nat.le_refl _)

/-- The text does not say what a parenthesis before it begins, and is no comment. -/
def Unmarked (cs : List Char) : Prop :=
  (∀ tail, cs ≠ '?' :: tail) ∧ ∀ tail, cs ≠ '(' :: '?' :: '#' :: tail

theorem unmarked_of_fresh {cs : List Char} (hcs : fresh cs = true) : Unmarked cs := by
  refine ⟨?_, ?_⟩
  · rintro tail rfl
    exact absurd rfl (fresh_ne hcs (by decide))
  · rintro tail rfl
    exact absurd hcs (by simp [fresh])

theorem skipBlank_of_unmarked {cs : List Char} (hcs : Unmarked cs) :
    skipBlank { ignoreCase := ic } cs = some cs := by
  unfold skipBlank skipBlankFrom
  split
  · exact absurd rfl (hcs.2 _)
  all_goals simp_all

theorem readOpen_capture {p : Progress} {depth : Nat} (hp : p.IsOpen (depth + 1) ic)
    {cs : List Char} (hcs : Unmarked cs) :
    p.readOpen cs =
      .ok ({ p.enter (.group (p.groups + 1)) with groups := p.groups + 1 }, cs) := by
  unfold readOpen
  rw [if_neg (by have := hp.depth; omega), hp.flags, skipBlank_of_unmarked hcs]
  dsimp only
  split
  all_goals first | rfl | exact absurd rfl (hcs.1 _)

theorem readOpen_bare {p : Progress} {depth : Nat} (hp : p.IsOpen (depth + 1) ic) (cs : List Char) :
    p.readOpen ('?' :: ':' :: cs) = .ok (p.enter (.plain { ignoreCase := ic }), cs) := by
  unfold readOpen
  rw [if_neg (by have := hp.depth; omega), hp.flags, skipBlank_cons (by decide)]
  dsimp only
  unfold readFlags
  rw [hp.flags]
  rfl

theorem readOpen_ahead {p : Progress} {depth : Nat} (hp : p.IsOpen (depth + 1) ic)
    (cs : List Char) :
    p.readOpen ('?' :: '=' :: cs) = .ok (p.enter (.look .ahead false), cs) := by
  unfold readOpen
  rw [if_neg (by have := hp.depth; omega), hp.flags, skipBlank_cons (by decide)]
  rfl

section Groups

variable {text : List Char} {n depth : Nat} {alts : Nat → List Expr}

theorem fresh_open {cs : List Char} (hcs : Unmarked cs) : fresh ('(' :: cs) = true := by
  cases cs with
  | nil => rfl
  | cons c rest =>
    unfold fresh
    split
    · next heq => exact absurd (List.cons_eq_cons.mp heq).2 (hcs.1 _)
    · next heq =>
      obtain ⟨rfl, _⟩ := List.cons_eq_cons.mp heq
      rfl
    · rfl

/-- A group that is remembered. -/
theorem ReadsBody.capture (h : ReadsBody text n depth alts ic)
    (hopens : ∀ rest, Unmarked (text ++ ')' :: rest)) :
    WritesOne ('(' :: text ++ [')']) (n + 1) (depth + 1)
      (fun g => .group (g + 1) (.ofAlt (alts (g + 1)))) ic := by
  have htext : ∀ rest, '(' :: text ++ [')'] ++ rest = '(' :: (text ++ ')' :: rest) := by simp
  refine ⟨fun rest => ?_, by simp, fun p rest hp => ?_⟩
  · rw [htext]
    exact fresh_open (hopens rest)
  · have hopen : p.step '(' (text ++ ')' :: rest) = _ := readOpen_capture hp (hopens rest)
    have hblank : skipBlank { ignoreCase := ic } _ = _ :=
      skipBlank_of_fresh (fresh_open (hopens rest))
    have hgroups : p.groups + 1 + n = p.settle.groups + (n + 1) := by
      rw [settle_groups]
      omega
    rw [htext, readAll_step hp.flags hblank hopen (Nat.le_refl _), h.readAll_eq _ _ hp rfl rest]
    dsimp only [growOne, Opener.wrap]
    rw [hgroups]

/-- A group that is not remembered. -/
theorem ReadsBody.bare (h : ReadsBody text n depth alts ic)
    (halts : ∀ g, .ofAlt (alts g) ≠ Expr.empty) :
    WritesOne ('(' :: '?' :: ':' :: text ++ [')']) n (depth + 1)
      (fun g => .ofAlt (alts g)) ic := by
  refine ⟨fun rest => rfl, halts, fun p rest hp => ?_⟩
  have htext : '(' :: '?' :: ':' :: text ++ [')'] ++ rest =
      '(' :: '?' :: ':' :: (text ++ ')' :: rest) := by simp
  have hopen : p.step '(' ('?' :: ':' :: (text ++ ')' :: rest)) = _ := readOpen_bare hp _
  have hread := h.readAll_eq (.plain { ignoreCase := ic }) p.settle.groups hp rfl rest
  rw [htext, readAll_step hp.flags rfl hopen (by simp; omega), ← settle_groups p]
  exact hread

/-- A lookahead. -/
theorem ReadsBody.ahead (h : ReadsBody text n depth alts ic) :
    WritesOne ('(' :: '?' :: '=' :: text ++ [')']) n (depth + 1)
      (fun g => .look .ahead false (.ofAlt (alts g))) ic := by
  refine ⟨fun rest => rfl, by simp, fun p rest hp => ?_⟩
  have htext : '(' :: '?' :: '=' :: text ++ [')'] ++ rest =
      '(' :: '?' :: '=' :: (text ++ ')' :: rest) := by simp
  have hopen : p.step '(' ('?' :: '=' :: (text ++ ')' :: rest)) = _ := readOpen_ahead hp _
  have hread := h.readAll_eq (.look .ahead false) p.settle.groups hp rfl rest
  rw [htext, readAll_step hp.flags rfl hopen (by simp; omega), ← settle_groups p]
  exact hread

theorem WritesBody.capture (h : WritesBody text n depth alts ic) :
    WritesOne ('(' :: text ++ [')']) (n + 1) (depth + 1)
      (fun g => .group (g + 1) (.ofAlt (alts (g + 1)))) ic :=
  h.toReads.capture fun rest => unmarked_of_fresh (h.1 rest)

theorem WritesBody.bare (h : WritesBody text n depth alts ic)
    (halts : ∀ g, .ofAlt (alts g) ≠ Expr.empty) :
    WritesOne ('(' :: '?' :: ':' :: text ++ [')']) n (depth + 1)
      (fun g => .ofAlt (alts g)) ic :=
  h.toReads.bare halts

theorem WritesBody.ahead (h : WritesBody text n depth alts ic) :
    WritesOne ('(' :: '?' :: '=' :: text ++ [')']) n (depth + 1)
      (fun g => .look .ahead false (.ofAlt (alts g))) ic :=
  h.toReads.ahead

end Groups

/-! ## Patterns -/

theorem boundsOrdered_of_steady {e : Expr} (he : e.isSteady = true) : e.boundsOrdered = true := by
  induction e with
  | empty | char c ignoreCase | any lineFeed | set s | anchor a | backref n | keepOut => rfl
  | seq a b iha ihb | alt a b iha ihb =>
    obtain ⟨ha, hb⟩ := Bool.and_eq_true _ _ ▸ he
    simp only [Expr.boundsOrdered, iha ha, ihb hb, Bool.and_true]
  | group n e ih => exact ih he
  | iter e lo hi greedy ih =>
    simp only [Expr.isSteady, Bool.and_eq_true] at he
    simp only [Expr.boundsOrdered, ih he.1.1, he.1.2, Bool.and_true]
  | look side negated e ih =>
    cases side with
    | ahead => exact ih he
    | behind => exact absurd he (by simp [Expr.isSteady])
  | atomic e => exact absurd he (by simp [Expr.isSteady])

/-- A steady expression can be carried out. -/
theorem runnable_of_steady (asked : List Nat) (last : Bool) {e : Expr} (he : e.isSteady = true) :
    runnable asked last e = .ok () := by
  have hbounds := boundsOrdered_of_steady he
  induction e generalizing last with
  | empty | char c ignoreCase | any lineFeed | set s | anchor a | backref n | keepOut =>
    unfold runnable
    split
    · rfl
    · rfl
  | seq a b iha ihb | alt a b iha ihb =>
    obtain ⟨ha, hb⟩ := Bool.and_eq_true _ _ ▸ he
    unfold runnable
    split
    · rfl
    · simp only [iha _ ha (boundsOrdered_of_steady ha), ihb _ hb (boundsOrdered_of_steady hb)]
      rfl
  | group n e ih =>
    unfold runnable
    split
    · rfl
    · exact ih _ he hbounds
  | iter e lo hi greedy ih =>
    have he : e.isSteady = true := by
      simp only [Expr.isSteady, Bool.and_eq_true] at he
      exact he.1.1
    unfold runnable
    split
    · rfl
    · exact ih _ he (boundsOrdered_of_steady he)
  | look side negated e ih =>
    cases side with
    | ahead =>
      unfold runnable
      split
      · rfl
      · exact ih _ he hbounds
    | behind => exact absurd he (by simp [Expr.isSteady])
  | atomic e => exact absurd he (by simp [Expr.isSteady])

/-- The expression looks back neither at what has been remembered nor at what has been read. -/
def Expr.isForward : Expr → Bool
  | .seq a b | .alt a b => a.isForward && b.isForward
  | .group _ e | .iter e _ _ _ | .look .ahead _ e | .atomic e => e.isForward
  | .look .behind _ _ | .backref _ => false
  | _ => true

theorem Expr.isForward_ofSeq (es : List Expr) : (ofSeq es).isForward = es.all isForward := by
  induction es with
  | nil => rfl
  | cons e es ih =>
    cases es with
    | nil => exact (Bool.and_true _).symm
    | cons a rest => exact congrArg (e.isForward && ·) ih

theorem Expr.isForward_ofAlt (es : List Expr) : (ofAlt es).isForward = es.all isForward := by
  induction es with
  | nil => rfl
  | cons e es ih =>
    cases es with
    | nil => exact (Bool.and_true _).symm
    | cons a rest => exact congrArg (e.isForward && ·) ih

theorem isForward_of_steady {e : Expr} (he : e.isSteady = true) : e.isForward = true := by
  induction e with
  | empty | char c ignoreCase | any lineFeed | set s | anchor a | keepOut => rfl
  | seq a b iha ihb | alt a b iha ihb =>
    obtain ⟨ha, hb⟩ := Bool.and_eq_true _ _ ▸ he
    rw [Expr.isForward, iha ha, ihb hb]
    rfl
  | group n e ih => exact ih he
  | iter e lo hi greedy ih =>
    simp only [Expr.isSteady, Bool.and_eq_true] at he
    exact ih he.1.1
  | look side negated e ih =>
    cases side with
    | ahead => exact ih he
    | behind => exact absurd he (by simp [Expr.isSteady])
  | backref n | atomic e => exact absurd he (by simp [Expr.isSteady])

theorem references_of_isForward {e : Expr} (he : e.isForward = true) : e.references = [] := by
  induction e with
  | empty | char c ignoreCase | any lineFeed | set s | anchor a | keepOut => rfl
  | seq a b iha ihb | alt a b iha ihb =>
    obtain ⟨ha, hb⟩ := Bool.and_eq_true _ _ ▸ he
    rw [Expr.references, iha ha, ihb hb]
    rfl
  | group n e ih | iter e lo hi greedy ih | atomic e ih => exact ih he
  | look side negated e ih =>
    cases side with
    | ahead => exact ih he
    | behind => exact absurd he (by simp [Expr.isForward])
  | backref n => exact absurd he (by simp [Expr.isForward])

/-- An expression that does not look back has no lookbehind to rewrite. -/
theorem fixWidths_of_isForward {e : Expr} (he : e.isForward = true) : fixWidths e = e := by
  induction e with
  | empty | char c ignoreCase | any lineFeed | set s | anchor a | backref n | keepOut => rfl
  | seq a b iha ihb | alt a b iha ihb =>
    obtain ⟨ha, hb⟩ := Bool.and_eq_true _ _ ▸ he
    rw [fixWidths, iha ha, ihb hb]
  | group n e ih | iter e lo hi greedy ih | atomic e ih => rw [fixWidths, ih he]
  | look side negated e ih =>
    cases side with
    | ahead => rw [fixWidths, ih he]
    | behind => exact absurd he (by simp [Expr.isForward])

/-- Text that asks for case to be ignored, or no text. -/
def caseText (ignoreCase : Bool) : List Char :=
  if ignoreCase then ['(', '?', 'i', ')'] else []

/-- The progress of a reader that has only been asked to ignore case. -/
def atCase (ignoreCase : Bool) : Progress :=
  if ignoreCase then push { flags := { ignoreCase := true } } .empty else {}

theorem readAll_case (text : List Char) :
    readAll {} (caseText ic ++ text) = readAll (atCase ic) text := by
  cases ic with
  | false => rfl
  | true =>
    have hblank : skipBlank { ignoreCase := false } ('(' :: '?' :: 'i' :: ')' :: text) = _ := rfl
    exact readAll_step rfl hblank rfl (by simp; omega)

theorem isOpen_atCase {depth : Nat} (hdepth : depth < maxDepth) : (atCase ic).IsOpen depth ic := by
  cases ic with
  | false => exact ⟨rfl, rfl, by simpa [atCase] using hdepth⟩
  | true => exact ⟨rfl, rfl, by simpa [atCase, push, settle] using hdepth⟩

/-- What a text writes without looking back is the pattern that it is by itself, perhaps after the
flag that ignores case, if all its repetitions can be carried out. -/
theorem readPattern_eq_of_writes {text : List Char} {n depth : Nat} {pieces : Nat → List Expr}
    (h : Writes text n depth pieces ic) (hdepth : depth < maxDepth)
    (hforward : (Expr.ofSeq (pieces 0)).isForward = true) :
    readPattern (caseText ic ++ text) =
      (runnable [] ((Expr.ofSeq (pieces 0)).isPlain []) (.ofSeq (pieces 0))).map
        fun _ => (.ofSeq (pieces 0), n) := by
  have hopen : (atCase ic).IsOpen depth ic := isOpen_atCase hdepth
  have hgroups : (atCase ic).groups = 0 := by cases ic <;> rfl
  have hlevel : (atCase ic).settle.level = ⟨[], []⟩ := by cases ic <;> rfl
  have houter : (atCase ic).outer = [] := by cases ic <;> rfl
  obtain ⟨q, hread, hq⟩ := h.2 _ [] hopen rfl
  have hqopen := hopen.of_settle hq
  have hall : readAll {} (caseText ic ++ text) = .ok q := by
    have hempty : readAll q [] = .ok q := by
      rw [readAll, hqopen.flags]
      rfl
    rw [List.append_nil] at hread
    rw [← hempty, ← hread, readAll_case]
  have hqouter : q.outer = [] := by
    rw [← settle_outer, hq, grow, settle_outer, houter]
  have hqgroups : q.groups = n := by
    rw [← settle_groups, hq, grow, settle_groups, hgroups, Nat.zero_add]
  have halts : q.settle.level.alternatives = [.ofSeq (pieces 0)] := by
    rw [hq, hgroups]
    simp [Level.alternatives, grow, hlevel]
  have hfinish : q.finish = .ok (.ofSeq (pieces 0)) := by
    rw [finish_eq hqopen.names, halts]
    rfl
  unfold readPattern
  rw [hall]
  simp only [bind, Except.bind, hqouter, hfinish, references_of_isForward hforward,
    fixWidths_of_isForward hforward, hqgroups]
  rfl

end MockHttp.Regex
