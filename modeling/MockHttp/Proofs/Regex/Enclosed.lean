import MockHttp.Proofs.Regex.Openings

/-!
# Text between parentheses

A text that opens and closes no group by itself, leaves no bracket expression open and refers back
to no group can be told from the outside by the text alone: `Zone.isEnclosed` follows it character
by character. Escapes and bracket expressions in such a text are read without looking past the
parenthesis that ends it: they `StaysWithin` it.

Results:
1. `Zone.Reaches.isEnclosed`: what is left of an enclosed text on the way through it is enclosed.
2. `Escape.read_staysWithin`, `Brackets.read_staysWithin`: escapes and bracket expressions.
3. `Escape.refers_of_read`: only digits and names refer to a group.
-/

namespace MockHttp.Regex

/-! ## Enclosed texts -/

/-- The text leads to the outside of bracket expressions, and on the way no parenthesis stands
outside of them without a backslash, and no backslash there refers to a group. -/
def Zone.isEnclosed (zone : Zone) : List Char → Bool
  | [] => zone == outside
  | c :: rest =>
    (match zone with
    | outside => c != '(' && c != ')'
    | outsideEscape => !c.isDigit && c != 'k'
    | _ => true) && (zone.step c).isEnclosed rest

namespace Zone

theorem isEnclosed_step {zone : Zone} {c : Char} {cs : List Char}
    (h : zone.isEnclosed (c :: cs) = true) : (zone.step c).isEnclosed cs = true :=
  (Bool.and_eq_true _ _ ▸ h : _ ∧ _).2

theorem ne_of_isEnclosed {c : Char} {cs : List Char} (h : outside.isEnclosed (c :: cs) = true) :
    c ≠ '(' ∧ c ≠ ')' := by
  rw [isEnclosed, Bool.and_eq_true] at h
  simpa using h.1

/-- The parentheses of an enclosed text are simple, having no meaning. -/
theorem simple_of_isEnclosed {zone : Zone} {cs : List Char} (h : zone.isEnclosed cs = true) :
    zone.Simple (cs ++ [')']) := by
  induction cs generalizing zone with
  | nil => exact ⟨fun _ hc => absurd hc (by decide), trivial⟩
  | cons c cs ih =>
    refine ⟨?_, ih (isEnclosed_step h)⟩
    rintro rfl rfl
    exact absurd rfl (ne_of_isEnclosed h).1

/-- What is left of an enclosed text on the way through it is enclosed. -/
theorem Reaches.isEnclosed {z z' : Zone} {cs cs' left left' : List Char}
    (h : Reaches z cs' z' left') (hcs : cs' = cs ++ [')']) (hleft : left' = left ++ [')'])
    (henclosed : z.isEnclosed cs = true) : z'.isEnclosed left = true ∧ left <:+ cs := by
  induction h generalizing cs with
  | refl zone text =>
    obtain rfl : cs = left := List.append_cancel_right (hcs.symm.trans hleft)
    exact ⟨henclosed, List.suffix_refl _⟩
  | @cons zone zone' c text after _ hrest ih =>
    cases cs with
    | nil =>
      obtain ⟨-, rfl⟩ := List.cons_eq_cons.mp hcs
      -- nothing is left behind the parenthesis
      cases hrest
      simp at hleft
    | cons d cs =>
      obtain ⟨rfl, rfl⟩ := List.cons_eq_cons.mp hcs
      obtain ⟨hnext, hsuffix⟩ := ih rfl hleft (isEnclosed_step henclosed)
      exact ⟨hnext, hsuffix.trans (List.suffix_cons _ _)⟩

end Zone

/-! ## Readers that stop at a parenthesis -/

/-- Whatever follows the parenthesis behind the text, `f` fails, or it gives the same result and
leaves the same part of the text. -/
def StaysWithin {α : Type} (f : List Char → Except SyntaxError (α × List Char))
    (cs : List Char) : Prop :=
  (∀ rest, ∃ e, f (cs ++ ')' :: rest) = .error e) ∨
    ∃ a left, ∀ rest, f (cs ++ ')' :: rest) = .ok (a, left ++ ')' :: rest)

namespace StaysWithin

variable {α β : Type} {f : List Char → Except SyntaxError (α × List Char)} {cs : List Char}

theorem bind {g : α → List Char → Except SyntaxError (β × List Char)} (hf : StaysWithin f cs)
    (hg : ∀ a left, (∀ rest, f (cs ++ ')' :: rest) = .ok (a, left ++ ')' :: rest)) →
      StaysWithin (g a) left) :
    StaysWithin (fun cs => f cs >>= fun found => g found.1 found.2) cs := by
  rcases hf with hf | ⟨a, left, hf⟩
  · refine .inl fun rest => ?_
    obtain ⟨e, he⟩ := hf rest
    exact ⟨e, by beta_reduce; rw [he]; rfl⟩
  · rcases hg a left hf with hg | ⟨b, left', hg⟩
    · refine .inl fun rest => ?_
      obtain ⟨e, he⟩ := hg rest
      exact ⟨e, by beta_reduce; rw [hf]; exact he⟩
    · exact .inr ⟨b, left', fun rest => by beta_reduce; rw [hf]; exact hg rest⟩

/-- A result that depends on nothing that is read. -/
theorem const (x : Except SyntaxError α) (cs : List Char) :
    StaysWithin (fun cs => x.map (·, cs)) cs := by
  cases x with
  | error e => exact .inl fun rest => ⟨e, rfl⟩
  | ok a => exact .inr ⟨a, cs, fun rest => rfl⟩

end StaysWithin

/-- What a test that refuses the parenthesis selects lies before it. -/
theorem takeWhile_close {test : Char → Bool} (h : test ')' = false) (cs rest : List Char) :
    (cs ++ ')' :: rest).takeWhile test = cs.takeWhile test := by
  induction cs with
  | nil => simp [h]
  | cons c cs ih => rw [List.cons_append, List.takeWhile_cons, List.takeWhile_cons, ih]

theorem dropWhile_close {test : Char → Bool} (h : test ')' = false) (cs rest : List Char) :
    (cs ++ ')' :: rest).dropWhile test = cs.dropWhile test ++ ')' :: rest := by
  induction cs with
  | nil => simp [h]
  | cons c cs ih =>
    rw [List.cons_append, List.dropWhile_cons, List.dropWhile_cons, ih]
    split
    · rfl
    · rfl

theorem readDecimal_close (cs rest : List Char) :
    readDecimal (cs ++ ')' :: rest) =
      (readDecimal cs).map fun found => (found.1, found.2 ++ ')' :: rest) := by
  unfold readDecimal
  rw [takeWhile_close (by decide), dropWhile_close (by decide)]
  split
  · rfl
  · dsimp only
    split
    · rfl
    · rfl

/-- A name ends before the parenthesis, or the parenthesis is a part of it. -/
theorem name_close {close : Char} (hclose : close ≠ ')') (cs : List Char) :
    (∃ name left, ∀ rest, (cs ++ ')' :: rest).takeWhile (· != close) = name ∧
      (cs ++ ')' :: rest).dropWhile (· != close) = close :: (left ++ ')' :: rest)) ∨
      ∀ rest, ')' ∈ (cs ++ ')' :: rest).takeWhile (· != close) := by
  induction cs with
  | nil => exact .inr fun rest => by simp [hclose.symm]
  | cons c cs ih =>
    by_cases hc : c = close
    · exact .inl ⟨[], cs, fun rest => by simp [hc]⟩
    · have htest : (c != close) = true := bne_iff_ne.mpr hc
      rcases ih with ⟨name, left, h⟩ | h
      · refine .inl ⟨c :: name, left, fun rest => ?_⟩
        rw [List.cons_append, List.takeWhile_cons, List.dropWhile_cons, htest, if_pos rfl,
          if_pos rfl, (h rest).1]
        exact ⟨rfl, (h rest).2⟩
      · refine .inr fun rest => ?_
        rw [List.cons_append, List.takeWhile_cons, htest, if_pos rfl]
        exact List.mem_cons_of_mem _ (h rest)

namespace Escape

def bracedNumber? : List Char → Option (Nat × List Char)
  | '\x7B' :: rest =>
    let body := rest.takeWhile (· != '\x7D')
    if body.isEmpty || 8 < body.length then none
    else match rest.dropWhile (· != '\x7D') with
      | _ :: after => (hexNumber? body).map (·, after)
      | [] => none
  | _ => none

def codeNumber? (digits : Nat) (cs : List Char) : Option (Nat × List Char) :=
  match hexNumber? (cs.take digits) with
  | some n => if (cs.take digits).length = digits then some (n, cs.drop digits) else none
  | none => bracedNumber? cs

theorem readCode_eq (digits : Nat) (cs : List Char) :
    readCode digits cs =
      match (codeNumber? digits cs).bind fun (n, rest) => (charOfCode? n).map (·, rest) with
      | some (c, rest) => .ok (.char c true, rest)
      | none => .error .codePoint := rfl

theorem not_mem_of_hexNumber? {digits : List Char} {n : Nat} (h : hexNumber? digits = some n) :
    ')' ∉ digits :=
  fun hclose => absurd (isBare_of_hexNumber? h _ hclose) (by decide)

theorem bracedNumber?_close (cs : List Char) :
    (∀ rest, bracedNumber? (cs ++ ')' :: rest) = none) ∨
      ∃ n left, ∀ rest, bracedNumber? (cs ++ ')' :: rest) = some (n, left ++ ')' :: rest) := by
  by_cases hbrace : ∃ body, cs = '\x7B' :: body
  · obtain ⟨body, rfl⟩ := hbrace
    simp only [List.cons_append, bracedNumber?]
    rcases name_close (by decide : '\x7D' ≠ ')') body with ⟨name, left, h⟩ | h
    · simp only [fun rest => (h rest).1, fun rest => (h rest).2]
      split
      · exact .inl fun _ => rfl
      · cases hexNumber? name with
        | none => exact .inl fun _ => rfl
        | some n => exact .inr ⟨n, left, fun _ => rfl⟩
    · refine .inl fun rest => ?_
      split
      · rfl
      · split
        · cases hnumber : hexNumber? _ with
          | none => rfl
          | some n => exact absurd (h rest) (not_mem_of_hexNumber? hnumber)
        · rfl
  · refine .inl fun rest => ?_
    unfold bracedNumber?
    split
    · next heq =>
      cases cs with
      | nil => exact absurd (List.cons_eq_cons.mp heq).1 (by decide)
      | cons c cs => exact absurd ⟨cs, by rw [(List.cons_eq_cons.mp heq).1]⟩ hbrace
    · rfl

theorem codeNumber?_close (digits : Nat) (cs : List Char) :
    (∀ rest, codeNumber? digits (cs ++ ')' :: rest) = none) ∨
      ∃ n left, ∀ rest, codeNumber? digits (cs ++ ')' :: rest) = some (n, left ++ ')' :: rest) := by
  unfold codeNumber?
  by_cases hlength : digits ≤ cs.length
  · simp only [List.take_append_of_le_length hlength, List.drop_append_of_le_length hlength]
    cases hexNumber? (cs.take digits) with
    | none => exact bracedNumber?_close cs
    | some n =>
      dsimp only
      split
      · exact .inr ⟨n, cs.drop digits, fun _ => rfl⟩
      · exact .inl fun _ => rfl
  · -- the parenthesis is one of the digits
    have hmem (rest : List Char) : ')' ∈ (cs ++ ')' :: rest).take digits := by
      obtain ⟨k, rfl⟩ := Nat.exists_eq_add_of_lt (Nat.lt_of_not_le hlength)
      rw [List.take_append, List.take_of_length_le (by omega)]
      simp [show cs.length + k + 1 - cs.length = k + 1 by omega]
    have hnone (rest : List Char) : hexNumber? ((cs ++ ')' :: rest).take digits) = none := by
      cases hnumber : hexNumber? _ with
      | none => rfl
      | some n => exact absurd (hmem rest) (not_mem_of_hexNumber? hnumber)
    simp only [hnone]
    exact bracedNumber?_close cs

theorem readCode_staysWithin (digits : Nat) (cs : List Char) :
    StaysWithin (readCode digits) cs := by
  unfold StaysWithin
  simp only [readCode_eq]
  rcases codeNumber?_close digits cs with h | ⟨n, left, h⟩
  · exact .inl fun rest => ⟨_, by rw [h]; rfl⟩
  · simp only [h, Option.bind_some]
    cases charOfCode? n with
    | none => exact .inl fun _ => ⟨_, rfl⟩
    | some c => exact .inr ⟨_, left, fun _ => rfl⟩

theorem readProperty_single (negated ignoreCase : Bool) {c : Char} (hc : c ≠ '\x7B')
    (rest : List Char) :
    readProperty negated ignoreCase (c :: rest) =
      match CharSet.ofProperty? negated ignoreCase [c] with
      | some s => .ok (.set s, rest)
      | none => .error .unknownProperty := by
  unfold readProperty
  split
  · next heq => exact absurd heq (by simp)
  · next heq => exact absurd (List.cons_eq_cons.mp heq).1 hc
  · next heq =>
    obtain ⟨rfl, rfl⟩ := List.cons_eq_cons.mp heq
    rfl

theorem readProperty_staysWithin (negated ignoreCase : Bool) (cs : List Char) :
    StaysWithin (readProperty negated ignoreCase) cs := by
  -- no property has the parenthesis in its name
  have hnone {name : List Char} (hname : ')' ∈ name) :
      CharSet.ofProperty? negated ignoreCase name = none := by
    cases hset : CharSet.ofProperty? negated ignoreCase name with
    | none => rfl
    | some s => exact absurd (CharSet.isBare_of_ofProperty? hset _ hname) (by decide)
  cases cs with
  | nil =>
    refine .inl fun rest => ⟨.unknownProperty, ?_⟩
    rw [List.nil_append, readProperty_single _ _ (by decide), hnone (by simp)]
  | cons c cs =>
    by_cases hc : c = '\x7B'
    · subst hc
      unfold StaysWithin
      simp only [List.cons_append, readProperty]
      rcases name_close (by decide : '\x7D' ≠ ')') cs with ⟨name, left, h⟩ | h
      · simp only [fun rest => (h rest).1, fun rest => (h rest).2]
        cases CharSet.ofProperty? negated ignoreCase name with
        | none => exact .inl fun _ => ⟨_, rfl⟩
        | some s => exact .inr ⟨_, left, fun _ => rfl⟩
      · refine .inl fun rest => ⟨.unknownProperty, ?_⟩
        rw [hnone (h rest)]
        split
        · rfl
        · rfl
    · unfold StaysWithin
      simp only [List.cons_append, readProperty_single _ _ hc]
      cases CharSet.ofProperty? negated ignoreCase [c] with
      | none => exact .inl fun _ => ⟨_, rfl⟩
      | some s => exact .inr ⟨_, cs, fun _ => rfl⟩

theorem readOutside_staysWithin {c : Char} (hc : c ≠ 'k') (cs : List Char) :
    (∀ rest, readOutside c (cs ++ ')' :: rest) = none) ∨
      (∀ rest, ∃ e, readOutside c (cs ++ ')' :: rest) = some (.error e)) ∨
      ∃ found, ∀ rest,
        readOutside c (cs ++ ')' :: rest) = some (.ok (found, cs ++ ')' :: rest)) := by
  have hbrace (rest : List Char) :
      (cs ++ ')' :: rest).head? = some '\x7B' ↔ cs.head? = some '\x7B' := by
    cases cs with
    | nil => simp
    | cons d cs => simp
  unfold readOutside
  split
  case h_1 => exact absurd rfl hc
  case h_4 | h_5 =>
    simp only [hbrace]
    split
    · exact .inr (.inl fun _ => ⟨_, rfl⟩)
    · exact .inr (.inr ⟨_, fun _ => rfl⟩)
  case h_10 => exact .inl fun _ => rfl
  all_goals exact .inr (.inr ⟨_, fun _ => rfl⟩)

theorem readAnywhere_staysWithin (ignoreCase : Bool) (c : Char) (cs : List Char) :
    StaysWithin (readAnywhere ignoreCase c) cs := by
  unfold StaysWithin readAnywhere
  split
  case h_9 | h_10 | h_11 => exact readCode_staysWithin _ cs
  case h_12 | h_13 => exact readProperty_staysWithin _ ignoreCase cs
  case h_14 =>
    split
    · exact .inr ⟨_, cs, fun _ => rfl⟩
    · split
      · exact .inl fun _ => ⟨_, rfl⟩
      · exact .inr ⟨_, cs, fun _ => rfl⟩
  all_goals exact .inr ⟨_, cs, fun _ => rfl⟩

/-- An escape that refers to no name stops at the parenthesis. -/
theorem read_staysWithin {inBrackets ignoreCase : Bool} {c : Char} (cs : List Char)
    (hc : inBrackets = false → c ≠ 'k') :
    StaysWithin (fun cs => read inBrackets ignoreCase (c :: cs)) cs := by
  unfold StaysWithin
  simp only [read]
  split
  · simp only [← List.cons_append, readDecimal_close]
    cases readDecimal (c :: cs) with
    | none => exact .inl fun _ => ⟨_, rfl⟩
    | some found => exact .inr ⟨_, found.2, fun _ => rfl⟩
  · cases inBrackets with
    | true => exact readAnywhere_staysWithin ignoreCase c cs
    | false =>
      simp only [Bool.false_eq_true, if_false]
      rcases readOutside_staysWithin (hc rfl) cs with h | h | ⟨found, h⟩
      · simp only [h]
        exact readAnywhere_staysWithin ignoreCase c cs
      · refine .inl fun rest => ?_
        obtain ⟨e, he⟩ := h rest
        exact ⟨e, by rw [he]⟩
      · exact .inr ⟨found, cs, fun rest => by rw [h]⟩

def refers : Escape → Bool
  | .groupNumber _ | .groupName _ => true
  | _ => false

theorem refers_of_readCode {digits : Nat} {cs after : List Char} {found : Escape}
    (h : readCode digits cs = .ok (found, after)) : found.refers = false := by
  rw [readCode_eq] at h
  split at h
  · cases h
    rfl
  · cases h

theorem refers_of_readProperty {negated ignoreCase : Bool} {cs after : List Char} {found : Escape}
    (h : readProperty negated ignoreCase cs = .ok (found, after)) : found.refers = false := by
  unfold readProperty at h
  split at h
  · cases h
  · split at h
    · split at h
      · cases h
        rfl
      · cases h
    · cases h
  · split at h
    · cases h
      rfl
    · cases h

theorem refers_of_readAnywhere {ignoreCase : Bool} {c : Char} {cs after : List Char}
    {found : Escape} (h : readAnywhere ignoreCase c cs = .ok (found, after)) :
    found.refers = false := by
  unfold readAnywhere at h
  split at h
  case h_9 | h_10 | h_11 => exact refers_of_readCode h
  case h_12 | h_13 => exact refers_of_readProperty h
  case h_14 =>
    split at h
    · cases h
      rfl
    · split at h
      · cases h
      · cases h
        rfl
  all_goals
    cases h
    rfl

theorem refers_of_readOutside {c : Char} {cs after : List Char} {found : Escape} (hname : c ≠ 'k')
    (h : readOutside c cs = some (.ok (found, after))) : found.refers = false := by
  unfold readOutside at h
  split at h
  case h_1 => exact absurd rfl hname
  case h_4 | h_5 =>
    split at h
    · cases h
    · cases h
      rfl
  case h_10 => cases h
  all_goals
    cases h
    rfl

/-- Outside of brackets an escape refers to a group by digits or by a name. -/
theorem refers_of_read {ignoreCase : Bool} {c : Char} {cs after : List Char} {found : Escape}
    (h : read false ignoreCase (c :: cs) = .ok (found, after)) (hdigit : c.isDigit = false)
    (hname : c ≠ 'k') : found.refers = false := by
  rw [read, if_neg (by simp [hdigit]), if_neg (by decide)] at h
  split at h
  · next houtside =>
    subst h
    exact refers_of_readOutside hname houtside
  · exact refers_of_readAnywhere h

end Escape

namespace Brackets

open Zone (inside outside opened openedCaret within isEnclosed_step)

def part? : Escape → Option Part
  | .char c _ => some (.literal c)
  | .set s => some (.set s)
  | .brackets s => some (.brackets s)
  | _ => none

theorem splitFrom_noPart {ignoreCase : Bool} {rest after : List Char} {found : Escape}
    (hread : Escape.read true ignoreCase rest = .ok (found, after)) (hpart : part? found = none)
    (depth : Nat) (parts : List Part) :
    splitFrom ignoreCase depth parts ('\\' :: rest) = .error .badBrackets := by
  rw [splitFrom, hread]
  cases found with
  | char c folds | set s | brackets s => cases hpart
  | anchor a | groupNumber n | groupName name | keepOut => rfl

theorem splitFrom_part {ignoreCase : Bool} {rest after : List Char} {found : Escape} {part : Part}
    (hread : Escape.read true ignoreCase rest = .ok (found, after))
    (hpart : part? found = some part) (hlength : after.length ≤ rest.length) (depth : Nat)
    (parts : List Part) :
    splitFrom ignoreCase depth parts ('\\' :: rest) =
      splitFrom ignoreCase depth (part :: parts) after := by
  rw [splitFrom, hread]
  cases found with
  | char c folds | set s | brackets s =>
    cases hpart
    exact dif_pos hlength
  | anchor a | groupNumber n | groupName name | keepOut => cases hpart

/-- What an escape inside of brackets leaves is inside of them. -/
theorem isEnclosed_of_read {ignoreCase : Bool} {c : Char} {cs left : List Char} {found : Escape}
    {part : Part} {depth : Nat}
    (hread : Escape.read true ignoreCase (c :: (cs ++ [')'])) = .ok (found, left ++ [')']))
    (hpart : part? found = some part) (hcs : (inside depth).isEnclosed cs = true) :
    (inside depth).isEnclosed left = true ∧ left <:+ cs := by
  obtain ⟨d, tail, heq, htakes⟩ := Escape.read_takes hread
  obtain ⟨rfl, rfl⟩ := List.cons_eq_cons.mp heq
  refine (Zone.Reaches.inside (htakes ?_)).isEnclosed rfl rfl hcs
  rintro name rfl
  exact absurd hpart (by simp [part?])

/-- An escape inside of brackets leaves a shorter text inside of them, or cannot be read. -/
theorem splitFrom_escape (ignoreCase : Bool) {depth : Nat} {parts : List Part} {c : Char}
    {cs : List Char} (hcs : (inside depth).isEnclosed cs = true)
    (hshorter : ∀ part left, left.length ≤ cs.length → (inside depth).isEnclosed left = true →
      StaysWithin (splitFrom ignoreCase depth (part :: parts)) left) :
    StaysWithin (splitFrom ignoreCase depth parts) ('\\' :: c :: cs) := by
  have hescape : StaysWithin (fun cs => Escape.read true ignoreCase (c :: cs)) cs :=
    Escape.read_staysWithin cs (by simp)
  unfold StaysWithin
  simp only [List.cons_append]
  rcases hescape with h | ⟨found, left, h⟩
  · refine .inl fun rest => ?_
    obtain ⟨e, he⟩ := h rest
    dsimp only at he
    exact ⟨e, by rw [splitFrom, he]⟩
  · dsimp only at h
    cases hpart : part? found with
    | none => exact .inl fun rest => ⟨_, splitFrom_noPart (h rest) hpart depth parts⟩
    | some part =>
      obtain ⟨henclosed, hsuffix⟩ := isEnclosed_of_read (h []) hpart hcs
      have hlength := hsuffix.length_le
      have hsplit (rest : List Char) := splitFrom_part (h rest) hpart (by simp; omega) depth parts
      simp only [hsplit]
      exact hshorter part left hlength henclosed

theorem splitFrom_staysWithin (ignoreCase : Bool) {depth : Nat} (parts : List Part)
    {cs : List Char} (hcs : (inside depth).isEnclosed cs = true) :
    StaysWithin (splitFrom ignoreCase depth parts) cs := by
  induction hn : cs.length using Nat.strongRecOn generalizing cs depth parts with
  | ind n ih =>
    subst hn
    cases cs with
    | nil => exact absurd hcs (by simp [Zone.isEnclosed])
    | cons c cs =>
      have hnext := isEnclosed_step hcs
      have hless : cs.length < (c :: cs).length := Nat.lt_succ_self _
      by_cases hback : c = '\\'
      · subst hback
        cases cs with
        | nil => exact absurd hnext (by simp [Zone.isEnclosed, Zone.step, within])
        | cons d cs =>
          exact splitFrom_escape ignoreCase (isEnclosed_step hnext) fun part left hle henclosed =>
            ih _ (by simp; omega) _ henclosed rfl
      unfold StaysWithin
      simp only [List.cons_append]
      by_cases hopen : c = '['
      · subst hopen
        simp only [splitFrom]
        exact ih _ hless _ hnext rfl
      by_cases hclose : c = ']'
      · subst hclose
        cases depth with
        | zero =>
          simp only [splitFrom]
          exact .inr ⟨_, cs, fun _ => rfl⟩
        | succ depth =>
          simp only [splitFrom]
          exact ih _ hless _ hnext rfl
      have hinside : (inside depth).step c = inside depth := by
        rw [Zone.step, within, if_neg hback, if_neg hopen, if_neg hclose]
      simp only [splitFrom]
      rw [hinside] at hnext
      exact ih _ hless _ hnext rfl

theorem split_caret (ignoreCase : Bool) {c : Char} (hc : c ≠ ']') (rest : List Char) :
    split ignoreCase ('^' :: c :: rest) = splitFrom ignoreCase 0 [.raw '^'] (c :: rest) := by
  unfold split
  split
  · next heq => exact absurd (List.cons_eq_cons.mp (List.cons_eq_cons.mp heq).2).1 hc
  · next heq => rw [(List.cons_eq_cons.mp heq).2]
  · next heq => exact absurd (List.cons_eq_cons.mp heq).1 (by decide)
  · next hcaret _ => exact absurd rfl (hcaret _)

theorem split_item (ignoreCase : Bool) {c : Char} (hcaret : c ≠ '^') (hclose : c ≠ ']')
    (rest : List Char) : split ignoreCase (c :: rest) = splitFrom ignoreCase 0 [] (c :: rest) := by
  unfold split
  split
  · next heq => exact absurd (List.cons_eq_cons.mp heq).1 hcaret
  · next heq => exact absurd (List.cons_eq_cons.mp heq).1 hcaret
  · next heq => exact absurd (List.cons_eq_cons.mp heq).1 hclose
  · rfl

theorem split_staysWithin (ignoreCase : Bool) {cs : List Char}
    (hcs : opened.isEnclosed cs = true) : StaysWithin (split ignoreCase) cs := by
  have hinside {zone : Zone} {c : Char} {tail : List Char}
      (hstep : zone.step c = (inside 0).step c) (h : (zone.step c).isEnclosed tail = true) :
      (inside 0).isEnclosed (c :: tail) = true := by
    rw [hstep] at h
    exact (Bool.true_and _).trans h
  cases cs with
  | nil => exact absurd hcs (by simp [Zone.isEnclosed])
  | cons c cs =>
    have hnext := isEnclosed_step hcs
    by_cases hcaret : c = '^'
    · subst hcaret
      cases cs with
      | nil => exact absurd hnext (by simp [Zone.isEnclosed, Zone.step])
      | cons d cs =>
        by_cases hclose : d = ']'
        · subst hclose
          exact splitFrom_staysWithin ignoreCase _ (isEnclosed_step hnext)
        · have hstep : openedCaret.step d = (inside 0).step d := by
            rw [Zone.step, if_neg hclose, Zone.step]
          unfold StaysWithin
          simp only [List.cons_append, split_caret ignoreCase hclose]
          exact splitFrom_staysWithin ignoreCase _ (hinside hstep (isEnclosed_step hnext))
    · by_cases hclose : c = ']'
      · subst hclose
        exact splitFrom_staysWithin ignoreCase _ hnext
      · have hstep : opened.step c = (inside 0).step c := by
          rw [Zone.step, if_neg hcaret, if_neg hclose, Zone.step]
        unfold StaysWithin
        simp only [List.cons_append, split_item ignoreCase hcaret hclose]
        exact splitFrom_staysWithin ignoreCase _ (hinside hstep hnext)

theorem read_staysWithin (ignoreCase : Bool) {cs : List Char}
    (hcs : opened.isEnclosed cs = true) : StaysWithin (Brackets.read ignoreCase) cs := by
  have hbuild (parts : List Part) (left : List Char) :
      StaysWithin (fun rest => do return (← build ignoreCase parts, rest)) left := by
    cases build ignoreCase parts with
    | error e => exact .inl fun rest => ⟨e, rfl⟩
    | ok s => exact .inr ⟨s, left, fun rest => rfl⟩
  exact (split_staysWithin ignoreCase hcs).bind fun parts left _ => hbuild parts left

end Brackets

end MockHttp.Regex
