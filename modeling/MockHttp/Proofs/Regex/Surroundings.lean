import MockHttp.Proofs.Regex.Enclosed

/-!
# A text and its surroundings

What an enclosed text means between parentheses depends on nothing around it. The reader is followed
from both sides: a step does not look past the parenthesis behind the text, and it leaves alone what
was read before the parenthesis in front of it.

Results:
1. `step_staysWithin`: one step of the reader stays within an enclosed text.
2. `step_under`: one step of the reader leaves alone what was read before the group.
3. `Passes.readsBody`, `passes_or_fails`: wherever it stands in a group, the text is read as the
   same alternatives, or it is nowhere read at all.
-/

namespace MockHttp.Regex

/-! ## Steps of the reader inside of a group -/

namespace Progress

variable {flags : Flags} {cs : List Char}

theorem unmarked_close (hcs : Zone.outside.isEnclosed cs = true) (rest : List Char) :
    ∀ tail, cs ++ ')' :: rest ≠ '(' :: tail := by
  intro tail heq
  cases cs with
  | nil => exact absurd (List.cons_eq_cons.mp heq).1 (by decide)
  | cons c cs => exact (Zone.ne_of_isEnclosed hcs).1 (List.cons_eq_cons.mp heq).1

theorem skipBlank_close (hflags : flags.ignoreSpace = false)
    (hcs : Zone.outside.isEnclosed cs = true) (rest : List Char) :
    skipBlank flags (cs ++ ')' :: rest) = some (cs ++ ')' :: rest) := by
  have hopen := unmarked_close hcs rest
  generalize cs ++ ')' :: rest = text at hopen
  unfold skipBlank skipBlankFrom
  split
  · exact absurd rfl (hopen _)
  all_goals simp_all

/-- What is left behind some digits is enclosed. -/
theorem isEnclosed_of_readDecimal {n : Nat} {left : List Char}
    (hcs : Zone.outside.isEnclosed cs = true) (h : readDecimal cs = some (n, left)) :
    Zone.outside.isEnclosed left = true := by
  obtain ⟨digits, rfl, -, hdigits⟩ := readDecimal_eq h
  have hreaches : Zone.Reaches .outside (digits ++ (left ++ [')'])) .outside (left ++ [')']) :=
    .outside ⟨digits, rfl, hdigits⟩
  exact (hreaches.isEnclosed (List.append_assoc ..).symm rfl hcs).1

/-- A brace that closes the counts of a repetition. -/
theorem brace_close (lo : Nat) (hi : Option Nat) (hcs : Zone.outside.isEnclosed cs = true) :
    (∀ rest, (match cs ++ ')' :: rest with
      | '\x7D' :: rest => some (lo, hi, rest)
      | _ => none) = none) ∨
    ∃ left, Zone.outside.isEnclosed left = true ∧ ∀ rest, (match cs ++ ')' :: rest with
      | '\x7D' :: rest => some (lo, hi, rest)
      | _ => none) = some (lo, hi, left ++ ')' :: rest) := by
  cases cs with
  | nil => exact .inl fun _ => rfl
  | cons c cs =>
    by_cases hc : c = '\x7D'
    · subst hc
      exact .inr ⟨cs, Zone.isEnclosed_step hcs, fun _ => rfl⟩
    · refine .inl fun rest => ?_
      split
      · next heq => exact absurd (List.cons_eq_cons.mp heq).1 hc
      · rfl

theorem closeCounts_close (hflags : flags.ignoreSpace = false) (lo : Nat)
    (hcs : Zone.outside.isEnclosed cs = true) :
    (∀ rest, closeCounts flags lo (cs ++ ')' :: rest) = none) ∨
      ∃ hi left, Zone.outside.isEnclosed left = true ∧
        ∀ rest, closeCounts flags lo (cs ++ ')' :: rest) = some (lo, hi, left ++ ')' :: rest) := by
  unfold closeCounts
  simp only [skipBlank_close hflags hcs, Option.bind_eq_bind, Option.bind_some]
  cases cs with
  | nil => exact .inl fun _ => rfl
  | cons c cs =>
    have hnext := Zone.isEnclosed_step hcs
    by_cases hclose : c = '\x7D'
    · subst hclose
      exact .inr ⟨some lo, cs, hnext, fun _ => rfl⟩
    · by_cases hcomma : c = ','
      · subst hcomma
        simp only [List.cons_append, skipBlank_close hflags hnext, Option.bind_some,
          readDecimal_close]
        cases hn : readDecimal cs with
        | none =>
          simp only [Option.map_none, skipBlank_close hflags hnext, Option.bind_some]
          exact (brace_close lo none hnext).imp_right fun h => ⟨none, h⟩
        | some found =>
          have hleft := isEnclosed_of_readDecimal hnext hn
          simp only [Option.map_some, skipBlank_close hflags hleft, Option.bind_some]
          exact (brace_close lo (some found.1) hleft).imp_right fun h => ⟨some found.1, h⟩
      · refine .inl fun rest => ?_
        split
        · next heq => exact absurd (List.cons_eq_cons.mp heq).1 hclose
        · next heq => exact absurd (List.cons_eq_cons.mp heq).1 hcomma
        · rfl

theorem readCounts_close (hflags : flags.ignoreSpace = false)
    (hcs : Zone.outside.isEnclosed cs = true) :
    (∀ rest, readCounts flags (cs ++ ')' :: rest) = none) ∨
      ∃ lo hi left, Zone.outside.isEnclosed left = true ∧
        ∀ rest, readCounts flags (cs ++ ')' :: rest) = some (lo, hi, left ++ ')' :: rest) := by
  have hlower : (∀ rest, lowerCount (cs ++ ')' :: rest) = none) ∨
      ∃ lo left, Zone.outside.isEnclosed left = true ∧
        ∀ rest, lowerCount (cs ++ ')' :: rest) = some (lo, left ++ ')' :: rest) := by
    by_cases hcomma : ∃ tail, cs = ',' :: tail
    · obtain ⟨tail, rfl⟩ := hcomma
      exact .inr ⟨0, ',' :: tail, hcs, fun _ => rfl⟩
    · have hdecimal (rest : List Char) :
          lowerCount (cs ++ ')' :: rest) = readDecimal (cs ++ ')' :: rest) := by
        unfold lowerCount
        split
        · next heq =>
          cases cs with
          | nil => exact absurd (List.cons_eq_cons.mp heq).1 (by decide)
          | cons c cs => exact absurd ⟨cs, by rw [(List.cons_eq_cons.mp heq).1]⟩ hcomma
        · rfl
      simp only [hdecimal, readDecimal_close]
      cases hn : readDecimal cs with
      | none => exact .inl fun _ => rfl
      | some found => exact .inr ⟨_, _, isEnclosed_of_readDecimal hcs hn, fun _ => rfl⟩
  simp only [readCounts_eq, skipBlank_close hflags hcs, Option.bind_some]
  rcases hlower with h | ⟨lo, left, hleft, h⟩
  · exact .inl fun rest => by rw [h]; rfl
  · simp only [h, Option.bind_some]
    exact (closeCounts_close hflags lo hleft).imp_right fun h => ⟨lo, h⟩

/-- Whether a repetition is marked as reluctant, and the text after the mark. -/
def reluctance (cs : List Char) : Bool × List Char :=
  match cs with
  | '?' :: rest => (true, rest)
  | _ => (false, cs)

/-- The expression, atomic if it is marked so, and the text after the mark. -/
def possession (e : Expr) (cs : List Char) : Expr × List Char :=
  match cs with
  | '+' :: rest => (.atomic e, rest)
  | _ => (e, cs)

/-- A repetition with the marks after it. -/
def repeated (flags : Flags) (e : Expr) (lo : Nat) (hi : Option Nat) (cs : List Char) :
    Expr × List Char :=
  let (reluctant, cs) := reluctance cs
  possession (.iter e lo hi (reluctant == flags.swapGreed)) cs

theorem quantify_eq (p : Progress) (lo : Nat) (hi : Option Nat) (cs : List Char) :
    p.quantify lo hi cs =
      match p.last with
      | none => .error .nothingToRepeat
      | some e =>
        if !repeatable e then .error .nothingToRepeat
        else match skipBlank p.flags cs with
          | none => .error .unclosedGroup
          | some cs =>
            let found := repeated p.flags e lo hi cs
            .ok ({ p with
              last := none
              level := { p.level with pieces := found.1 :: p.level.pieces } }, found.2) := rfl

theorem reluctance_close (cs : List Char) :
    ∃ reluctant left, ∀ rest,
      reluctance (cs ++ ')' :: rest) = (reluctant, left ++ ')' :: rest) := by
  cases cs with
  | nil => exact ⟨false, [], fun _ => rfl⟩
  | cons c cs =>
    by_cases hc : c = '?'
    · subst hc
      exact ⟨true, cs, fun _ => rfl⟩
    · refine ⟨false, c :: cs, fun rest => ?_⟩
      unfold reluctance
      split
      · next heq => exact absurd (List.cons_eq_cons.mp heq).1 hc
      · rfl

theorem possession_close (e : Expr) (cs : List Char) :
    ∃ e' left, ∀ rest, possession e (cs ++ ')' :: rest) = (e', left ++ ')' :: rest) := by
  cases cs with
  | nil => exact ⟨e, [], fun _ => rfl⟩
  | cons c cs =>
    by_cases hc : c = '+'
    · subst hc
      exact ⟨_, cs, fun _ => rfl⟩
    · refine ⟨e, c :: cs, fun rest => ?_⟩
      unfold possession
      split
      · next heq => exact absurd (List.cons_eq_cons.mp heq).1 hc
      · rfl

theorem repeated_close (flags : Flags) (e : Expr) (lo : Nat) (hi : Option Nat) (cs : List Char) :
    ∃ e' left, ∀ rest, repeated flags e lo hi (cs ++ ')' :: rest) = (e', left ++ ')' :: rest) := by
  obtain ⟨reluctant, left, h⟩ := reluctance_close cs
  obtain ⟨e', left', h'⟩ := possession_close (.iter e lo hi (reluctant == flags.swapGreed)) left
  exact ⟨e', left', fun rest => by rw [repeated, h]; exact h' rest⟩

theorem quantify_staysWithin {p : Progress} (hp : p.flags.ignoreSpace = false) (lo : Nat)
    (hi : Option Nat) (hcs : Zone.outside.isEnclosed cs = true) :
    StaysWithin (p.quantify lo hi) cs := by
  unfold StaysWithin
  simp only [quantify_eq]
  cases p.last with
  | none => exact .inl fun _ => ⟨_, rfl⟩
  | some e =>
    dsimp only
    split
    · exact .inl fun _ => ⟨_, rfl⟩
    · obtain ⟨e', left, h⟩ := repeated_close p.flags e lo hi cs
      simp only [skipBlank_close hp hcs, h]
      exact .inr ⟨_, left, fun _ => rfl⟩

def escaped (p : Progress) : Escape → Except SyntaxError Progress
  | .char c folds => .ok (p.push (.char c (folds && p.flags.ignoreCase)))
  | .set s | .brackets s => .ok (p.push (.set s))
  | .anchor a => .ok (p.push (.anchor a))
  | .keepOut => .ok (p.push .keepOut)
  | .groupNumber n => { p with numbered := true }.refer n
  | .groupName name => p.referByName name

theorem readEscape_eq (p : Progress) (cs : List Char) :
    p.readEscape cs = Escape.read false p.flags.ignoreCase cs >>= fun found =>
      (p.escaped found.1).map (·, found.2) := by
  unfold readEscape
  refine bind_congr fun found => ?_
  obtain ⟨found, rest⟩ := found
  cases found with
  | groupNumber n =>
    cases hrefer : { p with numbered := true }.refer n <;> simp [escaped, hrefer] <;> rfl
  | groupName name => cases hrefer : p.referByName name <;> simp [escaped, hrefer] <;> rfl
  | char c folds | set s | brackets s | anchor a | keepOut => rfl

theorem readEscape_staysWithin (p : Progress) {c : Char} (hc : c ≠ 'k') (cs : List Char) :
    StaysWithin (fun cs => p.readEscape (c :: cs)) cs := by
  simp only [readEscape_eq]
  exact (Escape.read_staysWithin cs fun _ => hc).bind fun found left _ => .const _ left

theorem step_staysWithin {p : Progress} (hp : p.flags.ignoreSpace = false) {c : Char}
    (hcs : Zone.outside.isEnclosed (c :: cs) = true) : StaysWithin (p.step c) cs := by
  obtain ⟨hopen, hclose⟩ := Zone.ne_of_isEnclosed hcs
  have hnext := Zone.isEnclosed_step hcs
  unfold step
  split
  case h_5 => exact absurd rfl hopen
  case h_6 => exact absurd rfl hclose
  case h_7 =>
    cases cs with
    | nil => exact absurd hnext (by simp [Zone.isEnclosed, Zone.step])
    | cons d cs =>
      have hescaped : d ≠ 'k' := by
        rw [Zone.step, if_pos rfl, Zone.isEnclosed] at hnext
        simp only [Bool.and_eq_true, bne_iff_ne] at hnext
        exact hnext.1.2
      exact readEscape_staysWithin p hescaped cs
  case h_8 =>
    have hbrackets : Zone.opened.isEnclosed cs = true := hnext
    have hpush (s : CharSet) (left : List Char) :
        StaysWithin (fun rest => .ok (p.push (.set s), rest)) left := .inr ⟨_, left, fun _ => rfl⟩
    exact (Brackets.read_staysWithin p.flags.ignoreCase hbrackets).bind fun s left _ => hpush s left
  case h_9 | h_10 | h_11 => exact quantify_staysWithin hp _ _ hnext
  case h_12 =>
    cases p.last with
    | none => exact .inr ⟨_, cs, fun _ => rfl⟩
    | some e =>
      unfold StaysWithin
      rcases readCounts_close hp hnext with h | ⟨lo, hi, left, hleft, h⟩
      · simp only [h]
        exact .inr ⟨_, cs, fun _ => rfl⟩
      · simp only [h]
        exact quantify_staysWithin hp lo hi hleft
  all_goals exact .inr ⟨_, cs, fun _ => rfl⟩

/-- What a step leaves of an enclosed text is enclosed. -/
theorem isEnclosed_of_step {p q : Progress} (hp : p.Calm) {c : Char} {left : List Char}
    (hcs : Zone.outside.isEnclosed (c :: cs) = true)
    (h : p.step c (cs ++ [')']) = .ok (q, left ++ [')'])) :
    Zone.outside.isEnclosed left = true :=
  have hreaches := step_reaches hp (Zone.simple_of_isEnclosed hcs) (Zone.ne_of_isEnclosed hcs).1 h
  (hreaches.isEnclosed rfl rfl hcs).1

/-! ## Steps leave alone what is around them -/

/-- The progress `p` with what has been read after it: the pieces and the alternatives of `q`, and
before these the alternatives of `p`. -/
def under (q p : Progress) : Progress :=
  { p with level := ⟨q.level.pieces, q.level.done ++ p.level.done⟩, last := q.last }

section Under

variable {p q : Progress}

theorem settle_under : (q.under p).settle = q.settle.under p := by
  unfold settle under
  dsimp only
  split
  · rfl
  · rfl
  · rfl

theorem push_under (e : Expr) : (q.under p).push e = (q.push e).under p := by
  rw [push, settle_under]
  rfl

theorem branch_under : (q.under p).branch = q.branch.under p := by
  rw [branch, settle_under]
  rfl

theorem quantify_under (hflags : q.flags = p.flags) (lo : Nat) (hi : Option Nat) (cs : List Char) :
    (q.under p).quantify lo hi cs =
      (q.quantify lo hi cs).map fun found => (found.1.under p, found.2) := by
  have hunder : (q.under p).flags = p.flags := rfl
  have hlast : (q.under p).last = q.last := rfl
  simp only [quantify_eq, hflags, hunder, hlast]
  cases q.last with
  | none => rfl
  | some e =>
    dsimp only
    split
    · rfl
    · cases skipBlank p.flags cs with
      | none => rfl
      | some cs => rfl

theorem escaped_under (hflags : q.flags = p.flags) {found : Escape}
    (hfound : found.refers = false) :
    (q.under p).escaped found = (q.escaped found).map (·.under p) := by
  have hunder : (q.under p).flags = q.flags := hflags.symm
  cases found with
  | groupNumber n | groupName name => cases hfound
  | char c folds =>
    rw [escaped, push_under, hunder]
    rfl
  | set s | brackets s | anchor a | keepOut =>
    rw [escaped, push_under]
    rfl

theorem readEscape_under (hflags : q.flags = p.flags) {c : Char} (hdigit : c.isDigit = false)
    (hname : c ≠ 'k') (cs : List Char) :
    (q.under p).readEscape (c :: cs) =
      (q.readEscape (c :: cs)).map fun found => (found.1.under p, found.2) := by
  have hunder : (q.under p).flags = q.flags := hflags.symm
  rw [readEscape_eq, readEscape_eq, hunder]
  cases hread : Escape.read false q.flags.ignoreCase (c :: cs) with
  | error e => rfl
  | ok found =>
    have hrefers := Escape.refers_of_read hread hdigit hname
    show ((q.under p).escaped found.1).map (·, found.2) =
      ((q.escaped found.1).map (·, found.2)).map fun found => (found.1.under p, found.2)
    rw [escaped_under hflags hrefers]
    cases q.escaped found.1 with
    | error e => rfl
    | ok q' => rfl

/-- One step of the reader leaves alone what was read before the group. -/
theorem step_under (hflags : q.flags = p.flags) {c : Char} {rest : List Char}
    (hopen : c ≠ '(') (hclose : c ≠ ')')
    (hescape : c = '\\' → ∃ d tail, rest = d :: tail ∧ d.isDigit = false ∧ d ≠ 'k') :
    (q.under p).step c rest = (q.step c rest).map fun found => (found.1.under p, found.2) := by
  have hunder : (q.under p).flags = p.flags := rfl
  have hlast : (q.under p).last = q.last := rfl
  unfold step
  split
  case h_4 =>
    rw [branch_under]
    rfl
  case h_5 => exact absurd rfl hopen
  case h_6 => exact absurd rfl hclose
  case h_7 =>
    obtain ⟨d, tail, rfl, hdigit, hname⟩ := hescape rfl
    exact readEscape_under hflags hdigit hname tail
  case h_8 =>
    rw [hunder, ← hflags]
    cases Brackets.read q.flags.ignoreCase rest with
    | error e => rfl
    | ok found =>
      show Except.ok ((q.under p).push (.set found.1), found.2) = _
      rw [push_under]
      rfl
  case h_9 | h_10 | h_11 => exact quantify_under hflags _ _ rest
  case h_12 =>
    rw [hunder, hlast, ← hflags]
    cases q.last with
    | none =>
      show Except.ok ((q.under p).push _, rest) = _
      rw [push_under]
      rfl
    | some e =>
      cases readCounts q.flags rest with
      | none =>
        show Except.ok ((q.under p).push _, rest) = _
        rw [push_under]
        rfl
      | some counts => exact quantify_under hflags _ _ _
  all_goals
    rw [push_under, hunder, ← hflags]
    rfl

end Under

/-! ## The way through an enclosed text -/

/-- The reader gets from one progress to another one with an enclosed text, whatever follows the
parenthesis behind it. -/
inductive Passes : Progress → List Char → Progress → Prop where
  | done (p : Progress) : Passes p [] p
  | step {p q r : Progress} {c : Char} {cs left : List Char}
      (hcs : Zone.outside.isEnclosed (c :: cs) = true)
      (hstep : ∀ rest, p.step c (cs ++ ')' :: rest) = .ok (q, left ++ ')' :: rest))
      (hlength : left.length ≤ cs.length) (hleft : Passes q left r) : Passes p (c :: cs) r

/-- A backslash in an enclosed text is followed by a character that refers to no group. -/
theorem escape_of_isEnclosed {c : Char} (hcs : Zone.outside.isEnclosed (c :: cs) = true)
    (rest : List Char) (hc : c = '\\') :
    ∃ d tail, cs ++ ')' :: rest = d :: tail ∧ d.isDigit = false ∧ d ≠ 'k' := by
  subst hc
  have hnext := Zone.isEnclosed_step hcs
  rw [Zone.step, if_pos rfl] at hnext
  cases cs with
  | nil => exact absurd hnext (by simp [Zone.isEnclosed])
  | cons d cs =>
    simp only [Zone.isEnclosed, Bool.and_eq_true, bne_iff_ne, Bool.not_eq_eq_eq_not,
      Bool.not_true] at hnext
    exact ⟨d, cs ++ ')' :: rest, rfl, hnext.1.1, hnext.1.2⟩

/-- A step with an enclosed text changes neither the flags nor what is around the group. -/
theorem flags_of_step {p q : Progress} {c : Char} {left rest : List Char}
    (hcs : Zone.outside.isEnclosed (c :: cs) = true)
    (h : p.step c (cs ++ ')' :: rest) = .ok (q, left)) : q.flags = p.flags := by
  obtain ⟨hopen, hclose⟩ := Zone.ne_of_isEnclosed hcs
  -- the progress is its own level under everything else
  have hself : p.under { p with level := ⟨[], []⟩ } = p := by
    rw [under, List.append_nil]
  have hstep := step_under (q := p) (p := { p with level := ⟨[], []⟩ }) rfl hopen hclose
    (escape_of_isEnclosed hcs rest)
  rw [hself, h] at hstep
  exact (congrArg flags (Prod.mk.inj (Except.ok.inj hstep)).1).trans rfl

variable {ic : Bool}

theorem Passes.readAll_eq {p q r : Progress} {cs : List Char} (h : Passes q cs r)
    (hq : q.flags = { ignoreCase := ic }) (hp : p.flags = { ignoreCase := ic })
    (rest : List Char) :
    readAll (q.under p) (cs ++ ')' :: rest) = readAll (r.under p) (')' :: rest) := by
  induction h with
  | done => rfl
  | @step q q' r c cs left hcs hstep hlength _ ih =>
    obtain ⟨hopen, hclose⟩ := Zone.ne_of_isEnclosed hcs
    have hunder := step_under (hq.trans hp.symm) hopen hclose (escape_of_isEnclosed hcs rest)
    rw [hstep] at hunder
    have hlength : (left ++ ')' :: rest).length ≤ (cs ++ ')' :: rest).length := by
      simpa using hlength
    rw [← ih ((flags_of_step hcs (hstep rest)).trans hq)]
    exact readAll_step hp (skipBlank_cons hopen) hunder hlength

/-- The next character of an enclosed text is read in the same way wherever the text stands in a
group. -/
theorem readAll_under {q p : Progress} {c : Char} (hq : q.flags = { ignoreCase := ic })
    (hp : p.flags = { ignoreCase := ic }) (hcs : Zone.outside.isEnclosed (c :: cs) = true)
    (rest : List Char) :
    readAll (q.under p) (c :: cs ++ ')' :: rest) =
      match q.step c (cs ++ ')' :: rest) with
      | .error e => .error e
      | .ok (r, left) =>
        if left.length < (c :: cs ++ ')' :: rest).length then readAll (r.under p) left
        else .error .unclosedGroup := by
  obtain ⟨hopen, hclose⟩ := Zone.ne_of_isEnclosed hcs
  have hunder : (q.under p).flags = { ignoreCase := ic } := hp
  rw [readAll, hunder, List.cons_append, skipBlank_cons hopen]
  dsimp only
  rw [step_under (hq.trans hp.symm) hopen hclose (escape_of_isEnclosed hcs rest)]
  cases q.step c (cs ++ ')' :: rest) with
  | error e => rfl
  | ok found => rfl

/-- An enclosed text is read in the same way wherever it stands in a group, or nowhere. -/
theorem passes_or_fails {q : Progress} (hq : q.flags = { ignoreCase := ic }) (hcalm : q.Calm)
    (hcs : Zone.outside.isEnclosed cs = true) :
    (∃ r, Passes q cs r) ∨ ∀ p rest, p.flags = { ignoreCase := ic } →
      ∃ e, readAll (q.under p) (cs ++ ')' :: rest) = .error e := by
  induction hn : cs.length using Nat.strongRecOn generalizing cs q with
  | ind n ih =>
    subst hn
    cases cs with
    | nil => exact .inl ⟨q, .done q⟩
    | cons c cs =>
      obtain ⟨hopen, -⟩ := Zone.ne_of_isEnclosed hcs
      have hread {p : Progress} {rest : List Char} (hp : p.flags = { ignoreCase := ic }) :=
        readAll_under hq hp hcs rest
      rcases step_staysWithin hcalm.flags hcs with h | ⟨r, left, h⟩
      · refine .inr fun p rest hp => ?_
        obtain ⟨e, he⟩ := h rest
        exact ⟨e, by rw [hread hp, he]⟩
      · have hleft := isEnclosed_of_step hcalm hcs (h [])
        by_cases hlength : left.length ≤ cs.length
        · have hr := (flags_of_step hcs (h [])).trans hq
          have hrcalm := (Stays.step hopen (h [])).calm hcalm
          rcases ih _ (Nat.lt_succ_of_le hlength) hr hrcalm hleft rfl with ⟨r', hpasses⟩ | hfails
          · exact .inl ⟨r', .step hcs h hlength hpasses⟩
          · refine .inr fun p rest hp => ?_
            obtain ⟨e, he⟩ := hfails p rest hp
            refine ⟨e, ?_⟩
            rw [hread hp, h]
            dsimp only
            rw [if_pos (by simp; omega), he]
        · refine .inr fun p rest hp => ⟨.unclosedGroup, ?_⟩
          rw [hread hp, h]
          exact if_neg (by simp; omega)

/-- The progress of a reader that has read nothing. -/
def beginning (ignoreCase : Bool) : Progress := { flags := { ignoreCase := ignoreCase } }

theorem beginning_under {p : Progress} (hlast : p.last = none) (hpieces : p.level.pieces = []) :
    (beginning ic).under p = p := by
  obtain ⟨flags, groups, names, numbered, outer, ⟨pieces, done⟩, last⟩ := p
  cases hlast
  cases hpieces
  rfl

/-- Where an enclosed text that can be read stands in a group, it is read as the alternatives that
it is read as by itself. -/
theorem Passes.readsBody {q : Progress} (h : Passes (beginning ic) cs q) :
    ReadsBody cs 0 0 (fun _ => q.settle.level.alternatives) ic := by
  intro p rest hp hlast hpieces
  refine ⟨q.under p, ⟨q.settle.level.pieces, q.settle.level.done ++ p.level.done⟩, ?_, ?_, ?_⟩
  · rw [← h.readAll_eq rfl hp.flags, beginning_under hlast hpieces]
  · rw [settle_under, under, settle_last, ← hlast]
    rfl
  · simp [Level.alternatives]

theorem readsBody_or_fails (ic : Bool) (hcs : Zone.outside.isEnclosed cs = true) :
    (∃ q, Passes (beginning ic) cs q) ∨ ∀ p rest, p.flags = { ignoreCase := ic } →
      p.last = none → p.level.pieces = [] → ∃ e, readAll p (cs ++ ')' :: rest) = .error e := by
  refine (passes_or_fails (q := beginning ic) rfl ⟨rfl, by simp [beginning], by simp [beginning]⟩
    hcs).imp_right fun h p rest hp hlast hpieces => ?_
  rw [← beginning_under hlast hpieces]
  exact h p rest hp

/-! ## What an enclosed text writes -/

theorem ofSeq_ne_empty {es : List Expr} (hes : es ≠ []) (h : ∀ e ∈ es, e ≠ .empty) :
    Expr.ofSeq es ≠ .empty := by
  cases es with
  | nil => exact absurd rfl hes
  | cons e es =>
    cases es with
    | nil => exact h e List.mem_cons_self
    | cons a es => exact fun heq => nomatch heq

theorem ofAlt_ne_empty {es : List Expr} (h : 1 < es.length) : Expr.ofAlt es ≠ .empty := by
  match es with
  | e :: a :: es => exact fun heq => nomatch heq

/-- The expression says something, and does not look back. -/
def Says (e : Expr) : Prop := e ≠ .empty ∧ e.isForward = true

/-- Everything that has been read of a group says something, and does not look back. -/
structure Sound (p : Progress) : Prop where
  pieces : ∀ e ∈ p.level.pieces, Says e
  last : ∀ e, p.last = some e → Says e
  done : ∀ e ∈ p.level.done, e.isForward = true

/-- Something has been read of a group. -/
def Begun (p : Progress) : Prop :=
  p.last ≠ none ∨ p.level.pieces ≠ [] ∨ p.level.done ≠ []

namespace Sound

variable {p : Progress}

theorem settle (hp : p.Sound) : p.settle.Sound := by
  unfold Progress.settle
  split
  · exact hp
  · exact ⟨hp.pieces, by simp, hp.done⟩
  · next e _ hlast =>
    exact ⟨List.forall_mem_cons.mpr ⟨hp.last e hlast, hp.pieces⟩, by simp, hp.done⟩

theorem push (hp : p.Sound) {e : Expr} (he : Says e) : (p.push e).Sound :=
  ⟨hp.settle.pieces, fun _ h => Option.some.inj h ▸ he, hp.settle.done⟩

theorem isForward_pieces (hp : p.Sound) :
    (Expr.ofSeq p.level.pieces.reverse).isForward = true := by
  rw [Expr.isForward_ofSeq, List.all_reverse, List.all_eq_true]
  exact fun e he => (hp.pieces e he).2

theorem branch (hp : p.Sound) : p.branch.Sound :=
  ⟨by simp [Progress.branch], fun e he => absurd (he.symm.trans (settle_last p)) (by simp),
    List.forall_mem_cons.mpr ⟨hp.settle.isForward_pieces, hp.settle.done⟩⟩

theorem quantify (hp : p.Sound) {q : Progress} {lo : Nat} {hi : Option Nat} {cs left : List Char}
    (h : p.quantify lo hi cs = .ok (q, left)) : q.Sound ∧ q.Begun := by
  rw [quantify_eq] at h
  cases hlast : p.last with
  | none => simp [hlast] at h
  | some e =>
    have he := hp.last e hlast
    simp only [hlast] at h
    split at h
    · cases h
    · split at h
      · cases h
      · next text _ =>
        have hsound : Says (repeated p.flags e lo hi text).1 := by
          unfold repeated possession
          dsimp only
          split
          · exact ⟨by simp, he.2⟩
          · exact ⟨by simp, he.2⟩
        cases h
        exact ⟨⟨List.forall_mem_cons.mpr ⟨hsound, hp.pieces⟩, by simp, hp.done⟩,
          .inr (.inl (by simp))⟩

end Sound

theorem begun_push (p : Progress) (e : Expr) : (p.push e).Begun := .inl (by simp [push])

/-- A step with an enclosed text reads something that does not look back. -/
theorem Sound.step {p q : Progress} (hp : p.Sound) {c : Char} {left rest : List Char}
    (hcs : Zone.outside.isEnclosed (c :: cs) = true)
    (h : p.step c (cs ++ ')' :: rest) = .ok (q, left)) : q.Sound ∧ q.Begun := by
  obtain ⟨hopen, hclose⟩ := Zone.ne_of_isEnclosed hcs
  have hpush (e : Expr) (he : Says e) : (p.push e).Sound ∧ (p.push e).Begun :=
    ⟨hp.push he, begun_push p e⟩
  have hescape := escape_of_isEnclosed hcs rest
  unfold Progress.step at h
  split at h
  case h_4 =>
    cases h
    exact ⟨hp.branch, .inr (.inr (List.cons_ne_nil _ _))⟩
  case h_5 => exact absurd rfl hopen
  case h_6 => exact absurd rfl hclose
  case h_7 =>
    obtain ⟨d, tail, htext, hdigit, hname⟩ := hescape rfl
    rw [htext, readEscape_eq] at h
    obtain ⟨⟨found, after⟩, hread, h⟩ := bind_eq_ok h
    have hrefers := Escape.refers_of_read hread hdigit hname
    cases found with
    | groupNumber n | groupName name => cases hrefers
    | char c folds | set s | brackets s | anchor a | keepOut =>
      cases h
      exact hpush _ ⟨by simp, rfl⟩
  case h_8 =>
    obtain ⟨found, -, h⟩ := bind_eq_ok h
    cases h
    exact hpush _ ⟨by simp, rfl⟩
  case h_9 | h_10 | h_11 => exact hp.quantify h
  case h_12 =>
    split at h
    · exact hp.quantify h
    · cases h
      exact hpush _ ⟨by simp, rfl⟩
  all_goals
    cases h
    exact hpush _ ⟨by simp, rfl⟩

theorem Passes.sound {p r : Progress} (h : Passes p cs r) (hp : p.Sound) : r.Sound := by
  induction h with
  | done => exact hp
  | step hcs hstep _ _ ih => exact ih (hp.step hcs (hstep [])).1

theorem Passes.begun {p r : Progress} (h : Passes p cs r) (hp : p.Sound) (hcs : cs ≠ []) :
    r.Begun := by
  induction h with
  | done => exact absurd rfl hcs
  | @step p q r c cs left henclosed hstep _ hleft ih =>
    obtain ⟨hq, hbegun⟩ := hp.step henclosed (hstep [])
    cases hleft with
    | done => exact hbegun
    | step => exact ih hq (by simp)

/-- The expression of an enclosed text does not look back. -/
theorem Passes.isForward {q : Progress} (h : Passes (beginning ic) cs q) :
    (Expr.ofAlt q.settle.level.alternatives).isForward = true := by
  have hq := (h.sound ⟨by simp [beginning], by simp [beginning], by simp [beginning]⟩).settle
  rw [Expr.isForward_ofAlt, Level.alternatives, List.all_reverse, List.all_cons,
    hq.isForward_pieces, List.all_eq_true.mpr hq.done]
  rfl

/-- The expression of an enclosed text that is not empty says something. -/
theorem Passes.ne_empty {q : Progress} (h : Passes (beginning ic) cs q) (hcs : cs ≠ []) :
    Expr.ofAlt q.settle.level.alternatives ≠ .empty := by
  have hbeginning : (beginning ic).Sound :=
    ⟨by simp [beginning], by simp [beginning], by simp [beginning]⟩
  have hsound := h.sound hbeginning
  have hbegun : q.settle.level.pieces ≠ [] ∨ q.settle.level.done ≠ [] := by
    unfold settle
    split
    · next hlast => exact (h.begun hbeginning hcs).resolve_left (absurd hlast ·)
    · next hlast => exact absurd rfl (hsound.last _ hlast).1
    · exact .inl (by simp)
  have hpieces := hsound.settle.pieces
  rw [Level.alternatives, List.reverse_cons]
  rcases hbegun with hbegun | hbegun
  · cases hdone : q.settle.level.done with
    | nil =>
      refine ofSeq_ne_empty (by simpa using hbegun) fun e he => ?_
      exact (hpieces e (List.mem_reverse.mp he)).1
    | cons e es => exact ofAlt_ne_empty (by simp)
  · refine ofAlt_ne_empty ?_
    have := List.length_pos_iff.mpr hbegun
    simp
    omega

end Progress

end MockHttp.Regex
