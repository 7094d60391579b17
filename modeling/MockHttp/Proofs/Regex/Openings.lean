import MockHttp.Proofs.Regex.Writing
import MockHttp.Proofs.Regex.Zones

/-!
# Where groups open

`Regex.openings` lists the parentheses at which the reader opens the remembered groups, in the order
of their numbers: each as the text that follows it. `Zone.openings` finds them without reading the
pattern, by what follows a parenthesis outside of brackets. The two agree on patterns whose
parentheses are `Simple`, which excludes comments and the flag that skips blanks.

Results:
1. `groups_eq`: the number of groups is the number of openings.
2. `remembers_of_mem_openings`: the text after an opening is one that opens a group.
3. `openings_eq`: in a simple pattern the reader opens the groups that the brackets leave open.
-/

namespace MockHttp.Regex

namespace Progress

/-- The texts after the parentheses at which the reader opens a remembered group. -/
def openings (p : Progress) (cs : List Char) : List (List Char) :=
  match skipBlank p.flags cs with
  | some (c :: rest) =>
    match p.step c rest with
    | .ok (q, after) =>
      if _h : after.length < cs.length then
        if p.groups < q.groups then rest :: q.openings after else q.openings after
      else []
    | .error _ => []
  | _ => []
termination_by cs.length

end Progress

namespace Progress

/-! ## What stays -/

/-- Blanks are not skipped, here or after any open group, and names are ordinary text. -/
structure Calm (p : Progress) : Prop where
  flags : p.flags.ignoreSpace = false
  outer : ∀ entry ∈ p.outer, ∀ before, entry.1 = .plain before → before.ignoreSpace = false
  names : ∀ entry ∈ p.names, ∀ c ∈ entry.1, isOrdinary c = true

/-- No remembered group is opened and nothing becomes uneasy. -/
structure Stays (p q : Progress) : Prop where
  groups : q.groups = p.groups
  calm : p.Calm → q.Calm

theorem Stays.settle (p : Progress) : p.Stays p.settle where
  groups := settle_groups p
  calm hp := ⟨by rw [settle_flags]; exact hp.flags, by rw [settle_outer]; exact hp.outer,
    by rw [settle_names]; exact hp.names⟩

theorem Stays.push (p : Progress) (e : Expr) : p.Stays (p.push e) where
  groups := settle_groups p
  calm hp := ⟨((settle p).calm hp).flags, ((settle p).calm hp).outer, ((settle p).calm hp).names⟩

theorem Stays.branch (p : Progress) : p.Stays p.branch where
  groups := settle_groups p
  calm hp := ⟨((settle p).calm hp).flags, ((settle p).calm hp).outer, ((settle p).calm hp).names⟩

theorem Stays.enter (p : Progress) (opener : Opener)
    (hopener : ∀ before, opener = .plain before → before.ignoreSpace = false) :
    p.Stays (p.enter opener) where
  groups := settle_groups p
  calm hp := by
    refine ⟨((settle p).calm hp).flags, ?_, ((settle p).calm hp).names⟩
    intro entry hentry
    rcases List.mem_cons.mp hentry with rfl | hentry
    · exact hopener
    · exact ((settle p).calm hp).outer entry hentry

theorem Stays.leave {p q : Progress} (h : p.leave = .ok q) : p.Stays q := by
  unfold Progress.leave at h
  split at h
  · cases h
  · next opener around outer houter =>
    obtain ⟨e, -, h⟩ := bind_eq_ok h
    have hrest : ∀ entry ∈ outer, entry ∈ p.outer := fun entry hentry => by
      rw [houter]
      exact List.mem_cons_of_mem _ hentry
    cases opener with
    | plain before =>
      cases h
      refine ⟨rfl, fun hp => ⟨?_, fun entry hentry => hp.outer entry (hrest entry hentry),
        hp.names⟩⟩
      exact hp.outer (.plain before, around) (by rw [houter]; exact List.mem_cons_self) before rfl
    | group n | look side negated | atomic =>
      cases h
      exact ⟨rfl, fun hp => ⟨hp.flags, fun entry hentry => hp.outer entry (hrest entry hentry),
        hp.names⟩⟩

theorem Stays.quantify {p q : Progress} {lo : Nat} {hi : Option Nat} {cs after : List Char}
    (h : p.quantify lo hi cs = .ok (q, after)) : p.Stays q := by
  unfold Progress.quantify at h
  split at h
  · cases h
  · split at h
    · cases h
    · split at h
      · cases h
      · cases h
        exact ⟨rfl, fun hp => ⟨hp.flags, hp.outer, hp.names⟩⟩

theorem Stays.refer {p q : Progress} {n : Nat} (h : p.refer n = .ok q) : p.Stays q := by
  unfold Progress.refer at h
  split at h
  · cases h
    exact .push p _
  · cases h

theorem Stays.referByName {p q : Progress} {name : List Char}
    (h : p.referByName name = .ok q) : p.Stays q := by
  unfold Progress.referByName at h
  split at h
  · exact .refer h
  · split at h
    · split at h
      · split at h
        · cases h
        · exact .refer h
      · cases h
    · split at h
      · exact .refer h
      · cases h

theorem Stays.readEscape {p q : Progress} {cs after : List Char}
    (h : p.readEscape cs = .ok (q, after)) : p.Stays q := by
  obtain ⟨⟨found, rest⟩, -, h⟩ := bind_eq_ok h
  cases found with
  | groupNumber n =>
    obtain ⟨q', hrefer, h⟩ := bind_eq_ok h
    cases h
    have hstays := Stays.refer hrefer
    exact ⟨hstays.groups, fun hp => hstays.calm ⟨hp.flags, hp.outer, hp.names⟩⟩
  | groupName name =>
    obtain ⟨q', hrefer, h⟩ := bind_eq_ok h
    cases h
    exact .referByName hrefer
  | char c folds | set s | brackets s | anchor a | keepOut =>
    cases h
    exact .push p _

/-! ## What a parenthesis opens -/

theorem readFlags_groups {p q : Progress} {before : Flags} {value : Bool} {count : Nat}
    {cs after : List Char} (h : p.readFlags before value count cs = .ok (q, after)) :
    q.groups = p.groups := by
  fun_induction readFlags p before value count cs with
  | case1 | case4 | case5 | case7 | case10 => cases h
  | case2 p value count c rest blank _ ih => exact ih h
  | case3 p count rest blank _ ih => exact ih h
  | case6 p value count rest =>
    cases h
    exact settle_groups p
  | case8 p value count rest =>
    cases h
    exact settle_groups p
  | case9 p value count c rest blank _ _ _ _ flags _ ih => exact ih h

theorem enterNamed_groups {p q : Progress} {close : Char} {cs after : List Char}
    (h : p.enterNamed close cs = .ok (q, after)) : q.groups = p.groups + 1 := by
  unfold enterNamed at h
  extract_lets name at h
  split at h
  · split at h
    · cases h
      rfl
    · cases h
  · cases h

/-- A question mark is no blank. -/
theorem skipBlank_question {flags : Flags} {rest cs : List Char}
    (h : skipBlank flags ('?' :: rest) = some cs) : cs = '?' :: rest := by
  simpa [skipBlank, skipBlankFrom] using h.symm

/-- A parenthesis opens one group or none, and one only before text that remembers. -/
theorem readOpen_groups {p q : Progress} {cs after : List Char}
    (h : p.readOpen cs = .ok (q, after)) :
    q.groups = p.groups ∨ q.groups = p.groups + 1 ∧ remembers cs = true := by
  unfold readOpen at h
  split at h
  · cases h
  · split at h
    · cases h
    · next text hblank =>
      have hsame : remembers cs = true ∨ text = cs := by
        by_cases hquestion : ∃ rest, cs = '?' :: rest
        · obtain ⟨rest, rfl⟩ := hquestion
          exact .inr (skipBlank_question hblank)
        · exact .inl (remembers_of_ne fun rest heq => hquestion ⟨rest, heq⟩)
      -- only a name, or no question mark at all, makes the group a remembered one
      have hopens (htext : remembers text = true) (hgroups : q.groups = p.groups + 1) :
          q.groups = p.groups ∨ q.groups = p.groups + 1 ∧ remembers cs = true :=
        .inr ⟨hgroups, hsame.elim id fun heq => heq ▸ htext⟩
      split at h
      case h_1 | h_2 | h_3 | h_4 | h_9 =>
        cases h
        exact .inl (settle_groups p)
      case h_5 rest hequals hexclaims =>
        exact hopens (remembers_named hequals hexclaims) (enterNamed_groups h)
      case h_6 | h_7 => exact hopens rfl (enterNamed_groups h)
      case h_8 rest =>
        extract_lets name at h
        split at h
        · split at h
          · cases h
          · obtain ⟨q', hrefer, h⟩ := bind_eq_ok h
            cases h
            exact .inl (Stays.referByName hrefer).groups
        · cases h
      case h_10 => exact .inl (readFlags_groups h)
      case h_11 hquestion =>
        cases h
        exact hopens (remembers_of_ne hquestion) rfl

theorem Stays.step {p q : Progress} {c : Char} {rest after : List Char} (hc : c ≠ '(')
    (h : p.step c rest = .ok (q, after)) : p.Stays q := by
  unfold Progress.step at h
  split at h
  case h_5 => exact absurd rfl hc
  case h_4 =>
    cases h
    exact .branch p
  case h_6 =>
    obtain ⟨q', hleave, h⟩ := bind_eq_ok h
    cases h
    exact .leave hleave
  case h_7 => exact .readEscape h
  case h_8 =>
    obtain ⟨found, -, h⟩ := bind_eq_ok h
    cases h
    exact .push p _
  case h_9 | h_10 | h_11 => exact .quantify h
  case h_12 =>
    split at h
    · exact .quantify h
    · cases h
      exact .push p _
  all_goals
    cases h
    exact .push p _

/-- A step opens one group or none, and one only at a parenthesis before text that remembers. -/
theorem step_groups {p q : Progress} {c : Char} {rest after : List Char}
    (h : p.step c rest = .ok (q, after)) :
    q.groups = p.groups ∨ q.groups = p.groups + 1 ∧ c = '(' ∧ remembers rest = true := by
  by_cases hc : c = '('
  · subst hc
    rcases readOpen_groups h with hgroups | ⟨hgroups, hremembers⟩
    · exact .inl hgroups
    · exact .inr ⟨hgroups, rfl, hremembers⟩
  · exact .inl (Stays.step hc h).groups

/-! ## Whole patterns -/

/-- The reader gets from one progress to another one with the whole text. -/
inductive Reads : Progress → List Char → Progress → Prop where
  | done {p : Progress} {cs : List Char} (hblank : skipBlank p.flags cs = some []) : Reads p cs p
  | step {p q r : Progress} {c : Char} {cs rest after : List Char}
      (hblank : skipBlank p.flags cs = some (c :: rest)) (hstep : p.step c rest = .ok (r, after))
      (hlength : after.length < cs.length) (hrest : Reads r after q) : Reads p cs q

theorem reads_of_readAll {p q : Progress} {cs : List Char} (h : readAll p cs = .ok q) :
    Reads p cs q := by
  fun_induction readAll p cs with
  | case1 | case3 | case5 => cases h
  | case2 p cs hblank =>
    cases h
    exact .done hblank
  | case4 p cs c rest hblank r after hstep hlength ih => exact .step hblank hstep hlength (ih h)

theorem openings_done {p : Progress} {cs : List Char} (hblank : skipBlank p.flags cs = some []) :
    p.openings cs = [] := by
  rw [openings, hblank]

theorem openings_step {p r : Progress} {c : Char} {cs rest after : List Char}
    (hblank : skipBlank p.flags cs = some (c :: rest)) (hstep : p.step c rest = .ok (r, after))
    (hlength : after.length < cs.length) :
    p.openings cs =
      if p.groups < r.groups then rest :: r.openings after else r.openings after := by
  rw [openings, hblank]
  simp only [hstep, dif_pos hlength]

/-- Every group has its opening. -/
theorem Reads.groups_eq {p q : Progress} {cs : List Char} (h : Reads p cs q) :
    q.groups = p.groups + (p.openings cs).length := by
  induction h with
  | done hblank => rw [openings_done hblank, List.length_nil, Nat.add_zero]
  | step hblank hstep hlength _ ih =>
    rw [openings_step hblank hstep hlength, ih]
    rcases step_groups hstep with hgroups | ⟨hgroups, -⟩
    · rw [if_neg (by omega), hgroups]
    · rw [if_pos (by omega), hgroups, List.length_cons]
      omega

/-- The text after an opening is one that opens a group. -/
theorem Reads.remembers_of_mem {p q : Progress} {cs : List Char} (h : Reads p cs q) :
    ∀ rest ∈ p.openings cs, remembers rest = true := by
  induction h with
  | done hblank => simp [openings_done hblank]
  | step hblank hstep hlength _ ih =>
    rw [openings_step hblank hstep hlength]
    split
    · next hgroups =>
      intro text htext
      rcases List.mem_cons.mp htext with rfl | htext
      · rcases step_groups hstep with hsame | ⟨-, -, hremembers⟩
        · omega
        · exact hremembers
      · exact ih text htext
    · exact ih

/-! ## Simple patterns -/

theorem skipBlank_eq {flags : Flags} {cs : List Char} (hflags : flags.ignoreSpace = false)
    (hcs : Zone.outside.Simple cs) : skipBlank flags cs = some cs := by
  cases cs with
  | nil => rfl
  | cons c rest =>
    unfold skipBlank skipBlankFrom
    split
    · next heq =>
      obtain ⟨rfl, rfl⟩ := List.cons.inj heq
      exact absurd (hcs.1 rfl rfl) (by simp [isSimple, remembers])
    · next heq =>
      cases heq
      simp [hflags]
    all_goals contradiction

/-- The lower of the counts in braces, which may be left out. -/
def lowerCount (cs : List Char) : Option (Nat × List Char) :=
  match cs with
  | ',' :: _ => some (0, cs)
  | _ => readDecimal cs

/-- The counts in braces after the lower one has been read. -/
def closeCounts (flags : Flags) (lo : Nat) (cs : List Char) :
    Option (Nat × Option Nat × List Char) := do
  match ← skipBlank flags cs with
  | '\x7D' :: rest => return (lo, some lo, rest)
  | ',' :: rest =>
    let rest ← skipBlank flags rest
    let (hi, rest) := match readDecimal rest with
      | some (hi, after) => (some hi, after)
      | none => (none, rest)
    match ← skipBlank flags rest with
    | '\x7D' :: rest => return (lo, hi, rest)
    | _ => none
  | _ => none

theorem readCounts_eq (flags : Flags) (cs : List Char) :
    readCounts flags cs = (skipBlank flags cs).bind fun cs =>
      (lowerCount cs).bind fun found => closeCounts flags found.1 found.2 := by
  unfold readCounts
  refine Option.bind_congr fun cs _ => ?_
  by_cases hcomma : ∃ tail, cs = ',' :: tail
  · obtain ⟨tail, rfl⟩ := hcomma
    rfl
  · have hne (tail : List Char) : cs ≠ ',' :: tail := fun heq => hcomma ⟨tail, heq⟩
    have hlower : lowerCount cs = readDecimal cs := by
      unfold lowerCount
      split
      · exact absurd rfl (hne _)
      · rfl
    rw [hlower]
    split
    · exact absurd rfl (hne _)
    · rfl

theorem readDecimal_takes {cs after : List Char} {n : Nat} (h : readDecimal cs = some (n, after)) :
    TakesOrdinary cs after := by
  obtain ⟨digits, hcs, -, hdigits⟩ := readDecimal_eq h
  exact ⟨digits, hcs, hdigits⟩

theorem closeCounts_takes {flags : Flags} {cs after : List Char} {n lo : Nat} {hi : Option Nat}
    (hflags : flags.ignoreSpace = false) (hcs : Zone.outside.Simple cs)
    (h : closeCounts flags n cs = some (lo, hi, after)) : TakesOrdinary cs after := by
  unfold closeCounts at h
  rw [skipBlank_eq hflags hcs, Option.bind_eq_bind, Option.bind_some] at h
  split at h
  · cases h
    exact .cons (by decide) (.refl _)
  · next rest =>
    have hrest : Zone.outside.Simple rest := hcs.2
    rw [skipBlank_eq hflags hrest, Option.bind_some] at h
    have hbrace (hi' : Option Nat) (rest' : List Char) (htakes : TakesOrdinary rest rest')
        (h : ((skipBlank flags rest').bind fun
          | '\x7D' :: rest => pure (n, hi', rest)
          | _ => none) = some (lo, hi, after)) : TakesOrdinary (',' :: rest) after := by
      have hrest' := (Zone.Reaches.outside htakes).simple_iff.mp hrest
      rw [skipBlank_eq hflags hrest', Option.bind_some] at h
      split at h
      · cases h
        exact .cons (by decide) (htakes.trans (.cons (by decide) (.refl _)))
      · cases h
    cases hn : readDecimal rest with
    | none =>
      rw [hn] at h
      exact hbrace none rest (.refl _) h
    | some found =>
      rw [hn] at h
      exact hbrace (some found.1) found.2 (readDecimal_takes hn) h
  · cases h

theorem readCounts_takes {flags : Flags} {cs after : List Char} {lo : Nat} {hi : Option Nat}
    (hflags : flags.ignoreSpace = false) (hcs : Zone.outside.Simple cs)
    (h : readCounts flags cs = some (lo, hi, after)) : TakesOrdinary cs after := by
  rw [readCounts_eq, skipBlank_eq hflags hcs, Option.bind_some, Option.bind_eq_some_iff] at h
  obtain ⟨⟨n, cs'⟩, hn, h⟩ := h
  have htakes : TakesOrdinary cs cs' := by
    unfold lowerCount at hn
    split at hn
    · cases hn
      exact .refl _
    · exact readDecimal_takes hn
  exact htakes.trans (closeCounts_takes hflags ((Zone.Reaches.outside htakes).simple_iff.mp hcs) h)

/-- The signs after a repetition: of reluctance, and of no second thoughts. -/
theorem quantify_takes {p q : Progress} {lo : Nat} {hi : Option Nat} {cs after : List Char}
    (hflags : p.flags.ignoreSpace = false) (hcs : Zone.outside.Simple cs)
    (h : p.quantify lo hi cs = .ok (q, after)) : TakesOrdinary cs after := by
  unfold quantify at h
  split at h
  · cases h
  · split at h
    · cases h
    · rw [skipBlank_eq hflags hcs] at h
      obtain ⟨-, rfl⟩ := Prod.mk.inj (Except.ok.inj h)
      split
      · next rest hplus =>
        split at hplus
        · cases hplus
          exact .cons (by decide) (.cons (by decide) (.refl _))
        · cases hplus
          exact .cons (by decide) (.refl _)
      · split
        · exact .cons (by decide) (.refl _)
        · exact .refl _

theorem isOrdinary_of_isNameChar {c : Char} (hc : Escape.isNameChar c = true) :
    isOrdinary c = true :=
  isOrdinary_of_test Escape.isNameChar (by decide +kernel) hc

/-- A name that a back reference may use is ordinary text. -/
theorem isOrdinary_of_referByName {p q : Progress} {name : List Char} (hp : p.Calm)
    (h : p.referByName name = .ok q) : ∀ c ∈ name, isOrdinary c = true := by
  have hdecimal {digits : List Char} {n : Nat} (hn : readDecimal digits = some (n, [])) :
      ∀ c ∈ digits, isOrdinary c = true := by
    obtain ⟨ds, hds, -, hordinary⟩ := readDecimal_eq hn
    rwa [hds, List.append_nil]
  unfold referByName at h
  split at h
  · next n hlookup =>
    obtain ⟨before, later, hnames, -⟩ := List.lookup_eq_some_iff.mp hlookup
    exact hp.names (name, n) (by simp [hnames])
  · split at h
    · split at h
      · next n hn => exact List.forall_mem_cons.mpr ⟨by decide, hdecimal hn⟩
      · cases h
    · split at h
      · next n hn => exact hdecimal hn
      · cases h

theorem readEscape_takes {p q : Progress} {cs after : List Char} (hp : p.Calm)
    (h : p.readEscape cs = .ok (q, after)) :
    ∃ c rest, cs = c :: rest ∧ TakesOrdinary rest after := by
  obtain ⟨⟨found, rest⟩, hread, h⟩ := bind_eq_ok h
  obtain ⟨c, tail, hcs, htakes⟩ := Escape.read_takes hread
  refine ⟨c, tail, hcs, ?_⟩
  cases found with
  | groupNumber n =>
    obtain ⟨q', -, h⟩ := bind_eq_ok h
    cases h
    exact htakes (by simp)
  | groupName name =>
    obtain ⟨q', hrefer, h⟩ := bind_eq_ok h
    cases h
    refine htakes fun name' hname => ?_
    cases hname
    exact isOrdinary_of_referByName hp hrefer
  | char c folds | set s | brackets s | anchor a | keepOut =>
    cases h
    exact htakes (by simp)

theorem enterNamed_takes {p q : Progress} {close : Char} {cs after : List Char} (hp : p.Calm)
    (hclose : isOrdinary close = true) (h : p.enterNamed close cs = .ok (q, after)) :
    q.Calm ∧ TakesOrdinary cs after := by
  have hname : ∀ c ∈ cs.takeWhile Escape.isNameChar, isOrdinary c = true := fun c hc =>
    isOrdinary_of_isNameChar (List.mem_takeWhile_imp hc)
  have hsettled := (Stays.settle p).calm hp
  unfold enterNamed at h
  extract_lets name at h
  split at h
  · next c rest hdrop =>
    split at h
    · next hc =>
      obtain ⟨rfl, -⟩ := hc
      cases h
      refine ⟨⟨hsettled.flags, ?_, ?_⟩, ?_⟩
      · intro entry hentry
        rcases List.mem_cons.mp hentry with rfl | hentry
        · simp
        · exact hsettled.outer entry hentry
      · exact List.forall_mem_cons.mpr ⟨hname, hp.names⟩
      · refine ⟨cs.takeWhile Escape.isNameChar ++ [c], ?_, ?_⟩
        · rw [List.append_assoc, List.singleton_append, ← hdrop, List.takeWhile_append_dropWhile]
        · exact List.forall_mem_append.mpr ⟨hname, by simpa using hclose⟩
    · cases h
  · cases h

theorem readFlags_bare {p : Progress} {before : Flags} {rest : List Char}
    (hflags : p.flags.ignoreSpace = false) :
    p.readFlags before true 0 (':' :: rest) = .ok (p.enter (.plain before), rest) := by
  rw [readFlags]
  simp [hflags]

theorem readFlags_fold {p : Progress} {before : Flags} {rest : List Char}
    (hflags : p.flags.ignoreSpace = false) :
    p.readFlags before true 0 ('i' :: ')' :: rest) =
      .ok (push { p with flags := { p.flags with ignoreCase := true } } .empty, rest) := by
  have hclose (p : Progress) : p.readFlags before true 1 (')' :: rest) =
      .ok (p.push .empty, rest) := by
    rw [readFlags]
    simp
  rw [readFlags]
  simp [hflags, Flags.update?, hclose]

/-- A simple parenthesis is followed by ordinary text up to where the reader goes on, and opens a
remembered group exactly if its text says so. -/
theorem readOpen_simple {p q : Progress} {rest after : List Char} (hp : p.Calm)
    (hrest : Zone.outside.Simple rest) (hsimple : isSimple rest = true)
    (h : p.readOpen rest = .ok (q, after)) :
    q.Calm ∧ TakesOrdinary rest after ∧
      q.groups = p.groups + if remembers rest = true then 1 else 0 := by
  unfold readOpen at h
  split at h
  · cases h
  · rw [skipBlank_eq hp.flags hrest] at h
    simp only at h
    split at h
    case h_1 tail =>
      cases h
      have hstays := Stays.enter p (.look .ahead false) (by simp)
      exact ⟨hstays.calm hp, .cons (by decide) (.cons (by decide) (.refl _)), hstays.groups⟩
    -- the openings that a simple pattern does not have
    case h_2 | h_3 | h_4 | h_8 | h_9 => cases hsimple
    case h_5 tail hequals hexclaims =>
      obtain ⟨hcalm, htakes⟩ := enterNamed_takes hp (by decide) h
      refine ⟨hcalm, .cons (by decide) (.cons (by decide) htakes), ?_⟩
      rw [remembers_named hequals hexclaims]
      exact enterNamed_groups h
    case h_6 =>
      obtain ⟨hcalm, htakes⟩ := enterNamed_takes hp (by decide) h
      exact ⟨hcalm, .cons (by decide) (.cons (by decide) htakes), enterNamed_groups h⟩
    case h_7 =>
      obtain ⟨hcalm, htakes⟩ := enterNamed_takes hp (by decide) h
      exact ⟨hcalm, .cons (by decide) (.cons (by decide) (.cons (by decide) htakes)),
        enterNamed_groups h⟩
    -- of the flags only those that templates write: none, or the one that ignores case
    case h_10 tail hequals _ _ _ hangle hquote hname _ _ =>
      have hremembers := remembers_unnamed hangle hquote hname
      rw [hremembers]
      rcases isSimple_unnamed hsimple hequals hremembers with ⟨tail, rfl⟩ | ⟨tail, rfl⟩
      · rw [readFlags_bare hp.flags] at h
        cases h
        have hstays := Stays.enter p (.plain p.flags) fun before heq => by
          cases heq
          exact hp.flags
        exact ⟨hstays.calm hp, .cons (by decide) (.cons (by decide) (.refl _)), hstays.groups⟩
      · rw [readFlags_fold hp.flags] at h
        cases h
        have hfolds : Calm { p with flags := { p.flags with ignoreCase := true } } :=
          ⟨hp.flags, hp.outer, hp.names⟩
        exact ⟨(Stays.push _ _).calm hfolds,
          .cons (by decide) (.cons (by decide) (.cons (by decide) (.refl _))),
          (Stays.push _ _).groups⟩
    case h_11 hquestion =>
      cases h
      have hcalm := (Stays.enter p (.group (p.groups + 1)) (by simp)).calm hp
      refine ⟨⟨hcalm.flags, hcalm.outer, hcalm.names⟩, .refl _, ?_⟩
      rw [remembers_of_ne hquestion]
      rfl

theorem step_reaches {p q : Progress} {c : Char} {rest after : List Char} (hp : p.Calm)
    (hcs : Zone.outside.Simple (c :: rest)) (hc : c ≠ '(') (h : p.step c rest = .ok (q, after)) :
    Zone.Reaches .outside (c :: rest) .outside after := by
  have hplain (hback : c ≠ '\\') (hopen : c ≠ '[') (htakes : TakesOrdinary rest after) :
      Zone.Reaches .outside (c :: rest) .outside after := by
    refine .char hc ?_
    rw [Zone.step, if_neg hback, if_neg hopen]
    exact .outside htakes
  have hrest (hback : c ≠ '\\') (hopen : c ≠ '[') : Zone.outside.Simple rest := by
    have hnext := hcs.2
    rwa [Zone.step, if_neg hback, if_neg hopen] at hnext
  unfold step at h
  split at h
  case h_5 => exact absurd rfl hc
  case h_6 =>
    obtain ⟨q', -, h⟩ := bind_eq_ok h
    cases h
    exact hplain (by decide) (by decide) (.refl _)
  case h_7 =>
    obtain ⟨d, tail, rfl, htakes⟩ := readEscape_takes hp h
    exact .escape_outside (.outside htakes)
  case h_8 =>
    obtain ⟨⟨s, tail⟩, hread, h⟩ := bind_eq_ok h
    cases h
    exact .char (by decide) (Brackets.read_reaches hread)
  case h_9 | h_10 | h_11 =>
    exact hplain (by decide) (by decide)
      (quantify_takes hp.flags (hrest (by decide) (by decide)) h)
  case h_12 =>
    split at h
    · next lo hi tail hcounts =>
      have htakes := readCounts_takes hp.flags (hrest (by decide) (by decide)) hcounts
      have htail := (Zone.Reaches.outside htakes).simple_iff.mp (hrest (by decide) (by decide))
      exact hplain (by decide) (by decide) (htakes.trans (quantify_takes hp.flags htail h))
    · cases h
      exact hplain (by decide) (by decide) (.refl _)
  case h_13 =>
    cases h
    exact hplain ‹_› ‹_› (.refl _)
  all_goals
    cases h
    exact hplain (by decide) (by decide) (.refl _)

/-- In a simple pattern the reader opens the groups that stand outside of brackets, and ends outside
of them. -/
theorem Reads.openings_eq {p q : Progress} {cs : List Char} (h : Reads p cs q) (hp : p.Calm)
    (hcs : Zone.outside.Simple cs) :
    p.openings cs = Zone.outside.openings cs ∧ Zone.outside.after cs = .outside := by
  induction h with
  | done hblank =>
    rw [openings_done hblank]
    rw [skipBlank_eq hp.flags hcs] at hblank
    cases hblank
    exact ⟨rfl, rfl⟩
  | @step p q r c cs rest after hblank hstep hlength _ ih =>
    rw [openings_step hblank hstep hlength]
    rw [skipBlank_eq hp.flags hcs] at hblank
    cases hblank
    by_cases hc : c = '('
    · subst hc
      obtain ⟨hcalm, htakes, hgroups⟩ := readOpen_simple hp hcs.2 (hcs.1 rfl rfl) hstep
      -- the reader goes on behind ordinary text, where the zone is still the same
      have hreaches := Zone.Reaches.outside htakes
      obtain ⟨hopenings, hafter⟩ := ih hcalm (hreaches.simple_iff.mp hcs.2)
      refine ⟨?_, hreaches.after_eq.trans hafter⟩
      rw [Zone.openings, hopenings, ← hreaches.openings_eq, hgroups]
      by_cases hremembers : remembers rest = true
      · rw [if_pos hremembers, if_pos (Nat.lt_succ_self _), if_pos ⟨rfl, rfl, hremembers⟩]
        rfl
      · rw [if_neg hremembers, Nat.add_zero, if_neg (Nat.lt_irrefl _),
          if_neg fun h => hremembers h.2.2]
        rfl
    · have hstays := Stays.step hc hstep
      have hreaches := step_reaches hp hcs hc hstep
      obtain ⟨hopenings, hafter⟩ := ih (hstays.calm hp) (hreaches.simple_iff.mp hcs)
      rw [hstays.groups, if_neg (Nat.lt_irrefl _), hreaches.openings_eq]
      exact ⟨hopenings, hreaches.after_eq.trans hafter⟩

end Progress

/-- The texts after the parentheses at which the groups of a pattern open, in the order of their
numbers. -/
def openings (pattern : List Char) : List (List Char) :=
  Progress.openings {} pattern

/-- The reader has read every pattern that is one. -/
theorem reads_of_readPattern {cs : List Char} {e : Expr} {groups : Nat}
    (h : readPattern cs = .ok (e, groups)) : ∃ q, Progress.Reads {} cs q ∧ q.groups = groups := by
  obtain ⟨q, hread, h⟩ := bind_eq_ok h
  refine ⟨q, Progress.reads_of_readAll hread, ?_⟩
  split at h
  · cases h
  · obtain ⟨e', -, h⟩ := bind_eq_ok h
    obtain ⟨_, -, h⟩ := bind_eq_ok h
    cases h
    rfl

theorem groups_eq {cs : List Char} {e : Expr} {groups : Nat}
    (h : readPattern cs = .ok (e, groups)) : groups = (openings cs).length := by
  obtain ⟨q, hreads, rfl⟩ := reads_of_readPattern h
  rw [hreads.groups_eq]
  exact Nat.zero_add _

theorem remembers_of_mem_openings {cs : List Char} {e : Expr} {groups : Nat}
    (h : readPattern cs = .ok (e, groups)) : ∀ rest ∈ openings cs, remembers rest = true := by
  obtain ⟨q, hreads, -⟩ := reads_of_readPattern h
  exact hreads.remembers_of_mem

theorem openings_eq {cs : List Char} {e : Expr} {groups : Nat}
    (h : readPattern cs = .ok (e, groups)) (hcs : Zone.outside.Simple cs) :
    openings cs = Zone.outside.openings cs ∧ Zone.outside.after cs = .outside := by
  obtain ⟨q, hreads, -⟩ := reads_of_readPattern h
  exact hreads.openings_eq ⟨rfl, by simp, by simp⟩ hcs

end MockHttp.Regex
