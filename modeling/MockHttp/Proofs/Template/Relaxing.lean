import MockHttp.Proofs.Regex.Within
import MockHttp.Proofs.Template.Alone
import MockHttp.Proofs.Template.Alternatives

/-!
# Fewer restrictions

Flags restrict what a template matches: the match must reach to the end of the text, no delimiter is
tolerated there, case counts. Without a restriction the expression of a template leads to all places
that it leads to with it, and the end of a match asks for no more. Only a capture may lead less far
when case is ignored: what excludes a character then excludes its variants too.

Results:
1. `ways_endingExprs_ne_nil_iff`, `RelaxesTo.ends`: what the end of a match asks for.
2. `Param.ReadAs.relax`: a capture that widens leads at least as far when case is ignored.
3. `RelaxesTo.ways_ne_nil`: with fewer restrictions there is a way wherever there was one before.
4. `matchPath_relax`: a template that matches a text matches it with fewer restrictions.
5. `matchPath_relax_excluded`: why captures must widen.
-/

namespace MockHttp.Unicode

/-- What folds, and what it folds to, lies behind the digits. -/
theorem le_of_mem_foldRuns {run : FoldRun} (h : run ∈ foldRuns) :
    0x41 ≤ run.first ∧ 0x41 ≤ run.target := by
  have hall : foldRuns.all (fun run => 0x41 ≤ run.first && 0x41 ≤ run.target) = true := by
    decide +kernel
  simpa using List.all_eq_true.mp hall run h

/-- A character before the letters is no variant of another one. -/
theorem eq_of_mem_caseVariants {c d : Char} (hpos : 0 < d.toNat) (hless : d.toNat < 0x41)
    (h : d ∈ caseVariants c) : d = c := by
  have hcode {n : Nat} (hd : d = Char.ofNat n) : d.toNat = n := by
    subst hd
    by_cases hvalid : n.isValidChar
    · rw [Char.ofNat, dif_pos hvalid]
      rfl
    · rw [Char.ofNat, dif_neg hvalid] at hpos
      exact absurd hpos (by decide)
  rcases List.mem_cons.mp h with hbase | hvariant
  · have hbase := hcode hbase
    unfold foldCode at hbase
    split at hbase
    · next run hrun =>
      have hle := (le_of_mem_foldRuns (List.mem_of_find?_eq_some hrun)).2
      rw [FoldRun.image] at hbase
      omega
    · exact Char.toNat_inj.mp hbase
  · obtain ⟨n, hn, hd⟩ := List.mem_map.mp hvariant
    obtain ⟨run, hrun, himage⟩ := List.mem_filterMap.mp hn
    have hle := (le_of_mem_foldRuns hrun).1
    have hd := hcode hd.symm
    unfold FoldRun.preimage? at himage
    dsimp only at himage
    split at himage
    · cases himage
      omega
    · cases himage

theorem foldChar_eq_self {c : Char} (hless : c.toNat < 0x41) : foldChar c = c := by
  have hnone : foldRuns.find? (·.covers c.toNat) = none := by
    refine List.find?_eq_none.mpr fun run hrun hcovers => ?_
    have hle := (le_of_mem_foldRuns hrun).1
    have hfirst : run.first ≤ c.toNat := by
      simp only [FoldRun.covers, Bool.and_eq_true, decide_eq_true_eq] at hcovers
      exact hcovers.1.1
    omega
  rw [foldChar, foldCode, hnone]
  exact Char.ofNat_toNat c

/-- A character before the letters equals no other one when case is ignored. -/
theorem eq_of_sameFold {c d : Char} (hpos : 0 < c.toNat) (hless : c.toNat < 0x41)
    (h : sameFold c d = true) : d = c := by
  simp only [sameFold, Bool.or_eq_true, beq_iff_eq] at h
  rcases h with rfl | hfold
  · rfl
  · rw [foldChar_eq_self hless] at hfold
    exact (eq_of_mem_caseVariants hpos hless (hfold ▸ List.mem_cons_self)).symm

end MockHttp.Unicode

namespace MockHttp.Regex

/-- A slash is itself only, whether case counts or not. -/
theorem Expr.Means.slash (ic : Bool) : (Expr.char '/' ic).Means (.text {['/']}) := by
  cases ic with
  | false => exact .char '/'
  | true =>
    have haccepts : (Expr.char '/' true).accepts = (Expr.char '/' false).accepts := by
      funext d
      rw [Bool.eq_iff_iff]
      simp only [accepts, Bool.false_eq_true, if_true, if_false, beq_iff_eq]
      refine ⟨fun h => (Unicode.eq_of_sameFold (by decide) (by decide) h).symm, ?_⟩
      rintro rfl
      simp [Unicode.sameFold]
    intro t q
    rw [ways, haccepts, ← ways]
    exact Means.char '/' t q

end MockHttp.Regex

namespace MockHttp.Template

open Regex

/-! ## The end of a match -/

/-- Every restriction of the second flags is one of the first. -/
structure MatchFlags.RelaxesTo (flags relaxed : MatchFlags) : Prop where
  stop : relaxed.stop = true → flags.stop = true
  strict : relaxed.strict = true → flags.strict = true
  sensitive : relaxed.sensitive = true → flags.sensitive = true

namespace MatchFlags

variable {flags relaxed : MatchFlags}

theorem ends_options_iff (flags : MatchFlags) (delimited : Bool) (rest : List Char) :
    flags.options.Ends delimited rest ↔
      if flags.stop then rest = [] ∨ flags.strict = false ∧ rest = ['/']
      else delimited = true ∨ rest = [] ∨ ['/'] <+: rest := by
  simp [Options.Ends, Options.Terminated, options]

/-- Where a match must reach to the end of the text, nothing is left, or the delimiter that is
tolerated. -/
theorem ways_endingExprs_stop (hstop : flags.stop = true) (delimited : Bool) (t : Thread) :
    (Expr.ofSeq (flags.endingExprs delimited)).ways t ≠ [] ↔
      t.place.rest = [] ∨ flags.strict = false ∧ t.place.rest = ['/'] := by
  have hend : (Expr.ofSeq [.anchor .textEnd]).Means .atEnd := .textEnd
  have hlenient : (Expr.ofSeq [.iter (.ofSeq (charExprs ['/'] (!flags.sensitive))) 0 (some 1)
      true]).Means (Sense.text {['/']}).atMostOnce := (Expr.Means.slash _).optional true
  rw [endingExprs, if_pos hstop]
  cases flags.strict with
  | true =>
    refine (hend.ways_ne_nil_iff t).trans ?_
    simp [Sense.begins_atEnd]
  | false =>
    refine ((hlenient.ofSeq_append hend).ways_ne_nil_iff t).trans ?_
    rw [Sense.begins_atMostOnce_andThen, Sense.begins_text_andThen, Sense.begins_atEnd]
    simp [Sense.begins_atEnd]

/-- Where a match may end inside of the text, nothing is left or a delimiter follows, unless the
tokens end in one. -/
theorem ways_endingExprs_inside (hstop : flags.stop = false) (delimited : Bool) (t : Thread) :
    (Expr.ofSeq (flags.endingExprs delimited)).ways t ≠ [] ↔
      delimited = true ∨ t.place.rest = [] ∨ ['/'] <+: t.place.rest := by
  have hslash : (Expr.ofSeq (charExprs ['/'] (!flags.sensitive))).Means (.text {['/']}) := .slash _
  have hahead : (Expr.ofSeq [.look .ahead false (.anchor .textEnd)]).Means Sense.atEnd.ahead :=
    Expr.Means.textEnd.ahead
  have hlenient : (Expr.ofSeq [.iter (.ofSeq (charExprs ['/'] (!flags.sensitive) ++
      [.look .ahead false (.anchor .textEnd)])) 0 (some 1) true]).Means
      ((Sense.text {['/']}).andThen Sense.atEnd.ahead).atMostOnce :=
    (hslash.ofSeq_append hahead).optional true
  have hbefore : (Expr.ofSeq [.look .ahead false
      (.alt (.ofSeq (charExprs ['/'] (!flags.sensitive))) (.anchor .textEnd))]).Means
      (Sense.ahead ((Sense.text {['/']}).orElse .atEnd)) := (hslash.alt .textEnd).ahead
  have hbegins : (Sense.ahead ((Sense.text {['/']}).orElse .atEnd)).Begins t.place.rest ↔
      t.place.rest = [] ∨ ['/'] <+: t.place.rest := by
    rw [Sense.begins_ahead, Sense.begins_orElse, Sense.begins_text, Sense.begins_atEnd, or_comm]
  rw [endingExprs, if_neg (by simp [hstop])]
  cases delimited with
  | true =>
    refine iff_of_true ?_ (.inl rfl)
    cases flags.strict with
    | true => exact List.cons_ne_nil t []
    | false => exact (hlenient.ways_ne_nil_iff t).mpr ⟨[], _, rfl, .inl rfl⟩
  | false =>
    cases flags.strict with
    | true =>
      refine (hbefore.ways_ne_nil_iff t).trans ?_
      simp [hbegins]
    | false =>
      refine ((hlenient.ofSeq_append hbefore).ways_ne_nil_iff t).trans ?_
      rw [Sense.begins_atMostOnce_andThen, hbegins]
      -- what begins with the tolerated delimiter begins with a delimiter
      have hslashed (h : (((Sense.text {['/']}).andThen Sense.atEnd.ahead).andThen
          ((Sense.text {['/']}).orElse .atEnd).ahead).Begins t.place.rest) :
          ['/'] <+: t.place.rest := Sense.begins_text.mp h.left.left
      simpa using fun h => .inr (hslashed h)

/-- The end of a match has a way from a thread if the text from there on is as the options ask. -/
theorem ways_endingExprs_ne_nil_iff (flags : MatchFlags) (delimited : Bool) (t : Thread) :
    (Expr.ofSeq (flags.endingExprs delimited)).ways t ≠ [] ↔
      flags.options.Ends delimited t.place.rest := by
  rw [ends_options_iff]
  split
  · next hstop => exact ways_endingExprs_stop hstop delimited t
  · next hstop => exact ways_endingExprs_inside (by simpa using hstop) delimited t

/-- Case is ignored with fewer restrictions if it is ignored before. -/
theorem RelaxesTo.ignoreCase (h : flags.RelaxesTo relaxed) :
    (!flags.sensitive) = true → (!relaxed.sensitive) = true := by
  simp only [Bool.not_eq_true', Bool.eq_false_iff]
  exact mt h.sensitive

/-- With fewer restrictions the end of a match asks for no more. -/
theorem RelaxesTo.ends (h : flags.RelaxesTo relaxed) {delimited : Bool} {rest : List Char}
    (hends : flags.options.Ends delimited rest) : relaxed.options.Ends delimited rest := by
  rw [ends_options_iff] at hends ⊢
  cases hstop : relaxed.stop with
  | true =>
    rw [h.stop hstop, if_pos rfl] at hends
    refine hends.imp_right fun ⟨hstrict, hrest⟩ => ⟨?_, hrest⟩
    exact Bool.eq_false_iff.mpr fun hrelaxed => absurd (h.strict hrelaxed) (by simp [hstrict])
  | false =>
    rw [if_neg (by simp)]
    split at hends
    · rcases hends with hrest | ⟨-, hrest⟩
      · exact .inr (.inl hrest)
      · exact .inr (.inr (hrest ▸ List.prefix_refl _))
    · exact hends

end MatchFlags

/-! ## Captures -/

/-- By itself the pattern of the parameter leads at least as far when case is ignored. -/
def Param.Widens (p : Param) : Prop :=
  ∀ re re', readExpression (groupText p.pattern) = .ok re →
    readExpression (caseText true ++ groupText p.pattern) = .ok re' → re.expr.Within re'.expr

namespace Param

variable {p : Param} {value : Expr} {ic ic' : Bool}

theorem Reads.readExpression_group (h : p.Reads value ic) (hsteady : value.isSteady = true) :
    readExpression (caseText ic ++ groupText p.pattern) =
      .ok ⟨String.ofList (caseText ic ++ groupText p.pattern), value, 0⟩ :=
  readExpression_of_writes h.bare.toWrites (by decide) hsteady

/-- A capture that widens leads at least as far as before where case is ignored, and otherwise it is
read as the same expression. -/
theorem ReadAs.relax (h : p.ReadAs value ic) (hself : p.IsSelfContained) (hp : p.IsPresent)
    (hsteady : value.isSteady = true) (hic : ic = true → ic' = true)
    (hwidens : ic' ≠ ic → p.Widens) :
    ∃ value', p.ReadAs value' ic' ∧ value'.outline = value.outline ∧ value.Within value' := by
  by_cases hsame : ic' = ic
  · subst hsame
    exact ⟨value, h, rfl, .refl _⟩
  obtain ⟨value', h', houtline⟩ := h.recase ic'
  have hsteady' : value'.isSteady = true := by
    rw [← Expr.isSteady_outline, houtline, Expr.isSteady_outline, hsteady]
  have hread := (h.reads hself hp).readExpression_group hsteady
  have hread' := (h'.reads hself hp).readExpression_group hsteady'
  cases ic with
  | true => exact absurd (hic rfl) hsame
  | false =>
    obtain rfl : ic' = true := Bool.not_eq_false _ ▸ hsame
    exact ⟨value', h', houtline, hwidens hsame _ _ hread hread'⟩

theorem within_otherChars {text : List Char}
    (htext : ∀ c ∈ text, 0 < c.toNat ∧ c.toNat < 0x41) :
    (Expr.set (Brackets.otherChars text false)).Within (.set (Brackets.otherChars text true)) := by
  refine .set fun c hc => ?_
  simp only [Brackets.otherChars, CharSet.foldIf, CharSet.contains, Brackets.contains_withChars,
    Bool.false_or, Bool.not_eq_true', Bool.false_eq_true, if_false, if_true,
    Bool.or_eq_false_iff] at hc ⊢
  refine ⟨hc, List.any_eq_false.mpr fun d hd hmem => ?_⟩
  have hmem : d ∈ text := by simpa [Brackets.contains_withChars, CharSet.contains] using hmem
  obtain rfl := Unicode.eq_of_mem_caseVariants (htext d hmem).1 (htext d hmem).2 hd
  simp [hmem] at hc

/-- Values that exclude no letter widen. -/
theorem IsDefault.widens (hp : p.IsDefault)
    (hchars : ∀ c ∈ p.delimiter, 0 < c.toNat ∧ c.toNat < 0x41) : p.Widens := by
  intro re re' hread hread'
  have hreads (ic : Bool) : p.Reads (p.valueExpr ic) ic := hp.reads
  have hvalue := (hreads false).readExpression_group rfl
  have hvalue' := (hreads true).readExpression_group rfl
  obtain rfl := Except.ok.inj (hvalue.symm.trans hread)
  obtain rfl := Except.ok.inj (hvalue'.symm.trans hread')
  exact (within_otherChars hchars).iter 1 none false

end Param

/-- The parameters of a template without groups of its own are self-contained, and widen. -/
theorem WithoutGroups.widens {template : String} (h : WithoutGroups template) {p : Param}
    (hp : p ∈ paramsOf (tokensOf template)) : p.IsSelfContained ∧ p.Widens := by
  have hdefault := h.isDefault (mem_paramsOf.mp hp)
  have hdelimiter : p.delimiter = ['/'] ∨ p.delimiter = ['.'] := by
    obtain ⟨m, lead, i, -, hlead, rfl⟩ := exists_marker_of_mem_assemble (mem_paramsOf.mp hp)
    cases lead with
    | none => exact .inl rfl
    | some c =>
      have hc : c ∈ ['.', '/'] := hlead c rfl
      rcases List.mem_pair.mp hc with rfl | rfl
      · exact .inr rfl
      · exact .inl rfl
  have hpattern : Zone.outside.isEnclosed (defaultPattern p.delimiter) = true := by
    rcases hdelimiter with heq | heq <;> rw [heq] <;> decide +kernel
  refine ⟨⟨hdefault.1 ▸ hpattern, ?_⟩, hdefault.widens ?_⟩
  · rw [hdefault.1]
    exact fun hopens => absurd (Option.some_inj.mp hopens) (by decide)
  · rcases hdelimiter with heq | heq <;> simp [heq]

/-! ## The expressions of tokens -/

section Congruent

variable {ic ic' : Bool}

theorem congruent_within (hic : ic = true → ic' = true) : Congruent ic ic' Expr.Within where
  char c := by
    cases ic with
    | false => exact .char_of_case c _
    | true => rw [hic rfl]; exact .refl _
  ofSeq := .ofSeq
  group := .group _
  iter h := h.iter _ _ _

theorem congruent_outline (ic ic' : Bool) :
    Congruent ic ic' fun e e' => e'.outline = e.outline where
  char _ := rfl
  ofSeq h := by
    rw [Expr.outline_ofSeq, Expr.outline_ofSeq]
    refine congrArg Expr.ofSeq ?_
    induction h with
    | nil => rfl
    | cons he _ ih => rw [List.map_cons, List.map_cons, he, ih]
  group h := congrArg (Expr.group _) h
  iter h := congrArg (Expr.iter · 0 _ true) h

end Congruent

theorem hereditary_isSteady : Hereditary fun e => e.isSteady = true where
  seq h := Bool.and_eq_true _ _ ▸ h
  group h := h
  iter h := (Bool.and_eq_true _ _ ▸ (Bool.and_eq_true _ _ ▸ h : _ ∧ _).1 : _ ∧ _).1

namespace MatchFlags

variable {flags relaxed : MatchFlags} {tokens : List Token} {value value' : Param → Expr}

theorem isSteady_exprWith (flags : MatchFlags) (value : Param → Expr) (tokens : List Token) :
    (flags.exprWith value tokens).isSteady =
      (Expr.ofSeq (exprsWith value 0 tokens (!flags.sensitive))).isSteady := by
  rw [exprWith, isSteady_ofSeq, List.all_cons, List.all_append, all_isSteady_endingExprs,
    Bool.and_true, isSteady_ofSeq]
  rfl

theorem isAnchored_exprWith (flags : MatchFlags) (value : Param → Expr) (tokens : List Token) :
    (flags.exprWith value tokens).IsAnchored := isAnchored_ofSeq _

theorem ways_exprWith (flags : MatchFlags) (value : Param → Expr) (tokens : List Token)
    (text : List Char) :
    (flags.exprWith value tokens).ways (.start (.start text)) =
      ((Expr.ofSeq (exprsWith value 0 tokens (!flags.sensitive))).ways
        (.start (.start text))).flatMap
          (Expr.ofSeq (flags.endingExprs (endsDelimited {} tokens))).ways := by
  rw [exprWith, ways_anchored, ← Expr.ways_ofSeq_append]
  rfl

/-- Where a match must reach to the end of the text, all ways do. -/
theorem rest_of_mem_exprWith (hstop : flags.stop = true) {t u : Thread}
    (hu : u ∈ (flags.exprWith value tokens).ways t) : u.place.rest = [] := by
  have hending : ∃ before, flags.endingExprs (endsDelimited {} tokens) =
      before ++ [.anchor .textEnd] := ⟨_, by rw [endingExprs, if_pos hstop]⟩
  obtain ⟨before, hending⟩ := hending
  rw [exprWith, hending, ← List.append_assoc, ← List.cons_append] at hu
  exact rest_of_mem_textEnd hu

/-- The tokens have a way from the start of a text if their captures lead to a place after which the
text is as the options ask. -/
theorem ways_exprWith_ne_nil_iff (flags : MatchFlags) (value : Param → Expr) (tokens : List Token)
    (text : List Char) :
    (flags.exprWith value tokens).ways (.start (.start text)) ≠ [] ↔
      ∃ q ∈ places ((Expr.ofSeq (exprsWith value 0 tokens (!flags.sensitive))).ways
        (.start (.start text))), flags.options.Ends (endsDelimited {} tokens) q.rest := by
  rw [ways_exprWith, Ne, List.flatMap_eq_nil_iff]
  push Not
  constructor
  · rintro ⟨m, hm, hways⟩
    exact ⟨m.place, List.mem_map_of_mem hm, (flags.ways_endingExprs_ne_nil_iff _ m).mp hways⟩
  · rintro ⟨q, hq, hends⟩
    obtain ⟨m, hm, rfl⟩ := List.mem_map.mp hq
    exact ⟨m, hm, (flags.ways_endingExprs_ne_nil_iff _ m).mpr hends⟩

/-- With fewer restrictions and captures that lead at least as far, tokens have a way from the start
of every text that they have a way from before. -/
theorem RelaxesTo.ways_ne_nil (h : flags.RelaxesTo relaxed)
    (hwithin : ∀ p ∈ paramsOf tokens, (value p).Within (value' p)) {text : List Char}
    (hways : (flags.exprWith value tokens).ways (.start (.start text)) ≠ []) :
    (relaxed.exprWith value' tokens).ways (.start (.start text)) ≠ [] := by
  obtain ⟨q, hq, hends⟩ := (flags.ways_exprWith_ne_nil_iff value tokens text).mp hways
  have htokens := Expr.Within.ofSeq ((congruent_within h.ignoreCase).exprsWith hwithin 0)
  exact (relaxed.ways_exprWith_ne_nil_iff value' tokens text).mpr
    ⟨q, htokens _ q hq, h.ends hends⟩

end MatchFlags

/-! ## Matches -/

namespace Pattern

variable {pattern : Pattern} {template uri : String} {exact : Bool}

/-- A match comes from a way. -/
theorem ways_ne_nil_of_matchText (hsteady : pattern.regex.expr.isSteady = true)
    (hanchored : pattern.regex.expr.IsAnchored) {m : RouteMatch}
    (h : pattern.matchText template uri exact = .ok (some m)) :
    pattern.regex.expr.ways (.start (.start uri.toList)) ≠ [] := by
  intro hnil
  unfold matchText at h
  split at h
  · cases h
  · cases h
  · next found hfind =>
    have hanswer := find_eq_ok hsteady hfind
    rw [hanchored.firstWay_eq, hnil] at hanswer
    cases hanswer

/-- Where an anchored pattern has a way, it matches, unless the search is given up. -/
theorem matchText_of_ways_ne_nil (hsteady : pattern.regex.expr.isSteady = true)
    (hanchored : pattern.regex.expr.IsAnchored)
    (hend : exact = true → ∀ u ∈ pattern.regex.expr.ways (.start (.start uri.toList)),
      u.place.rest = [])
    (hslash : template = "/" → pattern.regex.expr.consumes = true)
    (hways : pattern.regex.expr.ways (.start (.start uri.toList)) ≠ []) :
    pattern.matchText template uri exact = .error (.gaveUp .stepsSpent) ∨
      ∃ m, pattern.matchText template uri exact = .ok (some m) := by
  unfold matchText
  cases hfind : pattern.regex.find uri.toList with
  | error cause =>
    cases cause
    exact .inl rfl
  | ok answer =>
    have hanswer := find_eq_ok hsteady hfind
    obtain ⟨u, l, hcons⟩ := List.exists_cons_of_ne_nil hways
    rw [hanchored.firstWay_eq, hcons, List.head?_cons, Option.map_some] at hanswer
    subst hanswer
    have hu : u ∈ pattern.regex.expr.ways (.start (.start uri.toList)) :=
      hcons ▸ List.mem_cons_self
    have hspan : (pattern.regex.foundAt u).span = ⟨0, u.place.pos⟩ := by
      have hfirst : u.first = 0 := ways_first _ _ u hu
      rw [foundAt, hfirst]
    have hempty : ¬(template = "/" ∧
        String.ofList (Span.text ⟨0, u.place.pos⟩ uri.toList) = "") := by
      rintro ⟨htemplate, hempty⟩
      refine MatchFlags.span_text_ne_nil (hslash htemplate) hu ?_
      simpa using congrArg String.toList hempty
    have hwhole : ¬(exact = true ∧
        ¬uri = String.ofList (Span.text ⟨0, u.place.pos⟩ uri.toList)) := by
      rintro ⟨hexact, hno⟩
      have htext := MatchFlags.span_text_of_mem hu
      rw [hend hexact u hu, List.append_nil] at htext
      rw [← htext, String.ofList_toList] at hno
      exact hno rfl
    refine .inr ?_
    simp only [hspan, if_neg hempty, if_neg hwhole]
    exact ⟨_, rfl⟩

end Pattern

namespace MatchFlags

variable {flags relaxed : MatchFlags}

/-- The template `/` reads a character. -/
theorem consumes_exprWith_slash (flags : MatchFlags) (value : Param → Expr) :
    (flags.exprWith value (tokensOf "/")).consumes = true := by
  have htokens : tokensOf "/" = [.literal ['/']] := by decide +kernel
  rw [htokens, exprWith, consumes_ofSeq]
  rfl

/-- A steady template with self-contained captures, which widen if case counts no longer, compiles
with fewer restrictions too, and its captures then lead at least as far as before. -/
theorem RelaxesTo.compile (h : flags.RelaxesTo relaxed) {template : String} {pattern : Pattern}
    (hcompile : (Source.template template.toList).compile flags.options = .ok pattern)
    (hself : ∀ p ∈ pattern.params, p.IsSelfContained)
    (hsteady : pattern.regex.expr.isSteady = true)
    (hwidens : relaxed.sensitive ≠ flags.sensitive → ∀ p ∈ pattern.params, p.Widens) :
    ∃ value value' : Param → Expr, pattern = flags.patternWith value (tokensOf template) ∧
      (Source.template template.toList).compile relaxed.options =
        .ok (relaxed.patternWith value' (tokensOf template)) ∧
      (relaxed.exprWith value' (tokensOf template)).isSteady = true ∧
      ∀ p ∈ paramsOf (tokensOf template), (value p).Within (value' p) := by
  have hcompile : compileTokens flags.options (tokensOf template) = .ok pattern := hcompile
  rw [params_of_compile hcompile] at hself hwidens
  have hpresent (p : Param) (hp : p ∈ paramsOf (tokensOf template)) :
      p.IsSelfContained ∧ p.IsPresent := ⟨hself p hp, isPresent_of_mem_tokenize (by decide) hp⟩
  obtain ⟨value, hvalue, rfl, -⟩ := reads_of_compile hcompile hpresent
  have hcaptures := of_exprWith hereditary_isSteady hsteady
  rw [patternWith, isSteady_exprWith] at hsteady
  have hrelax (p : Param) (hp : p ∈ paramsOf (tokensOf template)) :=
    (hvalue p hp).relax (hpresent p hp).1 (hpresent p hp).2 (hcaptures p hp) h.ignoreCase
      fun hne => hwidens (fun heq => hne (congrArg (!·) heq)) p hp
  have : Inhabited Expr := ⟨.empty⟩
  choose! value' hvalue' houtline hwithin using hrelax
  -- what is steady stays steady when case is ignored
  have hsteady' : (relaxed.exprWith value' (tokensOf template)).isSteady = true := by
    have hcongruent := congruent_outline (!flags.sensitive) (!relaxed.sensitive)
    have htokens := hcongruent.ofSeq (hcongruent.exprsWith houtline 0)
    rw [isSteady_exprWith, ← Expr.isSteady_outline, htokens, Expr.isSteady_outline, hsteady]
  have hcompile' := compileTokens_of_reads hvalue' hpresent
  rw [runnable_of_steady _ _ hsteady'] at hcompile'
  exact ⟨value, value', rfl, hcompile', hsteady', hwithin⟩

/-- What matches with more restrictions matches with fewer, unless the search is given up. -/
theorem RelaxesTo.evaluate (h : flags.RelaxesTo relaxed) {template : String} {pattern : Pattern}
    (hcompile : (Source.template template.toList).compile flags.options = .ok pattern)
    (hself : ∀ p ∈ pattern.params, p.IsSelfContained)
    (hsteady : pattern.regex.expr.isSteady = true)
    (hwidens : relaxed.sensitive ≠ flags.sensitive → ∀ p ∈ pattern.params, p.Widens)
    {uri : String} {m : RouteMatch}
    (hmatch : (flags.routes [template]).evaluate uri = .ok (some m)) :
    (relaxed.routes [template]).evaluate uri = .error (.gaveUp .stepsSpent) ∨
      ∃ m', (relaxed.routes [template]).evaluate uri = .ok (some m') := by
  obtain ⟨value, value', rfl, hcompile', hsteady', hwithin⟩ :=
    h.compile hcompile hself hsteady hwidens
  have hevaluate : (flags.routes [template]).evaluate uri = _ :=
    firstMatch_singleton hcompile uri flags.stop
  have hevaluate' : (relaxed.routes [template]).evaluate uri = _ :=
    firstMatch_singleton hcompile' uri relaxed.stop
  rw [hevaluate] at hmatch
  rw [hevaluate']
  have hways := Pattern.ways_ne_nil_of_matchText hsteady (flags.isAnchored_exprWith _ _) hmatch
  refine Pattern.matchText_of_ways_ne_nil hsteady' (relaxed.isAnchored_exprWith _ _) ?_ ?_
    (h.ways_ne_nil hwithin hways)
  · exact fun hstop u hu => rest_of_mem_exprWith hstop hu
  · rintro rfl
    exact relaxed.consumes_exprWith_slash value'

/-- A template without groups of its own matches all that it matches with more restrictions. -/
theorem RelaxesTo.evaluate_withoutGroups (h : flags.RelaxesTo relaxed) {template : String}
    (hgroups : WithoutGroups template) {uri : String} {m : RouteMatch}
    (hmatch : (flags.routes [template]).evaluate uri = .ok (some m)) :
    (relaxed.routes [template]).evaluate uri = .error (.gaveUp .stepsSpent) ∨
      ∃ m', (relaxed.routes [template]).evaluate uri = .ok (some m') :=
  h.evaluate (compile_alone flags hgroups) (fun _ hp => (hgroups.widens hp).1)
    (flags.isSteady_branch _ 0) (fun _ _ hp => (hgroups.widens hp).2) hmatch

/-- Dropping restrictions never costs a match, whatever a store was asked before. The captures of a
template must be self-contained, and its expression steady, so that no choice is final and nothing
is cut off the match; and each capture must widen if case counted and does no longer. Then the
template compiles with fewer restrictions too, and matches each text that it matched before, unless
the search is given up. -/
theorem matchPath_relax {flags relaxed : MatchFlags} (h : flags.RelaxesTo relaxed)
    {template : String} {pattern : Pattern} (hcompile : flags.compile template = .ok pattern)
    (hself : ∀ p ∈ pattern.params, p.IsSelfContained)
    (hsteady : pattern.regex.expr.isSteady = true)
    (hwidens : relaxed.sensitive ≠ flags.sensitive → ∀ p ∈ pattern.params, p.Widens)
    (capacity : Nat) (earlier : List Operation) (uri : String) :
    let matched (flags : MatchFlags) :=
      (((Store.new capacity).after earlier).matchPath uri (flags.routes [template])).value.2
    ∀ m, matched flags = .ok (some m) →
      matched relaxed = .error (.gaveUp .stepsSpent) ∨ ∃ m', matched relaxed = .ok (some m') := by
  intro matched m hmatch
  have hstore := Store.after_isFaithful (.new capacity) earlier
  have hmatched (flags : MatchFlags) : matched flags = (flags.routes [template]).evaluate uri :=
    (Store.matchAny_spec hstore uri flags [template]).2
  rw [hmatched] at hmatch ⊢
  exact h.evaluate hcompile hself hsteady hwidens hmatch

/-- A parameter whose values are lower case letters up to `f`. -/
def hexLetters : Param where
  name := .named "a"
  lead := some '/'
  delimiter := ['/']
  pattern := "[a-f]+".toList
  optional := false
  repeated := false
  inSegment := false

theorem widens_hexLetters : hexLetters.Widens := by
  have hread : readExpression (groupText hexLetters.pattern) = .ok ⟨"(?:[a-f]+)",
      .iter (.set (.union .empty (.range 'a' 'f'))) 1 none true, 0⟩ := by decide +kernel
  have hread' : readExpression (caseText true ++ groupText hexLetters.pattern) =
      .ok ⟨"(?i)(?:[a-f]+)",
        .iter (.set (.fold (.union .empty (.range 'a' 'f')))) 1 none true, 0⟩ := by decide +kernel
  intro re re' hre hre'
  obtain rfl := Except.ok.inj (hread.symm.trans hre)
  obtain rfl := Except.ok.inj (hread'.symm.trans hre')
  exact .iter (.set fun c hc => by rw [CharSet.contains, hc, Bool.true_or]) 1 none true

/-- All three restrictions are dropped. -/
theorem matchPath_relax_hexLetters :
    ∃ pattern, (⟨true, true, true⟩ : MatchFlags).compile "/:a([a-f]+)/x" = .ok pattern ∧
      (∀ p ∈ pattern.params, p.IsSelfContained ∧ p.Widens) ∧
      pattern.regex.expr.isSteady = true ∧
      ((Store.new 0).matchPath "/cafe/x"
        (routes ⟨true, true, true⟩ ["/:a([a-f]+)/x"])).value.2 =
          .ok (some ⟨"/:a([a-f]+)/x", "/cafe/x", true, [(.named "a", some "cafe")]⟩) ∧
      (((Store.new 0).matchPath "/cafe/x"
        (routes ⟨false, false, false⟩ ["/:a([a-f]+)/x"])).value.2 = .error (.gaveUp .stepsSpent) ∨
        ∃ m', ((Store.new 0).matchPath "/cafe/x"
          (routes ⟨false, false, false⟩ ["/:a([a-f]+)/x"])).value.2 = .ok (some m')) := by
  have hcompile : (match (⟨true, true, true⟩ : MatchFlags).compile "/:a([a-f]+)/x" with
      | .ok pattern => decide (pattern.params = [hexLetters]) && pattern.regex.expr.isSteady
      | .error _ => false) = true := by decide +kernel
  have hevaluate : (routes ⟨true, true, true⟩ ["/:a([a-f]+)/x"]).evaluate "/cafe/x" =
      .ok (some ⟨"/:a([a-f]+)/x", "/cafe/x", true, [(.named "a", some "cafe")]⟩) := by
    decide +kernel
  have hmatch := (Store.matchAny_spec (.new 0) "/cafe/x" ⟨true, true, true⟩
    ["/:a([a-f]+)/x"]).2.trans hevaluate
  cases h : (⟨true, true, true⟩ : MatchFlags).compile "/:a([a-f]+)/x" with
  | error e => simp [h] at hcompile
  | ok pattern =>
    simp only [h, Bool.and_eq_true, decide_eq_true_eq] at hcompile
    obtain ⟨hparams, hsteady⟩ := hcompile
    have hself : ∀ p ∈ pattern.params, p.IsSelfContained := by
      rw [hparams]
      exact List.forall_mem_singleton.mpr (by decide)
    have hwidens : ∀ p ∈ pattern.params, p.Widens := by
      rw [hparams]
      exact List.forall_mem_singleton.mpr widens_hexLetters
    exact ⟨pattern, rfl, fun p hp => ⟨hself p hp, hwidens p hp⟩, hsteady, hmatch,
      matchPath_relax ⟨by simp, by simp, by simp⟩ h hself hsteady (fun _ => hwidens) 0 []
        "/cafe/x" _ hmatch⟩

/-- A capture that excludes a letter. While case counts it takes the other case of the letter; when
case is ignored it excludes that as well. -/
theorem matchPath_relax_excluded :
    ((Store.new 0).matchPath "/K" (routes ⟨true, false, true⟩ ["/:a([^k])"])).value.2 =
        .ok (some ⟨"/:a([^k])", "/K", true, [(.named "a", some "K")]⟩) ∧
      ((Store.new 0).matchPath "/K" (routes ⟨true, false, false⟩ ["/:a([^k])"])).value.2 =
        .ok none := by
  have hsensitive : (routes ⟨true, false, true⟩ ["/:a([^k])"]).evaluate "/K" =
      .ok (some ⟨"/:a([^k])", "/K", true, [(.named "a", some "K")]⟩) := by decide +kernel
  have hinsensitive : (routes ⟨true, false, false⟩ ["/:a([^k])"]).evaluate "/K" = .ok none := by
    decide +kernel
  exact ⟨(Store.matchAny_spec (.new 0) "/K" ⟨true, false, true⟩ ["/:a([^k])"]).2.trans hsensitive,
    (Store.matchAny_spec (.new 0) "/K" ⟨true, false, false⟩ ["/:a([^k])"]).2.trans hinsensitive⟩

end MatchFlags

end MockHttp.Template
