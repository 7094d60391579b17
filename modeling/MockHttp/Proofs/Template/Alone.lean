import MockHttp.Proofs.Regex.Casing
import MockHttp.Proofs.Template.Branches
import MockHttp.Proofs.Template.Pieces
import MockHttp.Template.Path

/-!
# Captures by themselves

The pattern of a parameter is read twice: between parentheses in the expression of the template,
where case is ignored unless it counts, and by itself when a value is compared with it. A pattern
that is self-contained says the same in both places.

Results:
1. `MatchFlags.reads_of_compile`: what compiles has captures that can be read.
2. `readExpression_of_compile`: such a capture can be read by itself, unless a repetition in it asks
   for more than it allows.
3. `pathOf_of_compile`: what can go wrong when values are put in the places of the parameters of a
   template that compiles.
-/

namespace MockHttp.Regex

open Progress

variable {ic : Bool}

/-! ## Texts that cannot be read -/

/-- Wherever it stands, the text cannot be read. -/
def Refused (text : List Char) (depth : Nat) (ignoreCase : Bool) : Prop :=
  (∀ rest, fresh (text ++ rest) = true) ∧
    ∀ p rest, p.IsOpen depth ignoreCase → ∃ e, readAll p (text ++ rest) = .error e

/-- Between parentheses the text cannot be read. -/
def RefusedBody (text : List Char) (depth : Nat) (ignoreCase : Bool) : Prop :=
  ∀ p rest, p.IsOpen depth ignoreCase → p.last = none → p.level.pieces = [] →
    ∃ e, readAll p (text ++ ')' :: rest) = .error e

section Refused

variable {text text' : List Char} {n depth depth' : Nat}

theorem Refused.append (h : Refused text depth ic) (text' : List Char) :
    Refused (text ++ text') depth ic := by
  refine ⟨fun rest => ?_, fun p rest hp => ?_⟩
  · rw [List.append_assoc]
    exact h.1 _
  · rw [List.append_assoc]
    exact h.2 p _ hp

theorem Refused.mono (h : Refused text depth ic) (hle : depth ≤ depth') :
    Refused text depth' ic :=
  ⟨h.1, fun p rest hp => h.2 p rest (hp.mono hle)⟩

theorem Refused.toBody (h : Refused text depth ic) : RefusedBody text depth ic :=
  fun p _ hp _ _ => h.2 p _ hp

/-- A text that cannot be read after one that can. -/
theorem Writes.refused {es : Nat → List Expr} (h : Writes text n depth es ic)
    (h' : Refused text' depth ic) : Refused (text ++ text') depth ic := by
  refine ⟨fun rest => ?_, fun p rest hp => ?_⟩
  · rw [List.append_assoc]
    exact h.1 _ (h'.1 rest)
  · obtain ⟨q, hread, hq⟩ := h.2 p (text' ++ rest) hp (h'.1 rest)
    obtain ⟨e, he⟩ := h'.2 q rest (hp.of_settle hq)
    exact ⟨e, by rw [List.append_assoc, hread, he]⟩

theorem RefusedBody.capture (h : RefusedBody text depth ic)
    (hopens : ∀ rest, Unmarked (text ++ ')' :: rest)) :
    Refused ('(' :: text ++ [')']) (depth + 1) ic := by
  have htext (rest : List Char) : '(' :: text ++ [')'] ++ rest = '(' :: (text ++ ')' :: rest) := by
    simp
  refine ⟨fun rest => ?_, fun p rest hp => ?_⟩
  · rw [htext]
    exact fresh_open (hopens rest)
  · have hopen : p.step '(' (text ++ ')' :: rest) = _ := readOpen_capture hp (hopens rest)
    have hblank : skipBlank { ignoreCase := ic } _ = _ :=
      skipBlank_of_fresh (fresh_open (hopens rest))
    rw [htext, readAll_step hp.flags hblank hopen (Nat.le_refl _)]
    refine h _ rest ⟨hp.settle.flags, hp.settle.names, ?_⟩ (settle_last p) rfl
    have hdepth := hp.settle.depth
    simp only [enter, List.length_cons]
    omega

theorem RefusedBody.bare (h : RefusedBody text depth ic) :
    Refused ('(' :: '?' :: ':' :: text ++ [')']) (depth + 1) ic := by
  have htext (rest : List Char) : '(' :: '?' :: ':' :: text ++ [')'] ++ rest =
      '(' :: '?' :: ':' :: (text ++ ')' :: rest) := by simp
  refine ⟨fun rest => rfl, fun p rest hp => ?_⟩
  have hopen : p.step '(' ('?' :: ':' :: (text ++ ')' :: rest)) = _ := readOpen_bare hp _
  rw [htext, readAll_step hp.flags rfl hopen (by simp; omega)]
  refine h _ rest ⟨hp.settle.flags, hp.settle.names, ?_⟩ (settle_last p) rfl
  have hdepth := hp.settle.depth
  simp only [enter, List.length_cons]
  omega

theorem Refused.readPattern (h : Refused text depth ic) (hdepth : depth < maxDepth) :
    ∃ e, readPattern (caseText ic ++ text) = .error e := by
  obtain ⟨e, he⟩ := h.2 (atCase ic) [] (isOpen_atCase hdepth)
  rw [List.append_nil] at he
  refine ⟨e, ?_⟩
  unfold Regex.readPattern
  rw [readAll_case, he]
  rfl

end Refused

end MockHttp.Regex

namespace MockHttp.Template

open Regex Progress

variable {ic : Bool}

/-! ## Self-contained patterns -/

/-- The pattern of the parameter opens and closes no group, leaves no bracket expression open,
refers to no group, and does not say what a parenthesis before it begins. -/
def Param.IsSelfContained (p : Param) : Prop :=
  Zone.outside.isEnclosed p.pattern = true ∧ p.pattern.head? ≠ some '?'

instance (p : Param) : Decidable p.IsSelfContained :=
  inferInstanceAs (Decidable (_ ∧ _))

/-- The pattern of the parameter and the delimiter between its values are there. -/
structure Param.IsPresent (p : Param) : Prop where
  pattern : p.pattern ≠ []
  delimiter : p.delimiter ≠ []

theorem escapeGroup_ne_nil {body : List Char} (h : body ≠ []) : escapeGroup body ≠ [] := by
  unfold escapeGroup
  split
  · exact absurd rfl h
  · simp
  · simp
  · split <;> simp

theorem isPresent_of_mem_tokenize {delimiters : Delimiters} (h : delimiters.default ≠ [])
    {template : List Char} {p : Param} (hp : p ∈ paramsOf (tokenize delimiters template)) :
    p.IsPresent := by
  obtain ⟨m, lead, i, hm, -, rfl⟩ := exists_marker_of_mem_assemble (mem_paramsOf.mp hp)
  constructor
  · unfold Marker.toParam
    cases hbody : m.body with
    | none => simp [defaultPattern]
    | some body =>
      obtain ⟨rest, hstands⟩ := (division_pieces template).standsBefore hm
      exact escapeGroup_ne_nil (hstands.body body hbody).1
  · unfold Marker.toParam
    cases lead with
    | none => exact h
    | some c => simp

namespace Param

variable {p : Param} {value : Expr}

/-- The pattern of the parameter is read as the expression, wherever it stands between
parentheses. -/
def ReadAs (p : Param) (value : Expr) (ignoreCase : Bool) : Prop :=
  ∃ q, Passes (beginning ignoreCase) p.pattern q ∧ value = .ofAlt q.settle.level.alternatives

theorem IsSelfContained.unmarked (hself : p.IsSelfContained) (rest : List Char) :
    Unmarked (p.pattern ++ ')' :: rest) := by
  refine ⟨fun tail heq => ?_, fun tail => unmarked_close hself.1 rest _⟩
  cases hpattern : p.pattern with
  | nil =>
    rw [hpattern] at heq
    exact absurd (List.cons_eq_cons.mp heq).1 (by decide)
  | cons c cs =>
    rw [hpattern] at heq
    refine hself.2 ?_
    rw [hpattern, (List.cons_eq_cons.mp heq).1]
    rfl

namespace ReadAs

theorem reads (h : p.ReadAs value ic) (hself : p.IsSelfContained) (hp : p.IsPresent) :
    p.Reads value ic := by
  obtain ⟨q, hpasses, rfl⟩ := h
  exact ⟨⟨_, rfl, hpasses.readsBody⟩, hself.unmarked, hpasses.ne_empty hp.pattern, hp.delimiter⟩

theorem isForward (h : p.ReadAs value ic) : value.isForward = true := by
  obtain ⟨q, hpasses, rfl⟩ := h
  exact hpasses.isForward

/-- Whether case counts decides which characters the expression accepts, and nothing else. -/
theorem recase (h : p.ReadAs value ic) (ic' : Bool) :
    ∃ value', p.ReadAs value' ic' ∧ value'.outline = value.outline := by
  obtain ⟨q, hpasses, rfl⟩ := h
  obtain ⟨q', hpasses', houtline⟩ := hpasses.recase_beginning ic'
  exact ⟨_, ⟨q', hpasses', rfl⟩, houtline⟩

end ReadAs

/-- The pattern of a parameter can be read in the parentheses that are written for it, or what is
written for the parameter can be read nowhere. -/
theorem readAs_or_refused (ic : Bool) (hself : p.IsSelfContained) :
    (∃ value, p.ReadAs value ic) ∨ Refused p.expressionText 4 ic := by
  refine (readsBody_or_fails ic hself.1).imp (fun ⟨q, hpasses⟩ => ⟨_, q, hpasses, rfl⟩) fun h => ?_
  have hbody : RefusedBody p.pattern 0 ic := fun q rest hq => h q rest hq.flags
  have hcapture : Refused (captureText p.valueText) 3 ic := by
    unfold valueText
    split
    · have hopens (rest : List Char) : Unmarked (groupText p.pattern ++ groupText
          (escapeLiteral p.delimiter ++ groupText p.pattern) ++ ['*'] ++ ')' :: rest) := by
        refine ⟨fun tail heq => ?_, fun tail heq => ?_⟩
        · exact absurd (List.cons_eq_cons.mp heq).1 (by decide)
        · have hbehind := (List.cons_eq_cons.mp (List.cons_eq_cons.mp heq).2).2
          exact absurd (List.cons_eq_cons.mp hbehind).1 (by decide)
      exact (((hbody.bare.append _).append _).toBody.capture hopens).mono (by decide)
    · exact (hbody.capture hself.unmarked).mono (by decide)
  have hlead : Writes (escapeLiteral p.leadText) 0 3 (fun _ => charExprs p.leadText ic) ic :=
    (writes_literal _).mono (Nat.zero_le _)
  unfold expressionText
  dsimp only
  split
  · split
    · exact ((hlead.refused hcapture).append _).mono (by decide)
    · exact (hlead.refused hcapture).toBody.bare.append _
  · exact (hlead.refused hcapture).mono (by decide)

end Param

/-- The patterns of all parameters can be read in the parentheses that are written for them, or what
is written for the tokens can be read nowhere. -/
theorem readAs_or_refused (ic : Bool) {tokens : List Token}
    (hself : ∀ p ∈ paramsOf tokens, p.IsSelfContained ∧ p.IsPresent) :
    (∀ p ∈ paramsOf tokens, ∃ value, p.ReadAs value ic) ∨
      Refused (tokens.flatMap Token.expressionText) 4 ic := by
  induction tokens with
  | nil => exact .inl fun p hp => absurd hp List.not_mem_nil
  | cons token tokens ih =>
    rw [List.flatMap_cons]
    cases token with
    | literal text =>
      exact (ih hself).imp_right ((writes_literal text).mono (Nat.zero_le 4)).refused
    | param p =>
      obtain ⟨⟨hp, hpresent⟩, hself⟩ := List.forall_mem_cons.mp hself
      rcases p.readAs_or_refused ic hp with ⟨value, hvalue⟩ | hrefused
      · refine (ih hself).imp (fun h => List.forall_mem_cons.mpr ⟨⟨value, hvalue⟩, h⟩) fun h => ?_
        exact (Param.writes_exprsWith (hvalue.reads hp hpresent)).refused h
      · exact .inr (hrefused.append _)

/-! ## Templates that compile -/

namespace MatchFlags

/-- The expression of some tokens, `value` telling what the pattern of each parameter is read
as. -/
def exprWith (flags : MatchFlags) (value : Param → Expr) (tokens : List Token) : Expr :=
  .ofSeq (.anchor .textStart :: (exprsWith value 0 tokens (!flags.sensitive) ++
    flags.endingExprs (endsDelimited {} tokens)))

/-- The pattern of some tokens, `value` telling what the pattern of each parameter is read as. -/
def patternWith (flags : MatchFlags) (value : Param → Expr) (tokens : List Token) : Pattern where
  regex :=
    { source := String.ofList (caseText (!flags.sensitive) ++ expressionOf flags.options tokens)
      expr := flags.exprWith value tokens
      groups := (paramsOf tokens).length }
  params := paramsOf tokens

variable {flags : MatchFlags} {tokens : List Token} {value : Param → Expr}

theorem congruent_isForward (ic : Bool) : Congruent ic ic fun e _ => e.isForward = true where
  char _ := rfl
  ofSeq h := by
    rw [Expr.isForward_ofSeq]
    induction h with
    | nil => rfl
    | cons he _ ih => rw [List.all_cons, he, ih, Bool.and_self]
  group h := h
  iter h := h

theorem isForward_exprWith (flags : MatchFlags)
    (h : ∀ p ∈ paramsOf tokens, (value p).isForward = true) :
    (flags.exprWith value tokens).isForward = true := by
  have htokens : (exprsWith value 0 tokens (!flags.sensitive)).all Expr.isForward = true :=
    List.all_eq_true.mpr (List.forall₂_same.mp ((congruent_isForward _).exprsWith h 0))
  have hending : (flags.endingExprs (endsDelimited {} tokens)).all Expr.isForward = true := by
    rw [List.all_eq_true]
    exact fun e he => isForward_of_steady
      (List.all_eq_true.mp (flags.all_isSteady_endingExprs _) e he)
  rw [exprWith, Expr.isForward_ofSeq, List.all_cons, List.all_append, htokens, hending]
  rfl

theorem params_of_compile {options : Options} {pattern : Pattern}
    (h : compileTokens options tokens = .ok pattern) : pattern.params = paramsOf tokens := by
  obtain ⟨re, -, hpattern⟩ := bind_eq_ok h
  cases hpattern
  rfl

/-- Tokens whose captures can be read compile, unless what they are read as cannot be matched. -/
theorem compileTokens_of_reads
    (h : ∀ p ∈ paramsOf tokens, p.ReadAs (value p) (!flags.sensitive))
    (hself : ∀ p ∈ paramsOf tokens, p.IsSelfContained ∧ p.IsPresent) :
    compileTokens flags.options tokens =
      match runnable [] ((flags.exprWith value tokens).isPlain [])
          (flags.exprWith value tokens) with
      | .ok _ => .ok (flags.patternWith value tokens)
      | .error cause =>
        .error (.invalidExpression (flags.patternWith value tokens).regex.source cause) := by
  have hwrites : Writes (expressionOf flags.options tokens) (paramsOf tokens).length 4 _ _ :=
    flags.writes_expressionOf fun p hp =>
    have hp := mem_paramsOf.mpr hp
    (h p hp).reads (hself p hp).1 (hself p hp).2
  have hread : readExpression (caseText (!flags.sensitive) ++ expressionOf flags.options tokens) =
      match runnable [] ((flags.exprWith value tokens).isPlain [])
          (flags.exprWith value tokens) with
      | .ok _ => .ok (flags.patternWith value tokens).regex
      | .error cause =>
        .error (.invalidExpression (flags.patternWith value tokens).regex.source cause) :=
    readExpression_eq_of_writes hwrites (by decide)
      (flags.isForward_exprWith fun p hp => (h p hp).isForward)
  rw [compileTokens, flagText_eq, hread]
  cases runnable [] ((flags.exprWith value tokens).isPlain []) (flags.exprWith value tokens) with
  | error cause => rfl
  | ok _ => rfl

theorem isPlain_patternWith (flags : MatchFlags)
    (h : ∀ p ∈ paramsOf tokens, (value p).isForward = true) :
    (flags.patternWith value tokens).regex.isPlain = (flags.exprWith value tokens).isPlain [] := by
  show (flags.exprWith value tokens).isPlain (flags.exprWith value tokens).references = _
  rw [references_of_isForward (flags.isForward_exprWith h)]

/-- What compiles has captures that can be read, and is made of what they are read as. -/
theorem reads_of_compile {pattern : Pattern}
    (h : compileTokens flags.options tokens = .ok pattern)
    (hself : ∀ p ∈ paramsOf tokens, p.IsSelfContained ∧ p.IsPresent) :
    ∃ value : Param → Expr, (∀ p ∈ paramsOf tokens, p.ReadAs (value p) (!flags.sensitive)) ∧
      pattern = flags.patternWith value tokens ∧
      runnable [] ((flags.exprWith value tokens).isPlain []) (flags.exprWith value tokens) =
        .ok () := by
  rcases readAs_or_refused (!flags.sensitive) hself with hreads | hrefused
  · have : Inhabited Expr := ⟨.empty⟩
    choose! value hvalue using hreads
    rw [compileTokens_of_reads hvalue hself] at h
    split at h
    · next hrun => exact ⟨value, hvalue, (Except.ok.inj h).symm, hrun⟩
    · cases h
  · have hall : Refused (expressionOf flags.options tokens) 4 (!flags.sensitive) := by
      rw [expressionOf]
      exact ((writes_textStart.mono (Nat.zero_le 4)).refused hrefused).append _
    obtain ⟨e, he⟩ := hall.readPattern (by decide)
    rw [compileTokens, flagText_eq, readExpression, Regex.ofPattern, String.toList_ofList, he] at h
    cases h

end MatchFlags

/-! ## Captures by themselves -/

theorem hereditary_isPlain (asked : List Nat) : Hereditary fun e => e.isPlain asked = true where
  seq h := Bool.and_eq_true _ _ ▸ h
  group h := (Bool.and_eq_true _ _ ▸ h : _ ∧ _).2
  iter h := h

theorem hereditary_boundsOrdered : Hereditary fun e => e.boundsOrdered = true where
  seq h := Bool.and_eq_true _ _ ▸ h
  group h := h
  iter h := (Bool.and_eq_true _ _ ▸ h : _ ∧ _).2

/-- What is matched at once must have its bounds in order. -/
theorem runnable_of_isPlain {asked : List Nat} {e : Expr} (he : e.isPlain asked = true) :
    runnable asked true e = if e.boundsOrdered then .ok () else .error .repeatBounds := by
  unfold runnable
  rw [he]
  rfl

theorem hereditary_runnable (asked : List Nat) :
    Hereditary fun e => runnable asked false e = .ok () where
  seq {a b} h := by
    have hseq : runnable asked false (.seq a b) =
        runnable asked false a >>= fun _ => runnable asked false b := rfl
    obtain ⟨_, ha, hb⟩ := bind_eq_ok (hseq ▸ h)
    exact ⟨ha, hb⟩
  group h := h
  iter h := h

namespace Param

variable {p : Param} {value : Expr}

def aloneExpr (value : Expr) : Expr :=
  .ofSeq [.anchor .textStart, value, .anchor .textEnd]

theorem Reads.writes_alone (h : p.Reads value ic) :
    Writes p.valueExpression 0 1 (fun _ => [.anchor .textStart, value, .anchor .textEnd]) ic :=
  ((writes_textStart.mono (Nat.zero_le 1)).append h.bare.toWrites).append
    (writes_textEnd.mono (Nat.zero_le 1))

theorem isPlain_aloneExpr (value : Expr) : (aloneExpr value).isPlain [] = value.isPlain [] := by
  simp [aloneExpr, isPlain_ofSeq, Expr.isPlain, Anchor.isPlain]

theorem runnable_aloneExpr (value : Expr) :
    runnable [] (value.isPlain []) (aloneExpr value) =
      if value.isPlain [] then (if value.boundsOrdered then .ok () else .error .repeatBounds)
      else runnable [] false value := by
  have hplain := isPlain_aloneExpr value
  cases h : value.isPlain [] with
  | true =>
    rw [h] at hplain
    have hbounds : (aloneExpr value).boundsOrdered = value.boundsOrdered := by
      simp [aloneExpr, Expr.ofSeq, Expr.boundsOrdered]
    rw [runnable_of_isPlain hplain, hbounds]
    rfl
  | false =>
    show (runnable [] false value >>= fun _ => Except.ok ()) = runnable [] false value
    cases runnable [] false value with
    | error e => rfl
    | ok _ => rfl

theorem isForward_aloneExpr (h : value.isForward = true) : (aloneExpr value).isForward = true := by
  simp [aloneExpr, Expr.ofSeq, Expr.isForward, h]

theorem outline_aloneExpr {value' : Expr} (h : value'.outline = value.outline) :
    (aloneExpr value').outline = (aloneExpr value).outline := by
  simp [aloneExpr, Expr.ofSeq, Expr.outline, h]

/-- By itself a capture is matched like the expression that it is read as in the template. -/
theorem ReadAs.readExpression_value (h : p.ReadAs value ic) (hself : p.IsSelfContained)
    (hp : p.IsPresent) :
    ∃ re : Regex, re.isPlain = value.isPlain [] ∧
      readExpression p.valueExpression =
        match runnable [] (value.isPlain []) (aloneExpr value) with
        | .ok _ => .ok re
        | .error cause => .error (.invalidExpression (String.ofList p.valueExpression) cause) := by
  -- case counts here, so it is read as another expression of the same outline
  obtain ⟨e, he, houtline⟩ := h.recase false
  have hforward := isForward_aloneExpr he.isForward
  have halone := outline_aloneExpr houtline
  have hplain : (aloneExpr e).isPlain [] = value.isPlain [] := by
    rw [← Expr.isPlain_outline, halone, Expr.isPlain_outline, isPlain_aloneExpr]
  have hcase : caseText false ++ p.valueExpression = p.valueExpression := List.nil_append _
  have hread := readExpression_eq_of_writes (he.reads hself hp).writes_alone (by decide) hforward
  rw [hcase] at hread
  refine ⟨⟨String.ofList p.valueExpression, aloneExpr e, 0⟩, ?_, hread.trans ?_⟩
  · show (aloneExpr e).isPlain (aloneExpr e).references = _
    rw [references_of_isForward hforward, hplain]
  · have hrunnable : runnable [] ((aloneExpr e).isPlain []) (aloneExpr e) =
        runnable [] (value.isPlain []) (aloneExpr value) := by
      rw [hplain, ← runnable_outline, halone, runnable_outline]
    rw [← hrunnable]
    rfl

end Param

namespace MatchFlags

variable {flags : MatchFlags} {tokens : List Token} {value : Param → Expr}

theorem of_exprWith {P : Expr → Prop} (hP : Hereditary P) (h : P (flags.exprWith value tokens)) :
    ∀ p ∈ paramsOf tokens, P (value p) := by
  have htokens : ∀ e ∈ exprsWith value 0 tokens (!flags.sensitive), P e := fun e he =>
    hP.ofSeq h e (List.mem_cons_of_mem _ (List.mem_append_left _ he))
  exact hP.of_exprsWith htokens

/-- Where the expression of a template can be matched, those of its captures can be, by themselves;
unless a repetition asks for more than it allows, which is not noticed where there is a step
limit. -/
theorem runnable_of_exprWith
    (h : runnable [] ((flags.exprWith value tokens).isPlain []) (flags.exprWith value tokens) =
      .ok ()) {p : Param} (hp : p ∈ paramsOf tokens) :
    runnable [] ((value p).isPlain []) (Param.aloneExpr (value p)) = .ok () ∨
      (flags.exprWith value tokens).isPlain [] = false ∧
        runnable [] ((value p).isPlain []) (Param.aloneExpr (value p)) = .error .repeatBounds := by
  rw [Param.runnable_aloneExpr]
  cases htemplate : (flags.exprWith value tokens).isPlain [] with
  | true =>
    rw [htemplate, runnable_of_isPlain htemplate] at h
    have hordered : (flags.exprWith value tokens).boundsOrdered = true := by
      by_contra hne
      rw [if_neg hne] at h
      cases h
    rw [of_exprWith (hereditary_isPlain []) htemplate p hp,
      of_exprWith hereditary_boundsOrdered hordered p hp]
    exact .inl rfl
  | false =>
    rw [htemplate] at h
    rw [of_exprWith (hereditary_runnable []) h p hp]
    cases (value p).isPlain [] with
    | false => exact .inl rfl
    | true =>
      cases (value p).boundsOrdered with
      | true => exact .inl rfl
      | false => exact .inr ⟨rfl, rfl⟩

/-- A capture of a template that compiles can be read by itself, and is then matched without a step
limit if the template is; unless a repetition in it asks for more than it allows, which is not
noticed in a template that is matched within a step limit. -/
theorem readExpression_of_compile {pattern : Pattern}
    (h : compileTokens flags.options tokens = .ok pattern)
    (hself : ∀ p ∈ paramsOf tokens, p.IsSelfContained ∧ p.IsPresent) {p : Param}
    (hp : p ∈ paramsOf tokens) :
    (∃ re, readExpression p.valueExpression = .ok re ∧
        (pattern.regex.isPlain = true → re.isPlain = true)) ∨
      pattern.regex.isPlain = false ∧ readExpression p.valueExpression =
        .error (.invalidExpression (String.ofList p.valueExpression) .repeatBounds) := by
  obtain ⟨value, hvalue, rfl, hrun⟩ := reads_of_compile h hself
  obtain ⟨re, hplain, hread⟩ := (hvalue p hp).readExpression_value (hself p hp).1 (hself p hp).2
  rw [flags.isPlain_patternWith fun p hp => (hvalue p hp).isForward]
  rcases runnable_of_exprWith hrun hp with halone | ⟨htemplate, halone⟩
  · rw [halone] at hread
    exact .inl ⟨re, hread, fun h => hplain.trans (of_exprWith (hereditary_isPlain []) h p hp)⟩
  · rw [halone] at hread
    exact .inr ⟨htemplate, hread⟩

end MatchFlags

/-! ## Values in the places of parameters -/

/-- What can go wrong when values are put in the places of parameters: a value is missing, is one
too many or does not match. Only where the template is matched within a step limit, which is what
`limited` says, the bounds of a repetition can be out of order, or a value stay undecided. -/
def PatternError.IsExpected (limited : Bool) : PatternError → Prop
  | missingParam _ | unexpectedRepeat _ | invalidParam _ _ _ => True
  | invalidExpression _ cause => limited = true ∧ cause = .repeatBounds
  | undecidedValue _ _ => limited = true
  | gaveUp _ => False

namespace Param

variable {p : Param} {limited : Bool}

theorem isExpected_of_write
    (h : ∀ value e, p.admits value = .error e → e.IsExpected limited) (before : List Char)
    (values : List (List Char)) {e : PatternError} (he : p.write before values = .error e) :
    e.IsExpected limited := by
  induction values generalizing before with
  | nil => cases he
  | cons value rest ih =>
    rw [write] at he
    rcases bind_eq_error he with hadmits | ⟨admitted, -, he⟩
    · exact h value e hadmits
    · split at he
      · rcases bind_eq_error he with hrest | ⟨_, -, he⟩
        · exact ih _ hrest
        · cases he
      · cases he
        trivial

theorem isExpected_of_fill
    (h : ∀ value e, p.admits value = .error e → e.IsExpected limited)
    (values : List (List Char)) {e : PatternError} (he : p.fill values = .error e) :
    e.IsExpected limited := by
  unfold fill at he
  split at he
  · split at he
    · cases he
    · cases he
      trivial
  · split at he
    · cases he
      trivial
    · exact isExpected_of_write h _ _ he

end Param

theorem isExpected_of_pathOf {limited : Bool} {tokens : List Token}
    (h : ∀ p ∈ paramsOf tokens, ∀ value e, p.admits value = .error e → e.IsExpected limited)
    (values : Values) {e : PatternError} (he : pathOf values tokens = .error e) :
    e.IsExpected limited := by
  induction tokens with
  | nil => cases he
  | cons token tokens ih =>
    cases token with
    | literal text =>
      rw [pathOf] at he
      rcases bind_eq_error he with hrest | ⟨_, -, he⟩
      · exact ih h hrest
      · cases he
    | param p =>
      obtain ⟨hp, h⟩ := List.forall_mem_cons.mp h
      rw [pathOf] at he
      rcases bind_eq_error he with hpart | ⟨_, -, he⟩
      · exact Param.isExpected_of_fill hp _ hpart
      · rcases bind_eq_error he with hrest | ⟨_, -, he⟩
        · exact ih h hrest
        · cases he

/-- A template whose captures are self-contained and that compiles is a template that values can be
put into: whatever they are, nothing but the values can be wrong, unless the expression of the
template is matched within a step limit. -/
theorem MatchFlags.pathOf_of_compile (flags : MatchFlags) {template : List Char} {pattern : Pattern}
    (h : (Source.template template).compile flags.options = .ok pattern)
    (hself : ∀ p ∈ pattern.params, p.IsSelfContained) (values : Values) {e : PatternError}
    (he : pathOf values (tokenize {} template) = .error e) :
    e.IsExpected (!pattern.regex.isPlain) := by
  have hcompile : compileTokens flags.options (tokenize {} template) = .ok pattern := h
  rw [params_of_compile hcompile] at hself
  have hpresent (p : Param) (hp : p ∈ paramsOf (tokenize {} template)) :
      p.IsSelfContained ∧ p.IsPresent := ⟨hself p hp, isPresent_of_mem_tokenize (by decide) hp⟩
  refine isExpected_of_pathOf (fun p hp value e he => ?_) values he
  unfold Param.admits at he
  rcases readExpression_of_compile hcompile hpresent hp with ⟨re, hre, hplain⟩ | ⟨hlimited, hre⟩
  · rw [hre] at he
    cases htemplate : pattern.regex.isPlain with
    | true =>
      -- a plain expression gives an answer
      simp only [Except.bind, bind, Regex.isMatch, Regex.find, Regex.findWithin, hplain htemplate,
        if_true] at he
      cases he
    | false =>
      dsimp only [Except.bind, bind] at he
      split at he
      · cases he
      · cases he
        rfl
  · rw [hre] at he
    cases he
    exact ⟨by rw [hlimited]; rfl, rfl⟩

/-- The template `/:a([a-c]+)/x` and a value that does not match. -/
theorem pathOf_of_compile_letters :
    ∃ pattern, (Source.template "/:a([a-c]+)/x".toList).compile
        (⟨true, false, false⟩ : MatchFlags).options = .ok pattern ∧
      (∀ p ∈ pattern.params, p.IsSelfContained) ∧
      pathOf [(.named "a", [['d']])] (tokenize {} "/:a([a-c]+)/x".toList) =
        .error (.invalidParam "a" "[a-c]+" "d") ∧
      (PatternError.invalidParam "a" "[a-c]+" "d").IsExpected (!pattern.regex.isPlain) := by
  have hok : ((Source.template "/:a([a-c]+)/x".toList).compile
      (⟨true, false, false⟩ : MatchFlags).options).isOk = true := by decide +kernel
  have hvalue : pathOf [(.named "a", [['d']])] (tokenize {} "/:a([a-c]+)/x".toList) =
      .error (.invalidParam "a" "[a-c]+" "d") := by decide +kernel
  cases h : (Source.template "/:a([a-c]+)/x".toList).compile
      (⟨true, false, false⟩ : MatchFlags).options with
  | error e =>
    rw [h] at hok
    cases hok
  | ok pattern =>
    have hself : ∀ p ∈ pattern.params, p.IsSelfContained := by
      rw [MatchFlags.params_of_compile h]
      have htokens : tokenize {} "/:a([a-c]+)/x".toList =
          [.param ⟨.named "a", some '/', ['/'], "[a-c]+".toList, false, false, false⟩,
            .literal ['/', 'x']] := by decide +kernel
      show ∀ p ∈ paramsOf (tokenize {} "/:a([a-c]+)/x".toList), p.IsSelfContained
      rw [htokens]
      exact List.forall_mem_singleton.mpr (by decide)
    exact ⟨pattern, rfl, hself, hvalue, MatchFlags.pathOf_of_compile _ h hself _ hvalue⟩

/-- A pattern that says what the parenthesis before it begins: the template compiles, and no value
can be compared with the pattern. -/
theorem pathOf_questionMark :
    ((Source.template "/:a(?:b)".toList).compile {}).isOk = true ∧
      pathOf [(.named "a", [['b']])] (tokenize {} "/:a(?:b)".toList) =
        .error (.invalidExpression "^(?:?:b)$" .nothingToRepeat) := by
  constructor <;> decide +kernel

end MockHttp.Template
