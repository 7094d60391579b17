import Mathlib.Data.List.Forall2
import MockHttp.Proofs.Regex.Writing
import MockHttp.Template.Expression

/-!
# What captures write

The text of a parameter puts its pattern between parentheses. Whatever the pattern is read as there,
the parameter writes it as a group, after the delimiter that the parameter takes along, and once
more after each delimiter between values if there may be several.

Results:
1. `Param.writes_capture`: the values of a parameter write one remembered group.
2. `writes_exprsWith`: tokens write their literal texts and what their captures are read as.
3. `Hereditary.of_exprsWith`: what holds of the expressions of tokens holds of their captures.
4. `Congruent.exprsWith`: captures that are related make related expressions of the tokens.
-/

namespace MockHttp.Regex

/-- Two pieces or more can be repeated together, whatever they are. -/
theorem repeatable_ofSeq {es : List Expr} (hes : 1 < es.length) :
    Progress.repeatable (.ofSeq es) = true := by
  match es with
  | _ :: _ :: _ => rfl

/-- Behind other pieces or not, a piece that can be repeated can be. -/
theorem repeatable_ofSeq_append {es : List Expr} {e : Expr}
    (he : Progress.repeatable e = true) : Progress.repeatable (.ofSeq (es ++ [e])) = true := by
  cases es with
  | nil => exact he
  | cons a es => exact repeatable_ofSeq (by simp)

theorem ne_empty_of_repeatable {e : Expr} (he : Progress.repeatable e = true) : e ≠ .empty := by
  rintro rfl
  exact absurd he (by decide)

end MockHttp.Regex

namespace MockHttp.Template

open Regex

variable {ic : Bool}

namespace Param

/-- Wherever it stands between parentheses, the pattern of the parameter is read as an expression;
and the values of the parameter have a delimiter between them. -/
structure Reads (p : Param) (value : Expr) (ignoreCase : Bool) : Prop where
  body : ∃ alts, value = .ofAlt alts ∧ ReadsBody p.pattern 0 0 (fun _ => alts) ignoreCase
  opens : ∀ rest, Unmarked (p.pattern ++ ')' :: rest)
  ne_empty : value ≠ .empty
  delimiter : p.delimiter ≠ []

/-- The expressions of the delimiter and a value after it, `value` being that of a value. -/
def nextWith (p : Param) (value : Expr) (ignoreCase : Bool) : List Expr :=
  charExprs p.delimiter ignoreCase ++ [value]

/-- The expressions of all values, one after the other. -/
def valuesWith (p : Param) (value : Expr) (ignoreCase : Bool) : List Expr :=
  if p.repeated then [value, .iter (.ofSeq (p.nextWith value ignoreCase)) 0 none true]
  else [value]

/-- The expressions that a parameter writes after `g` groups. -/
def exprsWith (p : Param) (value : Expr) (g : Nat) (ignoreCase : Bool) : List Expr :=
  let lead := charExprs p.leadText ignoreCase
  let values := .group (g + 1) (.ofSeq (p.valuesWith value ignoreCase))
  if p.optional then
    if p.inSegment then lead ++ [.iter values 0 (some 1) true]
    else [.iter (.ofSeq (lead ++ [values])) 0 (some 1) true]
  else lead ++ [values]

variable {p : Param} {value : Expr}

namespace Reads

theorem bare (h : p.Reads value ic) : WritesOne (groupText p.pattern) 0 1 (fun _ => value) ic := by
  obtain ⟨alts, rfl, hbody⟩ := h.body
  exact hbody.bare fun _ => h.ne_empty

/-- What a parameter with several values writes. -/
theorem repeated (h : p.Reads value ic) :
    Writes (groupText p.pattern ++ groupText (escapeLiteral p.delimiter ++ groupText p.pattern) ++
        ['*']) 0 2
      (fun _ => [value, .iter (.ofSeq (p.nextWith value ic)) 0 none true]) ic := by
  have hnext : Writes (escapeLiteral p.delimiter ++ groupText p.pattern) 0 1
      (fun _ => p.nextWith value ic) ic :=
    ((writes_literal p.delimiter).mono (Nat.zero_le 1)).append h.bare.toWrites
  have hrepeatable : Progress.repeatable (.ofSeq (p.nextWith value ic)) = true :=
    repeatable_ofSeq (by simpa [nextWith, charExprs] using List.length_pos_iff.mpr h.delimiter)
  have hmore := (hnext.toBody.bare fun _ => ne_empty_of_repeatable hrepeatable).star
    fun _ => hrepeatable
  rw [List.append_assoc]
  exact (h.bare.toWrites.mono (Nat.le_succ 1)).append hmore

end Reads

/-- The values of a parameter are one remembered group. -/
theorem writes_capture (h : p.Reads value ic) :
    WritesOne (captureText p.valueText) 1 3
      (fun g => .group (g + 1) (.ofSeq (p.valuesWith value ic))) ic := by
  unfold valueText valuesWith
  split
  · exact h.repeated.toBody.capture
  · obtain ⟨alts, rfl, hbody⟩ := h.body
    exact (hbody.mono (Nat.zero_le 2)).capture h.opens

theorem writes_exprsWith (h : p.Reads value ic) :
    Writes p.expressionText 1 4 (fun g => p.exprsWith value g ic) ic := by
  have hlead : Writes (escapeLiteral p.leadText) 0 3 (fun _ => charExprs p.leadText ic) ic :=
    (writes_literal _).mono (Nat.zero_le _)
  have hgroup := writes_capture h
  unfold expressionText exprsWith
  dsimp only
  split
  · split
    · rw [List.append_assoc]
      exact (hlead.append (hgroup.optional fun _ => rfl)).mono (Nat.le_succ 3)
    · have hboth := hlead.append hgroup.toWrites
      have hrepeatable (g : Nat) : Progress.repeatable (.ofSeq (charExprs p.leadText ic ++
          [.group (g + 1) (.ofSeq (p.valuesWith value ic))])) = true := repeatable_ofSeq_append rfl
      exact (hboth.toBody.bare fun g => ne_empty_of_repeatable (hrepeatable g)).optional hrepeatable
  · exact (hlead.append hgroup.toWrites).mono (Nat.le_succ 3)

end Param

/-- The expressions that some tokens write after `g` groups, `value` telling what the pattern of
each parameter is read as. -/
def exprsWith (value : Param → Expr) (g : Nat) (tokens : List Token) (ignoreCase : Bool) :
    List Expr :=
  match tokens with
  | [] => []
  | .literal text :: tokens => charExprs text ignoreCase ++ exprsWith value g tokens ignoreCase
  | .param p :: tokens =>
    p.exprsWith (value p) g ignoreCase ++ exprsWith value (g + 1) tokens ignoreCase

theorem writes_exprsWith {value : Param → Expr} {tokens : List Token}
    (h : ∀ p, Token.param p ∈ tokens → p.Reads (value p) ic) :
    Writes (tokens.flatMap Token.expressionText) (paramsOf tokens).length 4
      (fun g => exprsWith value g tokens ic) ic := by
  induction tokens with
  | nil => exact .nil
  | cons token tokens ih =>
    have htokens := ih fun p hp => h p (List.mem_cons_of_mem _ hp)
    rw [List.flatMap_cons]
    cases token with
    | literal text =>
      have hboth := ((writes_literal text).mono (Nat.zero_le 4)).append htokens
      rw [Nat.zero_add] at hboth
      exact hboth
    | param p =>
      have hboth := (Param.writes_exprsWith (h p List.mem_cons_self)).append htokens
      rw [Nat.add_comm] at hboth
      exact hboth

/-- The property goes over from an expression to those it is put together from. -/
structure Hereditary (P : Expr → Prop) : Prop where
  seq : ∀ {a b}, P (.seq a b) → P a ∧ P b
  group : ∀ {n e}, P (.group n e) → P e
  iter : ∀ {e lo hi greedy}, P (.iter e lo hi greedy) → P e

namespace Hereditary

variable {P : Expr → Prop}

theorem ofSeq (hP : Hereditary P) {es : List Expr} (h : P (.ofSeq es)) : ∀ e ∈ es, P e := by
  induction es with
  | nil => exact fun e he => absurd he List.not_mem_nil
  | cons e es ih =>
    cases es with
    | nil => exact List.forall_mem_singleton.mpr h
    | cons a rest =>
      obtain ⟨he, hrest⟩ := hP.seq h
      exact List.forall_mem_cons.mpr ⟨he, ih hrest⟩

theorem of_paramExprs (hP : Hereditary P) {p : Param} {value : Expr} {g : Nat}
    (h : ∀ e ∈ p.exprsWith value g ic, P e) : P value := by
  have hvalues (hgroup : P (.group (g + 1) (.ofSeq (p.valuesWith value ic)))) : P value := by
    refine hP.ofSeq (hP.group hgroup) value ?_
    unfold Param.valuesWith
    split <;> simp
  unfold Param.exprsWith at h
  dsimp only at h
  split at h
  · split at h
    · exact hvalues (hP.iter (h _ (List.mem_append_right _ List.mem_cons_self)))
    · exact hvalues (hP.ofSeq (hP.iter (h _ List.mem_cons_self)) _
        (List.mem_append_right _ List.mem_cons_self))
  · exact hvalues (h _ (List.mem_append_right _ List.mem_cons_self))

/-- What holds of the expressions of tokens holds of what their captures are read as. -/
theorem of_exprsWith (hP : Hereditary P) {value : Param → Expr} {tokens : List Token} {g : Nat}
    (h : ∀ e ∈ exprsWith value g tokens ic, P e) : ∀ p ∈ paramsOf tokens, P (value p) := by
  induction tokens generalizing g with
  | nil => exact fun p hp => absurd hp List.not_mem_nil
  | cons token tokens ih =>
    cases token with
    | literal text => exact ih fun e he => h e (List.mem_append_right _ he)
    | param p =>
      exact List.forall_mem_cons.mpr ⟨hP.of_paramExprs fun e he => h e (List.mem_append_left _ he),
        ih fun e he => h e (List.mem_append_right _ he)⟩

end Hereditary

/-- The relation goes over from expressions to what tokens put together from them, `ic` and `ic'`
telling on either side whether case is ignored. -/
structure Congruent (ic ic' : Bool) (R : Expr → Expr → Prop) : Prop where
  char : ∀ c, R (.char c (ic && !isOperator c)) (.char c (ic' && !isOperator c))
  ofSeq : ∀ {es es'}, List.Forall₂ R es es' → R (.ofSeq es) (.ofSeq es')
  group : ∀ {n e e'}, R e e' → R (.group n e) (.group n e')
  iter : ∀ {e e' hi}, R e e' → R (.iter e 0 hi true) (.iter e' 0 hi true)

namespace Congruent

variable {ic' : Bool} {R : Expr → Expr → Prop}

theorem charExprs (hR : Congruent ic ic' R) (text : List Char) :
    List.Forall₂ R (charExprs text ic) (charExprs text ic') := by
  rw [Regex.charExprs, Regex.charExprs, List.forall₂_map_left_iff, List.forall₂_map_right_iff]
  exact List.forall₂_same.mpr fun c _ => hR.char c

theorem paramExprs (hR : Congruent ic ic' R) (p : Param) (g : Nat) {value value' : Expr}
    (h : R value value') : List.Forall₂ R (p.exprsWith value g ic) (p.exprsWith value' g ic') := by
  have hlead := hR.charExprs p.leadText
  have hnext : R (.ofSeq (p.nextWith value ic)) (.ofSeq (p.nextWith value' ic')) :=
    hR.ofSeq (List.rel_append (hR.charExprs p.delimiter) (.cons h .nil))
  have hvalues : List.Forall₂ R (p.valuesWith value ic) (p.valuesWith value' ic') := by
    unfold Param.valuesWith
    split
    · exact .cons h (.cons (hR.iter hnext) .nil)
    · exact .cons h .nil
  have hgroup : R (.group (g + 1) (.ofSeq (p.valuesWith value ic)))
      (.group (g + 1) (.ofSeq (p.valuesWith value' ic'))) := hR.group (hR.ofSeq hvalues)
  unfold Param.exprsWith
  dsimp only
  split
  · split
    · exact List.rel_append hlead (.cons (hR.iter hgroup) .nil)
    · exact .cons (hR.iter (hR.ofSeq (List.rel_append hlead (.cons hgroup .nil)))) .nil
  · exact List.rel_append hlead (.cons hgroup .nil)

/-- Where captures are related one by one, so are the expressions of the tokens. -/
theorem exprsWith (hR : Congruent ic ic' R) {value value' : Param → Expr} {tokens : List Token}
    (h : ∀ p ∈ paramsOf tokens, R (value p) (value' p)) (g : Nat) :
    List.Forall₂ R (exprsWith value g tokens ic) (exprsWith value' g tokens ic') := by
  induction tokens generalizing g with
  | nil => exact .nil
  | cons token tokens ih =>
    cases token with
    | literal text => exact List.rel_append (hR.charExprs text) (ih h g)
    | param p =>
      obtain ⟨hp, h⟩ := List.forall_mem_cons.mp h
      exact List.rel_append (hR.paramExprs p g hp) (ih h (g + 1))

end Congruent

end MockHttp.Template
