import MockHttp.Proofs.Regex.Renumber
import MockHttp.Proofs.Template.Splitting

/-!
# Templates as branches

A template is compiled to an expression by itself, or to one branch among those of other templates.
The branch is the same expression, only that the groups of the templates before it have taken the
first numbers. What is said here holds whether case counts or not.

Results:
1. `writes_branch`: the text of a template writes its branch.
2. `raise_branch`, `groupNumbers_branch`: the numbers of the groups of a branch.
3. `isQuick_branch`, `rest_of_mem_branch`: a branch that must reach the end of a text is matched
   without a step limit, and reaches it.
-/

namespace MockHttp.Regex

/-- The expression is steady, and no step limit applies to it. -/
def Expr.isQuick (e : Expr) : Bool := e.isSteady && e.isPlain []

namespace Expr

theorem isQuick_ofSeq (es : List Expr) : (ofSeq es).isQuick = es.all isQuick := by
  rw [isQuick, Template.isSteady_ofSeq, Template.isPlain_ofSeq, Bool.eq_iff_iff]
  simp only [isQuick, Bool.and_eq_true, List.all_eq_true]
  exact ⟨fun h e he => ⟨h.1 e he, h.2 e he⟩,
    fun h => ⟨fun e he => (h e he).1, fun e he => (h e he).2⟩⟩

theorem isSteady_ofAlt (es : List Expr) : (ofAlt es).isSteady = es.all isSteady := by
  induction es with
  | nil => rfl
  | cons e es ih =>
    cases es with
    | nil => exact (Bool.and_true _).symm
    | cons a rest => exact congrArg (e.isSteady && ·) ih

theorem isQuick_ofAlt (es : List Expr) : (ofAlt es).isQuick = es.all isQuick := by
  induction es with
  | nil => rfl
  | cons e es ih =>
    cases es with
    | nil => exact (Bool.and_true _).symm
    | cons a rest =>
      have halt : ofAlt (e :: a :: rest) = alt e (ofAlt (a :: rest)) := rfl
      rw [List.all_cons, ← ih, halt, isQuick, isQuick, isQuick, isSteady, isPlain]
      ac_rfl

theorem isSteady_of_isQuick {e : Expr} (he : e.isQuick = true) : e.isSteady = true :=
  (Bool.and_eq_true _ _ ▸ he : _ ∧ _).1

theorem isQuick_group (n : Nat) (e : Expr) : (group n e).isQuick = e.isQuick := by
  simp [isQuick, isSteady, isPlain]

theorem isQuick_optional (e : Expr) (greedy : Bool) :
    (iter e 0 (some 1) greedy).isQuick = e.isQuick := by
  simp [isQuick, isSteady, isPlain]

theorem isQuick_unbounded {e : Expr} (he : e.consumes = true) (lo : Nat) (greedy : Bool) :
    (iter e lo none greedy).isQuick = e.isQuick := by
  simp [isQuick, isSteady, isPlain, he]

end Expr

/-- A search to which no step limit applies is never given up. -/
theorem find_of_isQuick {re : Regex} (h : re.expr.isQuick = true) (text : List Char) :
    re.find text = .ok ((re.expr.firstWay (.start text)).map re.foundAt) := by
  have hsteady := Expr.isSteady_of_isQuick h
  have hplain : re.expr.isPlain [] = true := (Bool.and_eq_true _ _ ▸ h : _ ∧ _).2
  exact find_of_plain hsteady (Template.isPlain_of_steady hsteady hplain) text

/-- Where the end of the text is asked for, nothing is left. -/
theorem rest_of_mem_textEnd {es : List Expr} {t u : Thread}
    (hu : u ∈ (Expr.ofSeq (es ++ [.anchor .textEnd])).ways t) : u.place.rest = [] := by
  rw [Expr.ways_ofSeq_append] at hu
  obtain ⟨m, -, hu⟩ := List.mem_flatMap.mp hu
  simp only [Expr.ofSeq, Expr.ways] at hu
  split at hu
  · next hend =>
    obtain rfl := List.mem_singleton.mp hu
    simpa [Place.satisfies] using hend
  · exact absurd hu List.not_mem_nil

end MockHttp.Regex

namespace MockHttp.Template

open Regex

/-! ## The expressions of tokens -/

variable {ic : Bool}

theorem all_isQuick_charExprs (text : List Char) (ic : Bool) :
    (charExprs text ic).all Expr.isQuick = true := by
  rw [charExprs, List.all_map, List.all_eq_true]
  exact fun _ _ => rfl

theorem map_raise_charExprs (k : Nat) (text : List Char) (ic : Bool) :
    (charExprs text ic).map (Expr.raise k) = charExprs text ic := by
  rw [charExprs, List.map_map]
  rfl

namespace Param

theorem isQuick_value (p : Param) (ic : Bool) : (Expr.ofSeq (p.valueExprs ic)).isQuick = true := by
  have hone : (p.valueExpr ic).isQuick = true := rfl
  have hnext : (Expr.ofSeq (p.nextExprs ic)).isQuick = true := by
    rw [Expr.isQuick_ofSeq, nextExprs, List.all_append, all_isQuick_charExprs]
    rfl
  rw [Expr.isQuick_ofSeq, valueExprs]
  split
  · simp [Expr.isQuick_unbounded (p.consumes_nextExprs ic), hone, hnext]
  · simp [hone]

theorem raise_value (k : Nat) (p : Param) (ic : Bool) :
    (Expr.ofSeq (p.valueExprs ic)).raise k = .ofSeq (p.valueExprs ic) :=
  Expr.raise_eq_self (Expr.isSteady_of_isQuick (p.isQuick_value ic)) (p.groupNumbers_valueExprs ic)

theorem all_isQuick_exprs (p : Param) (g : Nat) (ic : Bool) :
    (p.exprs g ic).all Expr.isQuick = true := by
  have hlead := all_isQuick_charExprs p.leadText ic
  have hvalue := p.isQuick_value ic
  unfold exprs
  dsimp only
  split
  · split
    · simp [hlead, hvalue, Expr.isQuick_optional, Expr.isQuick_group]
    · simp [hlead, hvalue, Expr.isQuick_optional, Expr.isQuick_group, Expr.isQuick_ofSeq]
  · simp [hlead, hvalue, Expr.isQuick_group]

/-- A parameter has one group. -/
theorem groupNumbers_exprs (p : Param) (g : Nat) (ic : Bool) :
    (p.exprs g ic).flatMap Expr.groupNumbers = [g + 1] := by
  have hlead := groupNumbers_charExprs p.leadText ic
  have hvalue := p.groupNumbers_valueExprs ic
  rw [groupNumbers_ofSeq] at hlead
  unfold exprs
  dsimp only
  split
  · split
    · rw [List.flatMap_append, hlead]
      simp [Expr.groupNumbers, hvalue]
    · rw [List.flatMap_singleton, Expr.groupNumbers, groupNumbers_ofSeq, List.flatMap_append, hlead]
      simp [Expr.groupNumbers, hvalue]
  · rw [List.flatMap_append, hlead]
    simp [Expr.groupNumbers, hvalue]

theorem exprs_add (p : Param) (g k : Nat) (ic : Bool) :
    p.exprs (g + k) ic = (p.exprs g ic).map (Expr.raise k) := by
  have hlead := map_raise_charExprs k p.leadText ic
  have hgroup : Expr.raise k (.group (g + 1) (.ofSeq (p.valueExprs ic))) =
      .group (g + k + 1) (.ofSeq (p.valueExprs ic)) := by
    rw [Expr.raise, raise_value, Nat.add_right_comm]
  unfold exprs
  dsimp only
  split
  · split
    · rw [List.map_append, hlead, List.map_singleton, Expr.raise, hgroup]
    · rw [List.map_singleton, Expr.raise, Expr.raise_ofSeq, List.map_append, hlead,
        List.map_singleton, hgroup]
  · rw [List.map_append, hlead, List.map_singleton, hgroup]

end Param

theorem all_isQuick_exprsOf (g : Nat) (tokens : List Token) (ic : Bool) :
    (exprsOf g tokens ic).all Expr.isQuick = true := by
  induction tokens generalizing g with
  | nil => rfl
  | cons token tokens ih =>
    cases token with
    | literal text => rw [exprsOf, List.all_append, all_isQuick_charExprs, ih, Bool.and_self]
    | param p => rw [exprsOf, List.all_append, p.all_isQuick_exprs, ih, Bool.and_self]

/-- The groups are numbered in the order of the parameters. -/
theorem groupNumbers_exprsOf (g : Nat) (tokens : List Token) (ic : Bool) :
    (exprsOf g tokens ic).flatMap Expr.groupNumbers =
      List.range' (g + 1) (paramsOf tokens).length := by
  induction tokens generalizing g with
  | nil => rfl
  | cons token tokens ih =>
    cases token with
    | literal text =>
      have htext := groupNumbers_charExprs text ic
      rw [groupNumbers_ofSeq] at htext
      rw [exprsOf, List.flatMap_append, htext, ih]
      rfl
    | param p =>
      rw [exprsOf, List.flatMap_append, p.groupNumbers_exprs, ih]
      rfl

theorem exprsOf_add (g k : Nat) (tokens : List Token) (ic : Bool) :
    exprsOf (g + k) tokens ic = (exprsOf g tokens ic).map (Expr.raise k) := by
  induction tokens generalizing g with
  | nil => rfl
  | cons token tokens ih =>
    cases token with
    | literal text => rw [exprsOf, exprsOf, List.map_append, map_raise_charExprs, ih]
    | param p =>
      rw [exprsOf, exprsOf, List.map_append, p.exprs_add, ← ih (g + 1), Nat.add_right_comm]

/-! ## Branches -/

namespace MatchFlags

/-- The expressions of how a match ends, `delimited` saying that the tokens end in a delimiter. -/
def endingExprs (flags : MatchFlags) (delimited : Bool) : List Expr :=
  let slash := charExprs ['/'] (!flags.sensitive)
  if flags.stop then
    (if flags.strict then [] else [.iter (.ofSeq slash) 0 (some 1) true]) ++ [.anchor .textEnd]
  else
    (if flags.strict then []
      else [.iter (.ofSeq (slash ++ [.look .ahead false (.anchor .textEnd)])) 0 (some 1) true]) ++
      (if delimited then [] else [.look .ahead false (.alt (.ofSeq slash) (.anchor .textEnd))])

/-- The expressions of a branch after its caret, behind `g` groups of other branches. -/
def branchExprs (flags : MatchFlags) (tokens : List Token) (g : Nat) : List Expr :=
  exprsOf g tokens (!flags.sensitive) ++ flags.endingExprs (endsDelimited {} tokens)

/-- The branch of some tokens behind `g` groups of other branches. -/
def branch (flags : MatchFlags) (tokens : List Token) (g : Nat) : Expr :=
  .ofSeq (.anchor .textStart :: flags.branchExprs tokens g)

variable {flags : MatchFlags} {tokens : List Token}

theorem flagText_eq (flags : MatchFlags) :
    flags.options.flagText = caseText (!flags.sensitive) := by
  obtain ⟨stop, strict, sensitive⟩ := flags
  cases sensitive <;> rfl

theorem writes_endingExprs (flags : MatchFlags) (delimited : Bool) :
    Writes (flags.options.endingText delimited) 0 4 (fun _ => flags.endingExprs delimited)
      (!flags.sensitive) := by
  obtain ⟨stop, strict, sensitive⟩ := flags
  have hslash : Writes (escapeLiteral ['/']) 0 1 (fun _ => charExprs ['/'] (!sensitive))
      (!sensitive) := (writes_literal ['/']).mono (Nat.zero_le _)
  have hahead : Writes (aheadText ['$']) 0 1 (fun _ => [.look .ahead false (.anchor .textEnd)])
      (!sensitive) := writes_textEnd.toBody.ahead.toWrites
  have hlenient : Writes (groupText (escapeLiteral ['/']) ++ ['?']) 0 4
      (fun _ => [.iter (.ofSeq (charExprs ['/'] (!sensitive))) 0 (some 1) true]) (!sensitive) :=
    ((hslash.toBody.bare fun _ => by simp [charExprs, Expr.ofSeq, Expr.ofAlt]).optional
      fun _ => rfl).mono (by decide)
  have hinside : Writes (groupText (escapeLiteral ['/'] ++ aheadText ['$']) ++ ['?']) 0 4
      (fun _ => [.iter (.ofSeq (charExprs ['/'] (!sensitive) ++
        [.look .ahead false (.anchor .textEnd)])) 0 (some 1) true]) (!sensitive) :=
    (((hslash.append hahead).toBody.bare fun _ => by
      simp [charExprs, Expr.ofSeq, Expr.ofAlt]).optional fun _ => rfl).mono (by decide)
  have hbefore : Writes (aheadText (escapeLiteral ['/'] ++ '|' :: ['$'])) 0 4
      (fun _ => [.look .ahead false (.alt (.ofSeq (charExprs ['/'] (!sensitive)))
        (.anchor .textEnd))]) (!sensitive) :=
    (hslash.or (writes_textEnd.mono (Nat.zero_le _)).toBody).ahead.toWrites.mono (by decide)
  have hend : Writes ['$'] 0 4 (fun _ => [.anchor .textEnd]) (!sensitive) :=
    writes_textEnd.mono (Nat.zero_le _)
  cases stop with
  | true =>
    cases strict with
    | true => exact hend
    | false => exact hlenient.append hend
  | false =>
    cases strict with
    | true =>
      cases delimited with
      | true => exact .nil
      | false => exact hbefore
    | false =>
      cases delimited with
      | true => exact hinside.append .nil
      | false => exact hinside.append hbefore

/-- The text of some tokens writes what its captures are read as, between a caret and the end. -/
theorem writes_expressionOf (flags : MatchFlags) {value : Param → Expr}
    (h : ∀ p, Token.param p ∈ tokens → p.Reads (value p) (!flags.sensitive)) :
    Writes (expressionOf flags.options tokens) (paramsOf tokens).length 4
      (fun g => .anchor .textStart :: (exprsWith value g tokens (!flags.sensitive) ++
        flags.endingExprs (endsDelimited {} tokens))) (!flags.sensitive) := by
  have hall := (writes_textStart.mono (Nat.zero_le 4)).append
    ((writes_exprsWith h).append (flags.writes_endingExprs (endsDelimited {} tokens)))
  rw [Nat.zero_add, Nat.add_zero] at hall
  rw [expressionOf, List.append_assoc]
  exact hall

/-- The text of some tokens without groups of their own writes their branch. -/
theorem writes_branch (flags : MatchFlags) (h : ∀ p, Token.param p ∈ tokens → p.IsDefault) :
    Writes (expressionOf flags.options tokens) (paramsOf tokens).length 4
      (fun g => .anchor .textStart :: flags.branchExprs tokens g) (!flags.sensitive) := by
  simp only [branchExprs, exprsOf_eq]
  exact writes_expressionOf flags fun p hp => (h p hp).reads

theorem all_isSteady_endingExprs (flags : MatchFlags) (delimited : Bool) :
    (flags.endingExprs delimited).all Expr.isSteady = true := by
  obtain ⟨stop, strict, sensitive⟩ := flags
  cases stop <;> cases strict <;> cases delimited <;> rfl

theorem all_isQuick_endingExprs (hstop : flags.stop = true) (delimited : Bool) :
    (flags.endingExprs delimited).all Expr.isQuick = true := by
  obtain ⟨stop, strict, sensitive⟩ := flags
  obtain rfl : stop = true := hstop
  cases strict <;> rfl

theorem groupNumbers_endingExprs (flags : MatchFlags) (delimited : Bool) :
    (flags.endingExprs delimited).flatMap Expr.groupNumbers = [] := by
  obtain ⟨stop, strict, sensitive⟩ := flags
  cases stop <;> cases strict <;> cases delimited <;> rfl

theorem map_raise_endingExprs (k : Nat) (flags : MatchFlags) (delimited : Bool) :
    (flags.endingExprs delimited).map (Expr.raise k) = flags.endingExprs delimited := by
  obtain ⟨stop, strict, sensitive⟩ := flags
  cases stop <;> cases strict <;> cases delimited <;> rfl

theorem isSteady_branch (flags : MatchFlags) (tokens : List Token) (g : Nat) :
    (flags.branch tokens g).isSteady = true := by
  have htokens : (exprsOf g tokens (!flags.sensitive)).all Expr.isSteady = true := by
    rw [List.all_eq_true]
    exact fun e he =>
      Expr.isSteady_of_isQuick (List.all_eq_true.mp (all_isQuick_exprsOf g tokens _) e he)
  rw [branch, isSteady_ofSeq, branchExprs, List.all_cons, List.all_append, htokens,
    all_isSteady_endingExprs]
  rfl

/-- Where the match must reach to the end of the text, no step limit applies to a branch. -/
theorem isQuick_branch (hstop : flags.stop = true) (tokens : List Token) (g : Nat) :
    (flags.branch tokens g).isQuick = true := by
  rw [branch, Expr.isQuick_ofSeq, branchExprs, List.all_cons, List.all_append,
    all_isQuick_exprsOf, all_isQuick_endingExprs hstop]
  rfl

/-- The groups of a branch are the ones after those of the branches before it. -/
theorem groupNumbers_branch (flags : MatchFlags) (tokens : List Token) (g : Nat) :
    (flags.branch tokens g).groupNumbers = List.range' (g + 1) (paramsOf tokens).length := by
  rw [branch, groupNumbers_ofSeq, branchExprs, List.flatMap_cons, List.flatMap_append,
    groupNumbers_exprsOf, groupNumbers_endingExprs, List.append_nil]
  rfl

/-- Behind other branches the groups of a branch have raised numbers. -/
theorem raise_branch (flags : MatchFlags) (tokens : List Token) (k : Nat) :
    (flags.branch tokens 0).raise k = flags.branch tokens k := by
  rw [branch, Expr.raise_ofSeq, List.map_cons, branchExprs, List.map_append, map_raise_endingExprs,
    ← exprsOf_add, Nat.zero_add]
  rfl

theorem isAnchored_branch (flags : MatchFlags) (tokens : List Token) (g : Nat) :
    (flags.branch tokens g).IsAnchored := isAnchored_ofSeq _

/-- A branch that must reach to the end of a text does. -/
theorem rest_of_mem_branch (hstop : flags.stop = true) {g : Nat} {t u : Thread}
    (hu : u ∈ (flags.branch tokens g).ways t) : u.place.rest = [] := by
  have hending : ∃ before, flags.endingExprs (endsDelimited {} tokens) =
      before ++ [.anchor .textEnd] := ⟨_, by rw [endingExprs, if_pos hstop]⟩
  obtain ⟨before, hending⟩ := hending
  rw [branch, branchExprs, hending, ← List.append_assoc, ← List.cons_append] at hu
  exact rest_of_mem_textEnd hu

end MatchFlags

end MockHttp.Template
