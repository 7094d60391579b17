import MockHttp.Proofs.Regex.StepSearch
import MockHttp.Proofs.Template.Captures
import MockHttp.Proofs.Template.Fragment
import MockHttp.Proofs.Template.Tokens

/-!
# The language of a template

What a template describes can be said without expressions: a literal text stands for itself, a
parameter for a value that holds no character of its delimiter, and the tokens one after the other
for the product of their languages. This module shows that the expression that is written for a
template without groups of its own matches just that.

Results:
1. `fits_exprsOf`, `writes_exprsOf`: the expressions that tokens write read their languages.
2. `denotes_ending`: the expression of the end asks for what `Options.Ends` says.
3. `compile_accepts`: a template compiles, and its pattern matches a text exactly if the text is
   accepted.
-/

namespace MockHttp.Template

open Regex Computability

/-! ## The language -/

/-- The values of a parameter, with the delimiter between each two of them if there may be
several. -/
def Param.values (p : Param) : Language Char :=
  if p.repeated then valuesWithout p.delimiter * ({p.delimiter} * valuesWithout p.delimiter)∗
  else valuesWithout p.delimiter

/-- What a parameter stands for: its values after the delimiter that it takes along. If it is
optional, the values may be absent, and inside of a segment the delimiter stays. -/
def Param.language (p : Param) : Language Char :=
  if p.optional then
    if p.inSegment then {p.leadText} * (1 + p.values) else 1 + {p.leadText} * p.values
  else {p.leadText} * p.values

/-- What a token stands for. -/
def Token.language : Token → Language Char
  | literal text => {text}
  | param p => p.language

def languageOf (tokens : List Token) : Language Char := (tokens.map Token.language).prod

/-- The text that follows is empty or begins with a terminator. -/
def Options.Terminated (options : Options) (rest : List Char) : Prop :=
  rest = [] ∨ ∃ terminator ∈ options.endsWith, terminator <+: rest

/-- There are no tokens, or the last one is a literal text whose last character is one that
parameters take along. -/
def EndDelimited (delimiters : Delimiters) (tokens : List Token) : Prop :=
  tokens = [] ∨ ∃ before text c,
    tokens = before ++ [.literal (text ++ [c])] ∧ c ∈ delimiters.leads

/-- The text begins with what the tokens stand for, and ends there as the options ask. -/
def Accepts (options : Options) (tokens : List Token) (uri : List Char) : Prop :=
  ∃ matched rest, uri = matched ++ rest ∧
    if options.stop then
      (matched ∈ languageOf tokens ∨
        options.strict = false ∧ matched ∈ languageOf tokens * {options.delimiters.default}) ∧
      options.Terminated rest
    else
      matched ∈ languageOf tokens ∧
        (EndDelimited options.delimiters tokens ∨ options.Terminated rest ∨
          options.delimiters.default <+: rest)

/-! ## Tokens without groups of their own -/

/-- The parameter has the pattern that parameters have by default, and a delimiter. -/
def Param.IsDefault (p : Param) : Prop :=
  p.pattern = defaultPattern p.delimiter ∧ p.delimiter ≠ []

theorem Marker.toParam_isDefault {delimiters : Delimiters} (h : delimiters.default ≠ [])
    {m : Marker} (hm : m.body = none) (lead : Option Char) (index : Nat) :
    (m.toParam delimiters lead index).IsDefault := by
  unfold Marker.toParam Param.IsDefault
  rw [hm]
  cases lead with
  | none => exact ⟨rfl, h⟩
  | some c => exact ⟨rfl, by simp⟩

theorem assemble_isDefault {delimiters : Delimiters} (h : delimiters.default ≠ [])
    {ps : List Piece} (hps : ∀ m, Piece.marker m ∈ ps → m.body = none) {text : List Char}
    {escaped : Bool} {index : Nat} {p : Param}
    (hp : .param p ∈ assemble delimiters text escaped index ps) : p.IsDefault := by
  obtain ⟨m, lead, i, hm, -, rfl⟩ := exists_marker_of_mem_assemble hp
  exact Marker.toParam_isDefault h (hps m hm) lead i

/-! ## The expressions of tokens -/

/-- The expression of one value: as few characters as possible, at least one, none of them in the
delimiter. -/
def Param.valueExpr (p : Param) (ignoreCase : Bool := false) : Expr :=
  .iter (.set (Brackets.otherChars p.delimiter ignoreCase)) 1 none false

/-- The expressions of the delimiter and a value after it. -/
def Param.nextExprs (p : Param) (ignoreCase : Bool := false) : List Expr :=
  charExprs p.delimiter ignoreCase ++ [p.valueExpr ignoreCase]

/-- The expressions of all values, one after the other. -/
def Param.valueExprs (p : Param) (ignoreCase : Bool := false) : List Expr :=
  if p.repeated then
    [p.valueExpr ignoreCase, .iter (.ofSeq (p.nextExprs ignoreCase)) 0 none true]
  else [p.valueExpr ignoreCase]

/-- The expressions that a parameter writes after `g` groups. -/
def Param.exprs (p : Param) (g : Nat) (ignoreCase : Bool := false) : List Expr :=
  let lead := charExprs p.leadText ignoreCase
  let value := .group (g + 1) (.ofSeq (p.valueExprs ignoreCase))
  if p.optional then
    if p.inSegment then lead ++ [.iter value 0 (some 1) true]
    else [.iter (.ofSeq (lead ++ [value])) 0 (some 1) true]
  else lead ++ [value]

/-- The expressions that some tokens write after `g` groups. -/
def exprsOf (g : Nat) (tokens : List Token) (ignoreCase : Bool := false) : List Expr :=
  match tokens with
  | [] => []
  | .literal text :: tokens => charExprs text ignoreCase ++ exprsOf g tokens ignoreCase
  | .param p :: tokens => p.exprs g ignoreCase ++ exprsOf (g + 1) tokens ignoreCase

namespace Param

variable {p : Param}

theorem fits_next (p : Param) :
    Fits (.ofSeq p.nextExprs) true true (.text ({p.delimiter} * valuesWithout p.delimiter)) := by
  have hone : Fits (.ofSeq [p.valueExpr]) true true (.text (valuesWithout p.delimiter)) :=
    .noneOf p.delimiter
  have hnext := (Fits.literal p.delimiter).append hone
  rw [Sense.text_andThen, Bool.or_true] at hnext
  exact hnext

/-- The expression of one value after another reads them with the delimiter between. -/
theorem fits_value (p : Param) : Fits (.ofSeq p.valueExprs) true true (.text p.values) := by
  have hone : Fits (.ofSeq [p.valueExpr]) true true (.text (valuesWithout p.delimiter)) :=
    .noneOf p.delimiter
  unfold valueExprs values
  split
  · have hmore : Fits (.ofSeq [.iter (.ofSeq p.nextExprs) 0 none true]) false true
        (.text ({p.delimiter} * valuesWithout p.delimiter)∗) := p.fits_next.star true
    have hall := hone.append hmore
    rw [Sense.text_andThen] at hall
    exact hall
  · exact hone

theorem consumes_nextExprs (p : Param) (ic : Bool) :
    (Expr.ofSeq (p.nextExprs ic)).consumes = true := by
  rw [consumes_ofSeq, nextExprs, List.any_append]
  simp [valueExpr, Expr.consumes]

/-- The pattern that parameters have by default is read as one repetition. -/
theorem IsDefault.reads {ic : Bool} (hp : p.IsDefault) : p.Reads (p.valueExpr ic) ic := by
  obtain ⟨hpattern, hdelimiter⟩ := hp
  have hone : Writes p.pattern 0 0 (fun _ => [p.valueExpr ic]) ic :=
    hpattern ▸ writes_noneOf hdelimiter
  exact {
    body := ⟨_, rfl, hone.toBody.toReads⟩
    opens := fun rest => unmarked_of_fresh (hone.toBody.1 rest)
    ne_empty := fun h => nomatch h
    delimiter := hdelimiter }

/-- The expression of a parameter reads what the parameter stands for. -/
theorem fits_exprs (p : Param) :
    ∃ solid, ∀ g, Fits (.ofSeq (p.exprs g)) solid true (.text p.language) := by
  have hlead : Fits (.ofSeq (charExprs p.leadText)) _ true (.text {p.leadText}) := .literal _
  have hgroup : ∀ g, Fits (.ofSeq [.group (g + 1) (.ofSeq p.valueExprs)]) true true
      (.text p.values) := fun g => p.fits_value.group (g + 1)
  unfold exprs language
  dsimp only
  split
  · split
    · have hoptional : ∀ g, Fits (.ofSeq
          [.iter (.group (g + 1) (.ofSeq p.valueExprs)) 0 (some 1) true]) false true
          (.text (1 + p.values)) := fun g => (p.fits_value.group (g + 1)).optional true
      refine ⟨!p.leadText.isEmpty || false, fun g => ?_⟩
      rw [← Sense.text_andThen]
      exact hlead.append (hoptional g)
    · refine ⟨false, fun g => ?_⟩
      have hboth := hlead.append (hgroup g)
      rw [Sense.text_andThen] at hboth
      exact hboth.optional true
  · refine ⟨!p.leadText.isEmpty || true, fun g => ?_⟩
    rw [← Sense.text_andThen]
    exact hlead.append (hgroup g)

end Param

/-- The expressions of some tokens, one after the other, read what the tokens stand for. -/
theorem fits_exprsOf (tokens : List Token) :
    ∃ solid, ∀ g, Fits (.ofSeq (exprsOf g tokens)) solid true (.text (languageOf tokens)) := by
  induction tokens with
  | nil => exact ⟨false, fun _ => .empty⟩
  | cons token tokens ih =>
    obtain ⟨solid, htokens⟩ := ih
    have hprod : languageOf (token :: tokens) = token.language * languageOf tokens := rfl
    rw [hprod, ← Sense.text_andThen]
    cases token with
    | literal text => exact ⟨_, fun g => (Fits.literal text).append (htokens g)⟩
    | param p =>
      obtain ⟨solid', hparam⟩ := p.fits_exprs
      exact ⟨_, fun g => (hparam g).append (htokens (g + 1))⟩

theorem exprsOf_eq (g : Nat) (tokens : List Token) (ic : Bool) :
    exprsOf g tokens ic = exprsWith (·.valueExpr ic) g tokens ic := by
  induction tokens generalizing g with
  | nil => rfl
  | cons token tokens ih =>
    cases token with
    | literal text => exact congrArg (charExprs text ic ++ ·) (ih g)
    | param p => exact congrArg (p.exprs g ic ++ ·) (ih (g + 1))

theorem writes_exprsOf {tokens : List Token} {ic : Bool}
    (h : ∀ p, Token.param p ∈ tokens → p.IsDefault) :
    Writes (tokens.flatMap Token.expressionText) (paramsOf tokens).length 4
      (fun g => exprsOf g tokens ic) ic := by
  simp only [exprsOf_eq]
  exact writes_exprsWith fun p hp => (h p hp).reads

/-- The expressions of some tokens, one after the other, read what the tokens stand for. -/
theorem denotes_tokens {tokens : List Token}
    (h : ∀ p, Token.param p ∈ tokens → p.IsDefault) :
    ∃ n solid, Denotes (tokens.flatMap Token.expressionText) n 4 solid true
      (.text (languageOf tokens)) := by
  obtain ⟨solid, hfits⟩ := fits_exprsOf tokens
  exact ⟨_, solid, _, writes_exprsOf h, hfits⟩

/-! ## The end of a match -/

/-- What the options ask of the text after the tokens. -/
def Options.Ends (options : Options) (delimited : Bool) (rest : List Char) : Prop :=
  if options.stop then
    options.Terminated rest ∨
      options.strict = false ∧ ∃ after, rest = options.delimiters.default ++ after ∧
        options.Terminated after
  else delimited = true ∨ options.Terminated rest ∨ options.delimiters.default <+: rest

theorem denotes_terminator (options : Options) :
    ∃ plain, (options.endsWith = [] → plain = true) ∧
      Denotes (if options.terminatorText = ['$'] then ['$'] else aheadText options.terminatorText)
        0 4 false plain (beforeAny options.endsWith) := by
  cases hends : options.endsWith with
  | nil =>
    have htext : options.terminatorText = ['$'] := by
      rw [Options.terminatorText, hends]
      rfl
    have hsense : Sense.atEnd = beforeAny [] := by
      funext w s
      simp [Sense.atEnd, beforeAny]
    rw [if_pos htext, ← hsense]
    exact ⟨true, fun _ => rfl, .atEnd⟩
  | cons text texts =>
    have htext : options.terminatorText =
        joinWith ['|'] ((text :: texts).map escapeLiteral ++ [['$']]) := by
      rw [Options.terminatorText, hends]
    have hne : options.terminatorText ≠ ['$'] := by
      rw [htext, alternatives_cons]
      intro heq
      have hbar : '|' ∈ ['$'] := by
        rw [← heq]
        simp
      exact absurd hbar (by decide)
    rw [if_neg hne, htext]
    exact ⟨false, by simp, (denotes_beforeAny (text :: texts)).mono (by decide)⟩

theorem denotes_delimiter {options : Options} (h : options.delimiters.default ≠ []) :
    Denotes (escapeLiteral options.delimiters.default) 0 3 true true
      (.text {options.delimiters.default}) := by
  have hliteral : Denotes (escapeLiteral options.delimiters.default) 0 3
      (!options.delimiters.default.isEmpty) true (.text {options.delimiters.default}) := .literal _
  rwa [List.isEmpty_eq_false_iff.mpr h] at hliteral

/-- Where the match must end, the expression of the end asks for a terminator, and allows the
delimiter before it unless that is strict. -/
theorem denotes_ending_stop {options : Options} (h : options.delimiters.default ≠ [])
    (hstop : options.stop = true) (delimited : Bool) :
    ∃ plain R, (options.endsWith = [] → plain = true) ∧
      Denotes (options.endingText delimited) 0 4 false plain R ∧
      ∀ rest, R.Begins rest ↔ options.Ends delimited rest := by
  obtain ⟨plain, hplain, hterminator⟩ := denotes_terminator options
  unfold Options.endingText Options.Ends
  simp only [hstop, if_true]
  cases hstrict : options.strict with
  | true =>
    refine ⟨_, _, hplain, hterminator, fun rest => ?_⟩
    rw [begins_beforeAny]
    simp [Options.Terminated]
  | false =>
    refine ⟨_, _, hplain, (denotes_delimiter h).toBody.bare.optional.append hterminator,
      fun rest => ?_⟩
    rw [Sense.begins_atMostOnce_andThen, begins_beforeAny, Sense.begins_andThen]
    refine or_congr_right ⟨?_, ?_⟩
    · rintro ⟨u, after, rfl, rfl, hafter⟩
      exact ⟨rfl, after, rfl, begins_beforeAny.mp hafter⟩
    · rintro ⟨_, after, rfl, hafter⟩
      exact ⟨_, after, rfl, rfl, begins_beforeAny.mpr hafter⟩

/-- The delimiter before a terminator, which need not be there. -/
theorem denotes_lenient {options : Options} (h : options.delimiters.default ≠ []) :
    Denotes (groupText (escapeLiteral options.delimiters.default ++
        aheadText options.terminatorText) ++ ['?']) 0 4 false false
      ((Sense.text {options.delimiters.default}).andThen
        (beforeAny options.endsWith)).atMostOnce := by
  have hany : Denotes (aheadText options.terminatorText) 0 3 false false
      (beforeAny options.endsWith) := (denotes_beforeAny options.endsWith).mono (by decide)
  have hboth := (denotes_delimiter h).append hany
  rw [Bool.true_or] at hboth
  exact hboth.toBody.bare.optional

/-- The delimiter as one more terminator. -/
theorem denotes_delimiterAhead (options : Options) :
    Denotes (aheadText (escapeLiteral options.delimiters.default ++ '|' :: options.terminatorText))
      0 4 false false (beforeAny (options.delimiters.default :: options.endsWith)) := by
  have hmore := denotes_beforeAny (options.delimiters.default :: options.endsWith)
  rw [alternatives_cons] at hmore
  exact hmore.mono (by decide)

/-- One of the delimiter and the terminators follows. -/
theorem begins_delimiterAhead (options : Options) (rest : List Char) :
    (beforeAny (options.delimiters.default :: options.endsWith)).Begins rest ↔
      options.Terminated rest ∨ options.delimiters.default <+: rest := by
  rw [begins_beforeAny]
  simp [Options.Terminated, or_comm, or_left_comm]

/-- Where the match may end inside of the text, the expression of the end asks for a terminator or
the delimiter, unless the tokens end with one. -/
theorem denotes_ending_inside {options : Options} (h : options.delimiters.default ≠ [])
    (hstop : options.stop = false) (delimited : Bool) :
    ∃ plain R, Denotes (options.endingText delimited) 0 4 false plain R ∧
      ∀ rest, R.Begins rest ↔ options.Ends delimited rest := by
  have hlenient := denotes_lenient h
  have hmore := denotes_delimiterAhead options
  unfold Options.endingText Options.Ends
  simp only [hstop, Bool.false_eq_true, if_false]
  cases hstrict : options.strict with
  | true =>
    cases delimited with
    | true => exact ⟨_, _, .nil, fun rest => iff_of_true ⟨[], rest, rfl, rfl⟩ (.inl rfl)⟩
    | false =>
      refine ⟨_, _, hmore, fun rest => ?_⟩
      rw [begins_delimiterAhead]
      simp
  | false =>
    cases delimited with
    | true =>
      exact ⟨_, _, hlenient.append .nil, fun rest =>
        iff_of_true ⟨[], rest, rfl, [], [], rfl, .inl rfl, rfl⟩ (.inl rfl)⟩
    | false =>
      refine ⟨_, _, hlenient.append hmore, fun rest => ?_⟩
      rw [Sense.begins_atMostOnce_andThen, begins_delimiterAhead, Sense.begins_andThen]
      simp only [Bool.false_eq_true, false_or]
      -- the delimiter that the optional group takes is allowed to follow anyway
      refine ⟨?_, .inl⟩
      rintro (hrest | ⟨u, after, rfl, ⟨v, w, rfl, rfl, _⟩, _⟩)
      · exact hrest
      · rw [List.append_assoc]
        exact .inr (List.prefix_append _ _)

/-- The expression of the end asks for what the options ask. -/
theorem denotes_ending {options : Options} (h : options.delimiters.default ≠ [])
    (delimited : Bool) :
    ∃ plain R, (options.stop = true → options.endsWith = [] → plain = true) ∧
      Denotes (options.endingText delimited) 0 4 false plain R ∧
      ∀ rest, R.Begins rest ↔ options.Ends delimited rest := by
  cases hstop : options.stop with
  | true =>
    obtain ⟨plain, R, hplain, hending⟩ := denotes_ending_stop h hstop delimited
    exact ⟨plain, R, fun _ => hplain, hending⟩
  | false =>
    obtain ⟨plain, R, hending⟩ := denotes_ending_inside h hstop delimited
    exact ⟨plain, R, by simp, hending⟩

theorem endsDelimited_iff (delimiters : Delimiters) (tokens : List Token) :
    endsDelimited delimiters tokens = true ↔ EndDelimited delimiters tokens := by
  unfold endsDelimited EndDelimited
  induction tokens using List.reverseRecOn with
  | nil => simp
  | append_singleton before last _ =>
    cases last with
    | param p => simp
    | literal text =>
      induction text using List.reverseRecOn with
      | nil => simp
      | append_singleton text c _ => simp

/-- What a text must be like to be accepted, the end of the match being read with the tokens. -/
theorem accepts_iff (options : Options) (tokens : List Token) (uri : List Char) :
    Accepts options tokens uri ↔ ∃ matched rest, uri = matched ++ rest ∧
      matched ∈ languageOf tokens ∧
        options.Ends (endsDelimited options.delimiters tokens) rest := by
  unfold Accepts Options.Ends
  rw [endsDelimited_iff]
  cases options.stop with
  | false => rfl
  | true =>
    simp only [if_true]
    constructor
    · rintro ⟨matched, rest, rfl, hmatched | ⟨hstrict, u, hu, _, rfl, rfl⟩, hrest⟩
      · exact ⟨matched, rest, rfl, hmatched, .inl hrest⟩
      · exact ⟨u, _, List.append_assoc _ _ _, hu, .inr ⟨hstrict, rest, rfl, hrest⟩⟩
    · rintro ⟨matched, rest, rfl, hmatched, hrest | ⟨hstrict, after, rfl, hafter⟩⟩
      · exact ⟨matched, rest, rfl, .inl hmatched, hrest⟩
      · exact ⟨matched ++ options.delimiters.default, after, (List.append_assoc _ _ _).symm,
          .inr ⟨hstrict, Language.append_mem_mul hmatched rfl⟩, hafter⟩

/-! ## Compiled templates -/

theorem isPlain_of_steady {e : Expr} (he : e.isSteady = true) (hplain : e.isPlain [] = true) :
    e.isPlain e.references = true := by
  rwa [references_of_isForward (isForward_of_steady he)]

/-- What a text writes without looking back can be read by itself, perhaps after the flag that
ignores case, if all its repetitions can be carried out. -/
theorem readExpression_eq_of_writes {text : List Char} {n depth : Nat} {es : Nat → List Expr}
    {ic : Bool} (hwrites : Writes text n depth es ic) (hdepth : depth < Progress.maxDepth)
    (hforward : (Expr.ofSeq (es 0)).isForward = true) :
    readExpression (caseText ic ++ text) =
      match runnable [] ((Expr.ofSeq (es 0)).isPlain []) (.ofSeq (es 0)) with
      | .ok _ => .ok ⟨String.ofList (caseText ic ++ text), .ofSeq (es 0), n⟩
      | .error cause =>
        .error (.invalidExpression (String.ofList (caseText ic ++ text)) cause) := by
  unfold readExpression Regex.ofPattern
  dsimp only
  rw [String.toList_ofList, readPattern_eq_of_writes hwrites hdepth hforward]
  cases runnable [] ((Expr.ofSeq (es 0)).isPlain []) (.ofSeq (es 0)) with
  | error cause => rfl
  | ok _ => rfl

/-- A steady text is an expression, perhaps after the flag that ignores case. -/
theorem readExpression_of_writes {text : List Char} {n depth : Nat} {es : Nat → List Expr}
    {ic : Bool} (hwrites : Writes text n depth es ic) (hdepth : depth < Progress.maxDepth)
    (hsteady : (Expr.ofSeq (es 0)).isSteady = true) :
    readExpression (caseText ic ++ text) =
      .ok ⟨String.ofList (caseText ic ++ text), .ofSeq (es 0), n⟩ := by
  rw [readExpression_eq_of_writes hwrites hdepth (isForward_of_steady hsteady),
    runnable_of_steady _ _ hsteady]

/-- The expression that begins with a caret and goes on with pieces takes the best way of the pieces
from the start of a text. Looking for it takes a number of steps, none if the pieces are plain; a
search that is allowed fewer gives up. -/
theorem find_of_writes {text : List Char} {n depth : Nat} {es : Nat → List Expr}
    {solid plain : Bool} {R : Sense} (hwrites : Writes text n depth es)
    (hfits : Fits (.ofSeq (es 0)) solid plain R) (hdepth : depth < Progress.maxDepth) :
    ∃ re, readExpression ('^' :: text) = .ok re ∧ re.groups = n ∧
      ∀ uri, ∃ cost, (plain = true → cost = 0) ∧ ∀ limit, re.findWithin limit uri =
        if limit < cost then .error .stepsSpent
        else .ok (((Expr.ofSeq (es 0)).ways (.start (.start uri))).head?.map re.foundAt) := by
  have hsteady : (Expr.ofSeq (.anchor .textStart :: es 0)).isSteady = true := by
    rw [isSteady_ofSeq, List.all_cons, ← isSteady_ofSeq, hfits.steady]
    rfl
  have hplain : plain = true → (Expr.ofSeq (.anchor .textStart :: es 0)).isPlain [] = true := by
    intro h
    rw [isPlain_ofSeq, List.all_cons, ← isPlain_ofSeq, hfits.isPlain h]
    rfl
  have hread := readExpression_of_writes
    ((writes_textStart.mono (Nat.zero_le depth)).append hwrites) hdepth hsteady
  refine ⟨_, hread, Nat.zero_add n, fun uri => ?_⟩
  obtain ⟨cost, hcost, hfind⟩ :=
    @find_settles ⟨String.ofList ('^' :: text), _, 0 + n⟩ hsteady uri
  refine ⟨cost, fun h => hcost (isPlain_of_steady hsteady (hplain h)), fun limit => ?_⟩
  rw [← firstWay_start]
  exact hfind limit

/-- The expression that begins with a caret and goes on with a fragment has a match in a text
exactly if the text begins with what the fragment reads. -/
theorem Denotes.find {text : List Char} {n depth : Nat} {solid plain : Bool} {R : Sense}
    (h : Denotes text n depth solid plain R) (hdepth : depth < Progress.maxDepth) :
    ∃ re, readExpression ('^' :: text) = .ok re ∧ ∀ uri, ∃ answer cost,
      (∀ limit, re.findWithin limit uri =
        if limit < cost then .error .stepsSpent else .ok answer) ∧
      (answer.isSome = true ↔ R.Begins uri) ∧ (plain = true → cost = 0) := by
  obtain ⟨es, hwrites, hfits⟩ := h
  obtain ⟨re, hread, -, hfind⟩ := find_of_writes hwrites (hfits 0) hdepth
  refine ⟨re, hread, fun uri => ?_⟩
  obtain ⟨cost, hcost, hanswer⟩ := hfind uri
  refine ⟨_, cost, hanswer, ?_, hcost⟩
  rw [Option.isSome_map, isSome_ways_start_iff (hfits 0).means]

/-- A template without groups of its own compiles under any options that are anchored at the start
and respect case, and its pattern matches a text exactly if the text is accepted. Looking for the
match takes a number of steps; a search that is allowed fewer gives up, and any other gives the
answer, so that the limit for all searches decides whether there is one. Where a match must reach to
the end of the text, no steps are needed. -/
theorem compile_accepts {options : Options} {template : List Char} (hstart : options.start = true)
    (hsensitive : options.sensitive = true) (hdelimiter : options.delimiters.default ≠ [])
    (hbody : ∀ m, Piece.marker m ∈ pieces template → m.body = none) :
    ∃ pattern, (Source.template template).compile options = .ok pattern ∧
      ∀ uri, ∃ answer cost,
        pattern.regex.find uri =
          (if Regex.stepLimit < cost then .error .stepsSpent else .ok answer) ∧
        (∀ limit, pattern.regex.findWithin limit uri =
          if limit < cost then .error .stepsSpent else .ok answer) ∧
        (answer.isSome = true ↔
          Accepts options (tokenize options.delimiters template) uri) ∧
        (options.stop = true → options.endsWith = [] → cost = 0) := by
  have hdefault : ∀ p, Token.param p ∈ tokenize options.delimiters template → p.IsDefault :=
    fun p hp => assemble_isDefault hdelimiter hbody hp
  -- of the tokens only their parameters' patterns matter
  rw [show (Source.template template).compile options =
    compileTokens options (tokenize options.delimiters template) from rfl]
  generalize tokenize options.delimiters template = tokens at hdefault ⊢
  obtain ⟨n, solid, htokens⟩ := denotes_tokens hdefault
  obtain ⟨plain, R, hplain, hending, hends⟩ :=
    denotes_ending hdelimiter (endsDelimited options.delimiters tokens)
  obtain ⟨re, hread, hfind⟩ := (htokens.append hending).find (by decide)
  -- no flags are written, so the expression begins with the caret
  have htext : options.flagText ++ expressionOf options tokens =
      '^' :: (tokens.flatMap Token.expressionText ++
        options.endingText (endsDelimited options.delimiters tokens)) := by
    simp [Options.flagText, expressionOf, hstart, hsensitive]
  refine ⟨⟨re, paramsOf tokens⟩, ?_, fun uri => ?_⟩
  · unfold compileTokens
    rw [htext, hread]
    rfl
  · obtain ⟨answer, cost, hanswer, hbegins, hcost⟩ := hfind uri
    refine ⟨answer, cost, hanswer _, hanswer, ?_, fun hstop hnone => hcost (hplain hstop hnone)⟩
    rw [hbegins, accepts_iff, Sense.begins_andThen]
    constructor
    · rintro ⟨matched, rest, huri, hmatched, hrest⟩
      exact ⟨matched, rest, huri, hmatched, (hends rest).mp hrest⟩
    · rintro ⟨matched, rest, huri, hmatched, hrest⟩
      exact ⟨matched, rest, huri, hmatched, (hends rest).mpr hrest⟩

/-- Two optional parameters, one of them with several values, before a fragment mark. -/
theorem compile_accepts_fragmentMark :
    ∃ pattern, (Source.template ['/', ':', 'a', '?', '/', ':', 'b', '*']).compile
        { sensitive := true, endsWith := [['#']] } = .ok pattern ∧
      ∀ uri, ∃ answer cost,
        pattern.regex.find uri =
          (if Regex.stepLimit < cost then .error .stepsSpent else .ok answer) ∧
        (∀ limit, pattern.regex.findWithin limit uri =
          if limit < cost then .error .stepsSpent else .ok answer) ∧
        (answer.isSome = true ↔
          Accepts { sensitive := true, endsWith := [['#']] }
            (tokenize {} ['/', ':', 'a', '?', '/', ':', 'b', '*']) uri) ∧
        (true = true → [['#']] = [] → cost = 0) := by
  refine compile_accepts rfl rfl (by decide) fun m hm => ?_
  have hpieces : pieces ['/', ':', 'a', '?', '/', ':', 'b', '*'] =
      [.plain '/', .marker ⟨some ['a'], none, some .optional, some '/'⟩, .plain '/',
        .marker ⟨some ['b'], none, some .optionalRepeated, none⟩] := by decide +kernel
  rw [hpieces] at hm
  simp only [List.mem_cons, Piece.marker.injEq, List.not_mem_nil, reduceCtorEq, false_or,
    or_false] at hm
  rcases hm with rfl | rfl
  · rfl
  · rfl

end MockHttp.Template
