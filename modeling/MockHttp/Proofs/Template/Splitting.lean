import MockHttp.Proofs.Regex.Recall
import MockHttp.Proofs.Template.Language
import MockHttp.Proofs.Template.Store

/-!
# How a match splits a text

A template without groups of its own can split a text in several ways among its tokens. Which one a
match finds is up to the order in which the ways of the expression are tried; that it is one of
them, and that the values of the match are those of the same splitting, holds for every way.

Results:
1. `mem_languageOf_iff`: the texts of some tokens are those that can be split among them.
2. `splits_of_mem_ways`: every way of the expressions of some tokens splits the text that it reads,
   and its groups remember the values.
3. `evaluate_exactly`: a text matches a template as a whole if it can be split, and the values of
   the match are those of a splitting.
-/

namespace MockHttp.Template

open Regex

/-! ## Splittings -/

/-- The part of a text that a parameter takes, and the values in it, if there are any. -/
inductive Param.Takes (p : Param) : List Char → Option (List Char) → Prop
  | present {value : List Char} : value ∈ p.values → p.Takes (p.leadText ++ value) (some value)
  | absent : p.optional = true → p.Takes (if p.inSegment then p.leadText else []) none

/-- The tokens take the parts of a text one after the other; the values are those of the
parameters. -/
inductive Splits : List Token → List Char → List (Option (List Char)) → Prop
  | nil : Splits [] [] []
  | literal {tokens : List Token} {rest : List Char} {values : List (Option (List Char))}
      (text : List Char) :
      Splits tokens rest values → Splits (.literal text :: tokens) (text ++ rest) values
  | param {tokens : List Token} {rest part : List Char} {values : List (Option (List Char))}
      {p : Param} {value : Option (List Char)} :
      p.Takes part value → Splits tokens rest values →
      Splits (.param p :: tokens) (part ++ rest) (value :: values)

theorem Param.mem_language_iff {p : Param} {part : List Char} :
    part ∈ p.language ↔ ∃ value, p.Takes part value := by
  constructor
  · intro h
    unfold language at h
    split at h
    · next hoptional =>
      have habsent := Takes.absent hoptional
      split at h
      · next hinside =>
        rw [if_pos hinside] at habsent
        obtain ⟨_, rfl, value, rfl | hvalue, rfl⟩ := h
        · change ∃ value, p.Takes (p.leadText ++ []) value
          rw [List.append_nil]
          exact ⟨none, habsent⟩
        · exact ⟨some value, .present hvalue⟩
      · next hinside =>
        rw [if_neg hinside] at habsent
        rcases h with rfl | ⟨_, rfl, value, hvalue, rfl⟩
        · exact ⟨none, habsent⟩
        · exact ⟨some value, .present hvalue⟩
    · obtain ⟨_, rfl, value, hvalue, rfl⟩ := h
      exact ⟨some value, .present hvalue⟩
  · rintro ⟨_, hvalue | hoptional⟩
    · have hlead : p.leadText ∈ ({p.leadText} : Language Char) := rfl
      have hboth := Language.append_mem_mul hlead hvalue
      unfold language
      split
      · split
        · exact Language.append_mem_mul hlead (.inr hvalue)
        · exact .inr hboth
      · exact hboth
    · unfold language
      rw [if_pos hoptional]
      split
      · exact ⟨p.leadText, rfl, [], .inl rfl, List.append_nil _⟩
      · exact .inl rfl

theorem mem_languageOf_iff {tokens : List Token} {text : List Char} :
    text ∈ languageOf tokens ↔ ∃ values, Splits tokens text values := by
  induction tokens generalizing text with
  | nil =>
    constructor
    · rintro rfl
      exact ⟨[], .nil⟩
    · rintro ⟨_, ⟨⟩⟩
      rfl
  | cons token tokens ih =>
    have hprod : languageOf (token :: tokens) = token.language * languageOf tokens := rfl
    rw [hprod]
    cases token with
    | literal text =>
      constructor
      · rintro ⟨_, rfl, rest, hrest, rfl⟩
        obtain ⟨values, hvalues⟩ := ih.mp hrest
        exact ⟨values, .literal _ hvalues⟩
      · rintro ⟨values, hvalues⟩
        cases hvalues with
        | literal text hrest => exact Language.append_mem_mul rfl (ih.mpr ⟨values, hrest⟩)
    | param p =>
      constructor
      · rintro ⟨part, hpart, rest, hrest, rfl⟩
        obtain ⟨value, hvalue⟩ := Param.mem_language_iff.mp hpart
        obtain ⟨values, hvalues⟩ := ih.mp hrest
        exact ⟨value :: values, .param hvalue hvalues⟩
      · rintro ⟨_, hvalues⟩
        cases hvalues with
        | param hvalue hrest =>
          exact Language.append_mem_mul (Param.mem_language_iff.mpr ⟨_, hvalue⟩)
            (ih.mpr ⟨_, hrest⟩)

theorem Splits.length_eq {tokens : List Token} {text : List Char}
    {values : List (Option (List Char))} (h : Splits tokens text values) :
    values.length = (paramsOf tokens).length := by
  induction h with
  | nil => rfl
  | literal text _ ih => exact ih
  | param _ _ ih => exact congrArg (· + 1) ih

/-! ## What the ways of tokens remember -/

section Ways

variable {t u : Thread} {g : Nat} {e : Expr} {es : List Expr} {L : Language Char}

theorem groupNumbers_ofSeq (es : List Expr) :
    (Expr.ofSeq es).groupNumbers = es.flatMap Expr.groupNumbers := by
  fun_induction Expr.ofSeq es with
  | case1 => rfl
  | case2 e => simp
  | case3 e es hne ih => rw [Expr.groupNumbers, ih, List.flatMap_cons]

theorem groupNumbers_charExprs (text : List Char) (ic : Bool) :
    (Expr.ofSeq (charExprs text ic)).groupNumbers = [] := by
  rw [groupNumbers_ofSeq, charExprs, List.flatMap_map]
  exact List.flatMap_eq_nil_iff.mpr fun _ _ => rfl

theorem Param.groupNumbers_valueExprs (p : Param) (ic : Bool) :
    (Expr.ofSeq (p.valueExprs ic)).groupNumbers = [] := by
  have hnext : (Expr.ofSeq (p.nextExprs ic)).groupNumbers = [] := by
    have hdelimiter := groupNumbers_charExprs p.delimiter ic
    rw [groupNumbers_ofSeq] at hdelimiter
    rw [groupNumbers_ofSeq, nextExprs, List.flatMap_append, hdelimiter]
    rfl
  unfold valueExprs
  split
  · rw [groupNumbers_ofSeq]
    simp [Expr.groupNumbers, hnext, valueExpr]
  · rfl

theorem reads_of_mem_ways (he : e.Means (.text L)) (hu : u ∈ e.ways t) :
    ∃ w ∈ L, t.place.Reads w u.place := by
  obtain ⟨w, hw, hL⟩ := (he t u.place).mp (List.mem_map_of_mem hu)
  exact ⟨w, hL, hw⟩

theorem mem_ways_optional {greedy : Bool} :
    u ∈ (Expr.iter e 0 (some 1) greedy).ways t ↔ u = t ∨ u ∈ e.ways t := by
  have hone : (e.ways t).flatMap (Ways.upToRounds e.ways greedy 0) = e.ways t :=
    List.flatMap_singleton' _
  rw [Expr.ways, Ways.exactRounds, List.flatMap_singleton]
  change u ∈ Ways.upToRounds e.ways greedy 1 t ↔ _
  rw [Ways.upToRounds, hone]
  exact Ways.mem_ite

/-- The characters of a text are read, and nothing is remembered. -/
theorem recalls_charExprs (ht : t.IsBelow g) {text : List Char}
    (hu : u ∈ (Expr.ofSeq (charExprs text)).ways t) :
    t.place.Reads text u.place ∧ Recalls g [] t u := by
  have hcaptures := ways_captures (groupNumbers_charExprs text false) t u hu
  obtain ⟨_, rfl, hw⟩ := reads_of_mem_ways (Fits.literal text).means hu
  exact ⟨hw, .silent ht hcaptures hw⟩

namespace Param

variable {p : Param}

/-- The group of a parameter remembers the values that are read. -/
theorem recalls_value (ht : t.IsBelow g)
    (hu : u ∈ (Expr.group (g + 1) (.ofSeq p.valueExprs)).ways t) :
    ∃ value ∈ p.values, t.place.Reads value u.place ∧ Recalls g [some value] t u := by
  obtain ⟨m, hm, rfl⟩ := List.mem_map.mp hu
  obtain ⟨value, hvalue, hw⟩ := reads_of_mem_ways p.fits_value.means hm
  have hcaptures := ways_captures (p.groupNumbers_valueExprs false) t m hm
  exact ⟨value, hvalue, hw, .remember ht hcaptures hw⟩

/-- The delimiter that the parameter takes along and the values after it. -/
theorem recalls_present (ht : t.IsBelow g)
    (hu : u ∈ (Expr.ofSeq (charExprs p.leadText ++
      [.group (g + 1) (.ofSeq p.valueExprs)])).ways t) :
    ∃ value ∈ p.values, t.place.Reads (p.leadText ++ value) u.place ∧
      Recalls g [some value] t u := by
  rw [Expr.ways_ofSeq_append] at hu
  obtain ⟨m, hm, hu⟩ := List.mem_flatMap.mp hu
  obtain ⟨hlead, hsilent⟩ := recalls_charExprs ht hm
  obtain ⟨value, hvalue, hw, hrecalls⟩ := recalls_value hsilent.isBelow hu
  exact ⟨value, hvalue, hlead.trans hw, hsilent.trans hrecalls⟩

/-- A way of the expressions of a parameter takes a part of the text, and the group of the parameter
remembers the values in it. -/
theorem takes_of_mem_ways (ht : t.IsBelow g) (hu : u ∈ (Expr.ofSeq (p.exprs g)).ways t) :
    ∃ part value, p.Takes part value ∧ t.place.Reads part u.place ∧ Recalls g [value] t u := by
  unfold exprs at hu
  dsimp only at hu
  split at hu
  · next hoptional =>
    have habsent := Takes.absent hoptional
    split at hu
    · next hinside =>
      -- the delimiter is read in any case, and then perhaps the values
      rw [if_pos hinside] at habsent
      rw [Expr.ways_ofSeq_append] at hu
      obtain ⟨m, hm, hu⟩ := List.mem_flatMap.mp hu
      obtain ⟨hlead, hsilent⟩ := recalls_charExprs ht hm
      rcases mem_ways_optional.mp hu with rfl | hu
      · exact ⟨_, none, habsent, hlead, hsilent.trans (.absent hsilent.isBelow)⟩
      · obtain ⟨value, hvalue, hw, hrecalls⟩ := recalls_value hsilent.isBelow hu
        exact ⟨_, _, .present hvalue, hlead.trans hw, hsilent.trans hrecalls⟩
    · next hinside =>
      rw [if_neg hinside] at habsent
      rcases mem_ways_optional.mp hu with rfl | hu
      · exact ⟨_, none, habsent, .refl _, .absent ht⟩
      · obtain ⟨value, hvalue, hw, hrecalls⟩ := recalls_present ht hu
        exact ⟨_, _, .present hvalue, hw, hrecalls⟩
  · obtain ⟨value, hvalue, hw, hrecalls⟩ := recalls_present ht hu
    exact ⟨_, _, .present hvalue, hw, hrecalls⟩

end Param

/-- A way of the expressions of some tokens splits the text that it reads among them, and the groups
remember the values. -/
theorem splits_of_mem_ways {tokens : List Token} (ht : t.IsBelow g)
    (hu : u ∈ (Expr.ofSeq (exprsOf g tokens)).ways t) :
    ∃ text values, Splits tokens text values ∧ t.place.Reads text u.place ∧
      Recalls g values t u := by
  induction tokens generalizing t g with
  | nil =>
    obtain rfl := List.mem_singleton.mp hu
    exact ⟨[], [], .nil, .refl _, .silent ht rfl (.refl _)⟩
  | cons token tokens ih =>
    cases token with
    | literal text =>
      rw [exprsOf, Expr.ways_ofSeq_append] at hu
      obtain ⟨m, hm, hu⟩ := List.mem_flatMap.mp hu
      obtain ⟨htext, hsilent⟩ := recalls_charExprs ht hm
      obtain ⟨rest, values, hsplits, hrest, hrecalls⟩ := ih hsilent.isBelow hu
      exact ⟨_, values, .literal text hsplits, htext.trans hrest, hsilent.trans hrecalls⟩
    | param p =>
      rw [exprsOf, Expr.ways_ofSeq_append] at hu
      obtain ⟨m, hm, hu⟩ := List.mem_flatMap.mp hu
      obtain ⟨part, value, htakes, hpart, hvalue⟩ := p.takes_of_mem_ways ht hm
      obtain ⟨rest, values, hsplits, hrest, hrecalls⟩ := ih hvalue.isBelow hu
      exact ⟨_, _, .param htakes hsplits, hpart.trans hrest, hvalue.trans hrecalls⟩

end Ways

/-! ## Matches of whole texts -/

/-- The tokens of a template under the usual delimiters. -/
def tokensOf (template : String) : List Token := tokenize {} template.toList

/-- The body of the group that a piece has. -/
def Piece.body? : Piece → Option (List Char)
  | plain _ | escaped _ => none
  | marker m => m.body

/-- The template has no groups of its own. -/
def WithoutGroups (template : String) : Prop :=
  ∀ piece ∈ pieces template.toList, piece.body? = none

/-- The template, to be matched by a whole text as it stands. -/
def exactly (template : String) : RoutePattern where
  paths := [template]
  exact := true
  strict := true
  sensitive := true

/-- The match of a whole text that gives the parameters of a template these values. -/
def wholeMatch (template uri : String) (values : List (Option (List Char))) : RouteMatch where
  path := template
  url := uri
  isExact := true
  params := (paramsOf (tokensOf template)).zipWith
    (fun p value => (p.name, value.map String.ofList)) values

theorem values_wholeMatch {template uri : String} {values : List (Option (List Char))}
    (h : values.length = (paramsOf (tokensOf template)).length) :
    (wholeMatch template uri values).params.map (·.2) = values.map (·.map String.ofList) := by
  rw [wholeMatch, List.map_zipWith]
  refine List.ext_getElem (by simp [h]) fun i hi hi' => ?_
  simp

/-- The expressions of some tokens and the end of the text. -/
def wholeExpr (tokens : List Token) : Expr := .ofSeq (exprsOf 0 tokens ++ [.anchor .textEnd])

theorem fits_wholeExpr (tokens : List Token) : ∃ solid, Fits (wholeExpr tokens) solid true
    ((Sense.text (languageOf tokens)).andThen .atEnd) := by
  obtain ⟨solid, htokens⟩ := fits_exprsOf tokens
  exact ⟨_, (htokens 0).append .textEnd⟩

theorem isSome_wholeExpr_iff (tokens : List Token) (uri : List Char) :
    ((wholeExpr tokens).ways (.start (.start uri))).head?.isSome = true ↔
      uri ∈ languageOf tokens := by
  obtain ⟨_, hfits⟩ := fits_wholeExpr tokens
  rw [wholeExpr, isSome_ways_start_iff hfits.means, Sense.begins_andThen]
  constructor
  · rintro ⟨matched, rest, rfl, hmatched, _, _, rfl, rfl, rfl⟩
    rw [List.append_nil, List.append_nil]
    exact hmatched
  · intro huri
    exact ⟨uri, [], (List.append_nil uri).symm, huri, [], [], rfl, rfl, rfl⟩

/-- A way to the end of the text splits the text, and the groups remember the values. -/
theorem splits_of_mem_wholeExpr {tokens : List Token} {uri : List Char} {u : Thread}
    (hu : u ∈ (wholeExpr tokens).ways (.start (.start uri))) :
    ∃ values, Splits tokens uri values ∧ (Place.start uri).Reads uri u.place ∧
      Recalls 0 values (.start (.start uri)) u := by
  rw [wholeExpr, Expr.ways_ofSeq_append] at hu
  obtain ⟨m, hm, hu⟩ := List.mem_flatMap.mp hu
  have hbelow : (Thread.start (.start uri)).IsBelow 0 := fun c hc => absurd hc List.not_mem_nil
  obtain ⟨text, values, hsplits, htext, hrecalls⟩ := splits_of_mem_ways hbelow hm
  -- nothing is left when the end of the text is asked for
  simp only [Expr.ofSeq, Expr.ways] at hu
  split at hu
  · next hend =>
    obtain rfl := List.mem_singleton.mp hu
    have hrest : u.place.rest = [] := by simpa [Place.satisfies] using hend
    have huri : uri = text ++ u.place.rest := htext.rest_eq
    rw [hrest, List.append_nil] at huri
    subst huri
    exact ⟨values, hsplits, htext, hrecalls⟩
  · exact absurd hu List.not_mem_nil

/-- Compiled for whole texts, some tokens match the way of their expressions that is best. -/
theorem compileTokens_whole (tokens : List Token)
    (h : ∀ p, Token.param p ∈ tokens → p.IsDefault) :
    ∃ re, compileTokens { stop := true, strict := true, sensitive := true } tokens =
        .ok ⟨re, paramsOf tokens⟩ ∧ re.groups = (paramsOf tokens).length ∧
      ∀ uri, re.find uri =
        .ok (((wholeExpr tokens).ways (.start (.start uri))).head?.map re.foundAt) := by
  have hwrites : Writes (tokens.flatMap Token.expressionText ++ ['$'])
      (paramsOf tokens).length 4 fun g => exprsOf g tokens ++ [.anchor .textEnd] :=
    (writes_exprsOf h).append (writes_textEnd.mono (Nat.zero_le 4))
  obtain ⟨_, hfits⟩ := fits_wholeExpr tokens
  obtain ⟨re, hread, hgroups, hfind⟩ := find_of_writes hwrites hfits (by decide)
  have htext : ∀ delimited, Options.flagText { stop := true, strict := true, sensitive := true } ++
      ('^' :: tokens.flatMap Token.expressionText ++
        Options.endingText { stop := true, strict := true, sensitive := true } delimited) =
      '^' :: (tokens.flatMap Token.expressionText ++ ['$']) := fun _ => rfl
  refine ⟨re, ?_, hgroups, fun uri => ?_⟩
  · unfold compileTokens expressionOf
    rw [if_pos rfl, List.singleton_append, htext, hread]
    rfl
  · obtain ⟨cost, hcost, hanswer⟩ := hfind uri
    rw [Regex.find, hanswer, hcost rfl, if_neg (Nat.not_lt_zero _)]
    rfl

/-- The text of a group is what the thread remembers. -/
theorem text_group? (re : Regex) (u : Thread) {i : Nat} (hi : i < re.groups) :
    ((re.foundAt u).group? (i + 1)).map (fun span => span.text u.place.text) =
      u.remembered (i + 1) := by
  rw [Found.group?, foundAt, List.getElem?_map, List.getElem?_range hi, Thread.remembered,
    Option.map_some, Option.join_some, Option.map_map]
  rfl

/-- The template `/` has one token, and does not match the empty text by itself. -/
theorem ne_nil_of_splits_slash {uri : List Char} {values : List (Option (List Char))}
    (h : Splits (tokensOf "/") uri values) : uri ≠ [] := by
  have htokens : tokensOf "/" = [.literal ['/']] := by decide +kernel
  rw [htokens] at h
  cases h with
  | literal text h => simp

/-- Going through a list by number is going through another one beside it, where what is found under
a number agrees. -/
theorem map_zipIdx_eq_zipWith {α β γ : Type} {l : List α} {l' : List β}
    (hlength : l.length = l'.length) {f : α → Nat → γ} {g : α → β → γ}
    (h : ∀ i a b, l[i]? = some a → l'[i]? = some b → f a i = g a b) :
    (l.zipIdx.map fun x => f x.1 x.2) = l.zipWith g l' := by
  refine List.ext_getElem (by simp [hlength]) fun i hi hi' => ?_
  rw [List.length_map, List.length_zipIdx] at hi
  have hfirst := h i _ _ (List.getElem?_eq_getElem hi) (List.getElem?_eq_getElem (hlength ▸ hi))
  simpa using hfirst

/-- What a pattern says about a text that the thread at the end of the best way has split. -/
theorem matchText_of_splits {template uri : String} {re : Regex} {u : Thread}
    {values : List (Option (List Char))}
    (hgroups : re.groups = (paramsOf (tokensOf template)).length)
    (hfind : re.find uri.toList = .ok (some (re.foundAt u))) (hfirst : u.first = 0)
    (hsplits : Splits (tokensOf template) uri.toList values)
    (hreads : (Place.start uri.toList).Reads uri.toList u.place)
    (hrecalls : Recalls 0 values (.start (.start uri.toList)) u) :
    (Pattern.mk re (paramsOf (tokensOf template))).matchText template uri true =
      .ok (some (wholeMatch template uri values)) := by
  have htext : u.place.text = uri.toList := hrecalls.text_eq
  have hpart : String.ofList ((re.foundAt u).span.text uri.toList) = uri := by
    have hspan := hreads.span_text
    rw [htext] at hspan
    rw [foundAt, hfirst]
    exact (congrArg String.ofList hspan).trans String.ofList_toList
  have hslash : ¬(template = "/" ∧ uri = "") := by
    rintro ⟨rfl, rfl⟩
    exact ne_nil_of_splits_slash hsplits rfl
  unfold Pattern.matchText
  rw [hfind]
  simp only [hpart, if_neg hslash, not_true_eq_false, and_false, if_false, decide_true]
  have hall := map_zipIdx_eq_zipWith hsplits.length_eq.symm
    (f := fun p i => (p.name, ((re.foundAt u).group? (i + 1)).map fun span =>
      String.ofList (span.text uri.toList)))
    (g := fun p value => (p.name, value.map String.ofList)) fun i p value hp hvalue => by
      have hlt : i < re.groups := hgroups ▸ (List.getElem?_eq_some_iff.mp hp).1
      have hvalue := hrecalls.recalled i value hvalue
      rw [Nat.zero_add, Nat.add_comm 1 i, ← text_group? re u hlt, htext] at hvalue
      rw [← hvalue, Option.map_map]
      rfl
  exact congrArg (fun params => Except.ok (some (RouteMatch.mk template uri true params))) hall

theorem WithoutGroups.isDefault {template : String} (h : WithoutGroups template) {p : Param}
    (hp : .param p ∈ tokensOf template) : p.IsDefault :=
  assemble_isDefault (by decide) (fun m hm => h (.marker m) hm) hp

/-- A text that cannot be split among the tokens does not match the template as a whole. Any other
text does, and the values of the match are those of a splitting. -/
theorem evaluate_exactly {template : String} (h : WithoutGroups template) (uri : String) :
    uri.toList ∉ languageOf (tokensOf template) ∧ (exactly template).evaluate uri = .ok none ∨
      ∃ values, Splits (tokensOf template) uri.toList values ∧
        (exactly template).evaluate uri = .ok (some (wholeMatch template uri values)) := by
  obtain ⟨re, hcompile, hgroups, hfind⟩ :=
    compileTokens_whole (tokensOf template) fun _ hp => h.isDefault hp
  have hevaluate : (exactly template).evaluate uri =
      (Pattern.mk re (paramsOf (tokensOf template))).matchText template uri true :=
    firstMatch_singleton hcompile uri true
  rw [hevaluate]
  have hiff := isSome_wholeExpr_iff (tokensOf template) uri.toList
  have hfound := hfind uri.toList
  cases hways : ((wholeExpr (tokensOf template)).ways (.start (.start uri.toList))).head? with
  | none =>
    rw [hways] at hiff hfound
    refine .inl ⟨fun hmem => absurd (hiff.mpr hmem) (by simp), ?_⟩
    unfold Pattern.matchText
    rw [hfound]
    rfl
  | some u =>
    rw [hways] at hfound
    have hu := List.mem_of_head? hways
    obtain ⟨values, hsplits, hreads, hrecalls⟩ := splits_of_mem_wholeExpr hu
    have hfirst : u.first = 0 := ways_first _ _ u hu
    exact .inr ⟨values, hsplits,
      matchText_of_splits hgroups hfound hfirst hsplits hreads hrecalls⟩

/-- A text that can be split matches, though its values may be those of another splitting. -/
theorem evaluate_of_splits {template : String} (h : WithoutGroups template) {text : List Char}
    {values : List (Option (List Char))} (hsplits : Splits (tokensOf template) text values) :
    ∃ values', Splits (tokensOf template) text values' ∧
      (exactly template).evaluate (String.ofList text) =
        .ok (some (wholeMatch template (String.ofList text) values')) := by
  have hmatch := evaluate_exactly h (String.ofList text)
  rw [String.toList_ofList] at hmatch
  rcases hmatch with ⟨hnot, -⟩ | hmatch
  · exact absurd (mem_languageOf_iff.mpr ⟨values, hsplits⟩) hnot
  · exact hmatch

theorem splits_of_evaluate {template uri : String} (h : WithoutGroups template) {m : RouteMatch}
    (hm : (exactly template).evaluate uri = .ok (some m)) :
    ∃ values, Splits (tokensOf template) uri.toList values ∧
      m = wholeMatch template uri values := by
  rcases evaluate_exactly h uri with ⟨-, hnone⟩ | ⟨values, hsplits, hmatch⟩
  · exact absurd (hm.symm.trans hnone) (by simp)
  · have heq := hm.symm.trans hmatch
    simp only [Except.ok.injEq, Option.some.injEq] at heq
    exact ⟨values, hsplits, heq⟩

end MockHttp.Template
