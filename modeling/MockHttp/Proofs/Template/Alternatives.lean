import MockHttp.Proofs.Template.Branches
import MockHttp.Proofs.Template.Store

/-!
# Several templates at once

Several templates can be matched by one expression, in which each of them is an alternative, or one
after the other, each compiled by itself. Both ways find the same: the first template that matches
by itself decides, and its parameters are remembered by the groups after those of the templates
before it.

Results:
1. `compile_anyOf`: the alternatives are the branches of the templates.
2. `evaluate_alone`: the match of one template is made of the best way of its branch.
3. `head?_branches`: the best way of the alternatives is that of the first template that has one.
4. `anyOf_settles`: neither way is given up where the whole text must match.
5. `anyOf_agrees`: the two ways to match several templates agree.
-/

namespace MockHttp.Template

open Regex

namespace MatchFlags

variable {flags : MatchFlags}

/-! ## Compiled templates -/

/-- The branches of several templates, behind `g` groups of others. -/
def branches (flags : MatchFlags) : List (List Token) → Nat → List Expr
  | [], _ => []
  | tokens :: rest, g =>
    flags.branch tokens g :: flags.branches rest (g + (paramsOf tokens).length)

theorem branches_ne_nil {all : List (List Token)} (hne : all ≠ []) (g : Nat) :
    flags.branches all g ≠ [] := by
  cases all with
  | nil => exact absurd rfl hne
  | cons tokens rest => exact List.cons_ne_nil _ _

theorem ofAlt_branches_ne_empty {all : List (List Token)} (hne : all ≠ []) (g : Nat) :
    Expr.ofAlt (flags.branches all g) ≠ .empty := by
  cases all with
  | nil => exact absurd rfl hne
  | cons tokens rest =>
    cases rest with
    | cons next rest => exact fun h => nomatch h
    | nil =>
      show Expr.ofSeq (.anchor .textStart :: flags.branchExprs tokens g) ≠ .empty
      cases flags.branchExprs tokens g with
      | nil => exact fun h => nomatch h
      | cons e es => exact fun h => nomatch h

theorem all_isSteady_branches (all : List (List Token)) (g : Nat) :
    (flags.branches all g).all Expr.isSteady = true := by
  induction all generalizing g with
  | nil => rfl
  | cons tokens rest ih => rw [branches, List.all_cons, isSteady_branch, ih, Bool.and_self]

theorem all_isQuick_branches (hstop : flags.stop = true) (all : List (List Token)) (g : Nat) :
    (flags.branches all g).all Expr.isQuick = true := by
  induction all generalizing g with
  | nil => rfl
  | cons tokens rest ih => rw [branches, List.all_cons, isQuick_branch hstop, ih, Bool.and_self]

theorem isAnchored_of_mem {all : List (List Token)} {g : Nat} {e : Expr}
    (he : e ∈ flags.branches all g) : e.IsAnchored := by
  induction all generalizing g with
  | nil => exact absurd he List.not_mem_nil
  | cons tokens rest ih =>
    rcases List.mem_cons.mp he with rfl | he
    · exact flags.isAnchored_branch tokens g
    · exact ih he

/-- The texts of several templates write their branches as alternatives. -/
theorem writes_branches {all : List (List Token)} (hne : all ≠ [])
    (h : ∀ tokens ∈ all, ∀ p, Token.param p ∈ tokens → p.IsDefault) :
    WritesBody (joinWith ['|'] (all.map (expressionOf flags.options)))
      (all.flatMap paramsOf).length 4 (flags.branches all) (!flags.sensitive) := by
  induction all with
  | nil => exact absurd rfl hne
  | cons tokens rest ih =>
    have hfirst := flags.writes_branch (h tokens List.mem_cons_self)
    rw [List.flatMap_cons, List.length_append]
    cases rest with
    | nil => exact hfirst.toBody
    | cons next rest =>
      have hrest := ih (by simp) fun ts hts => h ts (List.mem_cons_of_mem _ hts)
      rw [List.map_cons, joinWith_cons _ _ (by simp), List.append_assoc]
      exact hfirst.or hrest

def regexOf (flags : MatchFlags) (tokens : List Token) : Regex where
  source := String.ofList (caseText (!flags.sensitive) ++ expressionOf flags.options tokens)
  expr := flags.branch tokens 0
  groups := (paramsOf tokens).length

/-- The expression of several templates. -/
def regexOfAny (flags : MatchFlags) (all : List (List Token)) : Regex where
  source := String.ofList (caseText (!flags.sensitive) ++
    groupText (joinWith ['|'] (all.map (expressionOf flags.options))))
  expr := .ofAlt (flags.branches all 0)
  groups := (all.flatMap paramsOf).length

theorem compile_alone (flags : MatchFlags) {template : String} (h : WithoutGroups template) :
    (Source.template template.toList).compile flags.options =
      .ok ⟨flags.regexOf (tokensOf template), paramsOf (tokensOf template)⟩ := by
  have hread := readExpression_of_writes (flags.writes_branch fun _ hp => h.isDefault hp)
    (by decide) (flags.isSteady_branch (tokensOf template) 0)
  show compileTokens flags.options (tokensOf template) = _
  rw [compileTokens, flagText_eq, hread]
  rfl

theorem compile_anyOf (flags : MatchFlags) {templates : List String} (hne : templates ≠ [])
    (h : ∀ t ∈ templates, WithoutGroups t) :
    (Source.anyOf (templates.map String.toList)).compile flags.options =
      .ok ⟨flags.regexOfAny (templates.map tokensOf),
        (templates.map tokensOf).flatMap paramsOf⟩ := by
  have hall : templates.map tokensOf ≠ [] := by simpa using hne
  have hbody : WritesBody _ _ 4 (flags.branches (templates.map tokensOf)) (!flags.sensitive) :=
    writes_branches hall fun tokens htokens p hp => by
      obtain ⟨t, ht, rfl⟩ := List.mem_map.mp htokens
      exact (h t ht).isDefault hp
  have hsteady (g : Nat) :
      (Expr.ofAlt (flags.branches (templates.map tokensOf) g)).isSteady = true := by
    rw [Expr.isSteady_ofAlt, all_isSteady_branches]
  have hread := readExpression_of_writes (hbody.bare (ofAlt_branches_ne_empty hall)).toWrites
    (by decide) (hsteady 0)
  have htokens : (templates.map String.toList).map (tokenize flags.options.delimiters) =
      templates.map tokensOf := List.map_map
  have hsource : (Source.anyOf (templates.map String.toList)).compile flags.options = (do
      let re ← readExpression (flags.options.flagText ++ groupText (joinWith ['|']
        (((templates.map String.toList).map (tokenize flags.options.delimiters)).map
          (expressionOf flags.options))))
      return ⟨re, ((templates.map String.toList).map
        (tokenize flags.options.delimiters)).flatMap paramsOf⟩) := rfl
  rw [hsource, htokens, flagText_eq]
  exact congrArg (· >>= _) hread

/-! ## Matches of one template -/

/-- The match of a template that the thread at the end of a way stands for. -/
def matchAt (template uri : String) (u : Thread) : RouteMatch where
  path := template
  url := String.ofList (Span.text ⟨0, u.place.pos⟩ uri.toList)
  isExact := uri = String.ofList (Span.text ⟨0, u.place.pos⟩ uri.toList)
  params := (paramsOf (tokensOf template)).zipIdx.map fun (param, i) =>
    (param.name, (u.capture? (i + 1)).map fun c =>
      String.ofList (Span.text ⟨c.first, c.last⟩ uri.toList))

/-- The ways of the branch of a template from the start of a text. -/
def waysOf (flags : MatchFlags) (template uri : String) : List Thread :=
  (flags.branch (tokensOf template) 0).ways (.start (.start uri.toList))

/-- What a way of a branch has read is what its span holds. -/
theorem span_text_of_mem {e : Expr} {text : List Char} {u : Thread}
    (hu : u ∈ e.ways (.start (.start text))) :
    text = Span.text ⟨0, u.place.pos⟩ text ++ u.place.rest := by
  obtain ⟨w, hw⟩ := ways_reads e _ u hu
  have htext : u.place.text = text := hw.text_eq
  have hspan : Span.text ⟨0, u.place.pos⟩ u.place.text = w := hw.span_text
  rw [htext] at hspan
  rw [hspan]
  exact hw.rest_eq

/-- What a way of an expression that always consumes something has read is not empty. -/
theorem span_text_ne_nil {e : Expr} (he : e.consumes = true) {text : List Char} {u : Thread}
    (hu : u ∈ e.ways (.start (.start text))) : Span.text ⟨0, u.place.pos⟩ text ≠ [] := by
  have hless : u.place.rest.length < text.length := ways_consume he hu
  intro hnil
  have hspan := span_text_of_mem hu
  rw [hnil, List.nil_append] at hspan
  rw [← hspan] at hless
  exact Nat.lt_irrefl _ hless

/-- A branch that must reach to the end of a text reads all of it. -/
theorem url_eq_of_stop {template uri : String} {u : Thread} (hstop : flags.stop = true)
    (hu : u ∈ flags.waysOf template uri) : (matchAt template uri u).url = uri := by
  have hspan := span_text_of_mem hu
  rw [rest_of_mem_branch hstop hu, List.append_nil] at hspan
  rw [matchAt]
  dsimp only
  rw [← hspan, String.ofList_toList]

/-- The template `/` reads a character. -/
theorem url_ne_empty_of_slash {uri : String} {u : Thread} (hu : u ∈ flags.waysOf "/" uri) :
    (matchAt "/" uri u).url ≠ "" := by
  have hconsumes : (flags.branch (tokensOf "/") 0).consumes = true := by
    have htokens : tokensOf "/" = [.literal ['/']] := by decide +kernel
    rw [htokens, branch, consumes_ofSeq, branchExprs]
    rfl
  intro hempty
  refine span_text_ne_nil hconsumes hu ?_
  simpa [matchAt] using congrArg String.toList hempty

theorem group?_foundAt (re : Regex) (u : Thread) {n : Nat} (hn : n < re.groups) :
    (re.foundAt u).group? (n + 1) = (u.capture? (n + 1)).map fun c => ⟨c.first, c.last⟩ := by
  rw [Found.group?, foundAt, List.getElem?_map, List.getElem?_range hn, Option.map_some,
    Option.join_some]

/-- The pattern of a template matches where its branch has a way, the best of which is the match. -/
theorem matchText_regexOf {template uri : String} {answer : Option Found}
    (hfind : (flags.regexOf (tokensOf template)).find uri.toList = .ok answer) :
    (Pattern.mk (flags.regexOf (tokensOf template)) (paramsOf (tokensOf template))).matchText
        template uri flags.stop =
      .ok ((flags.waysOf template uri).head?.map (matchAt template uri)) := by
  have hanswer := find_eq_ok (flags.isSteady_branch (tokensOf template) 0) hfind
  have hfirstWay : (flags.regexOf (tokensOf template)).expr.firstWay (.start uri.toList) =
      (flags.waysOf template uri).head? := (flags.isAnchored_branch _ 0).firstWay_eq uri.toList
  rw [hfirstWay] at hanswer
  unfold Pattern.matchText
  rw [hfind, hanswer]
  cases hhead : (flags.waysOf template uri).head? with
  | none => rfl
  | some u =>
    have hu := List.mem_of_head? hhead
    have hfirst : u.first = 0 := ways_first _ _ u hu
    have hurl : ((flags.regexOf (tokensOf template)).foundAt u).span = ⟨0, u.place.pos⟩ := by
      rw [foundAt, hfirst]
    have hslash : ¬(template = "/" ∧
        String.ofList (Span.text ⟨0, u.place.pos⟩ uri.toList) = "") := by
      rintro ⟨rfl, hempty⟩
      exact url_ne_empty_of_slash hu hempty
    have hexact : ¬(flags.stop = true ∧
        ¬uri = String.ofList (Span.text ⟨0, u.place.pos⟩ uri.toList)) := by
      rintro ⟨hstop, hno⟩
      exact hno (url_eq_of_stop hstop hu).symm
    have hparams : ∀ x ∈ (paramsOf (tokensOf template)).zipIdx,
        (x.1.name, (((flags.regexOf (tokensOf template)).foundAt u).group? (x.2 + 1)).map
          fun span => String.ofList (span.text uri.toList)) =
        (x.1.name, (u.capture? (x.2 + 1)).map fun c =>
          String.ofList (Span.text ⟨c.first, c.last⟩ uri.toList)) := by
      rintro ⟨param, i⟩ hx
      have hi : i < (paramsOf (tokensOf template)).length := by
        simpa using (List.mem_zipIdx hx).2.1
      rw [group?_foundAt _ u hi, Option.map_map]
      rfl
    simp only [Option.map_some, hurl, if_neg hslash, if_neg hexact]
    rw [List.map_congr_left hparams]
    rfl

/-! ## Templates one after the other -/

/-- The templates as a route pattern, earlier ones preferred. -/
def routes (flags : MatchFlags) (templates : List String) : RoutePattern where
  paths := templates
  exact := flags.stop
  strict := flags.strict
  sensitive := flags.sensitive

theorem evaluate_cons (flags : MatchFlags) (template : String) (rest : List String)
    (uri : String) :
    (flags.routes (template :: rest)).evaluate uri =
      match (flags.routes [template]).evaluate uri with
      | .error e => .error e
      | .ok (some m) => .ok (some m)
      | .ok none => (flags.routes rest).evaluate uri :=
  firstMatch_cons flags.options uri flags.stop template rest

theorem evaluate_singleton (flags : MatchFlags) {template : String} (h : WithoutGroups template)
    (uri : String) :
    (flags.routes [template]).evaluate uri =
      (Pattern.mk (flags.regexOf (tokensOf template)) (paramsOf (tokensOf template))).matchText
        template uri flags.stop :=
  firstMatch_singleton (compile_alone flags h) uri flags.stop

/-- A template that is matched by itself takes the best way of its branch. -/
theorem evaluate_alone {template uri : String} (h : WithoutGroups template)
    {found : Option RouteMatch} (hfound : (flags.routes [template]).evaluate uri = .ok found) :
    found = (flags.waysOf template uri).head?.map (matchAt template uri) := by
  rw [evaluate_singleton flags h] at hfound
  cases hfind : (flags.regexOf (tokensOf template)).find uri.toList with
  | error cause =>
    rw [Pattern.matchText, hfind] at hfound
    exact absurd hfound (by simp)
  | ok answer =>
    rw [matchText_regexOf hfind] at hfound
    exact (Except.ok.inj hfound).symm

/-- Where the whole text must match, templates without groups always have an answer. -/
theorem exists_evaluate (hstop : flags.stop = true) {templates : List String}
    (h : ∀ t ∈ templates, WithoutGroups t) (uri : String) :
    ∃ found, (flags.routes templates).evaluate uri = .ok found := by
  induction templates with
  | nil => exact ⟨none, rfl⟩
  | cons template rest ih =>
    obtain ⟨found, hrest⟩ := ih fun t ht => h t (List.mem_cons_of_mem _ ht)
    have hquick : (flags.regexOf (tokensOf template)).expr.isQuick = true :=
      flags.isQuick_branch hstop (tokensOf template) 0
    rw [evaluate_cons, evaluate_singleton flags (h template List.mem_cons_self),
      matchText_regexOf (find_of_isQuick hquick uri.toList), hrest]
    cases (flags.waysOf template uri).head? with
    | none => exact ⟨found, rfl⟩
    | some u => exact ⟨some (matchAt template uri u), rfl⟩

def groupsOf (templates : List String) : Nat :=
  ((templates.map tokensOf).flatMap paramsOf).length

/-- Behind other branches a branch has the ways that it has by itself, with raised numbers. -/
theorem ways_branch (flags : MatchFlags) (template uri : String) (g : Nat) :
    (flags.branch (tokensOf template) g).ways (.start (.start uri.toList)) =
      (flags.waysOf template uri).map (Thread.raise g) := by
  rw [← raise_branch, ← Thread.raise_start]
  exact ways_raise g _ _

/-- The best way of the branches is that of the first template that matches by itself. -/
theorem head?_branches {templates : List String} (h : ∀ t ∈ templates, WithoutGroups t)
    {uri : String} {found : Option RouteMatch}
    (hfound : (flags.routes templates).evaluate uri = .ok found) (g : Nat) :
    (found = none ∧ ((flags.branches (templates.map tokensOf) g).flatMap
      (·.ways (.start (.start uri.toList)))).head? = none) ∨
    ∃ before template after u, templates = before ++ template :: after ∧
      (∀ t ∈ before, (flags.routes [t]).evaluate uri = .ok none) ∧
      (flags.routes [template]).evaluate uri = .ok found ∧
      u ∈ flags.waysOf template uri ∧ found = some (matchAt template uri u) ∧
      ((flags.branches (templates.map tokensOf) g).flatMap
        (·.ways (.start (.start uri.toList)))).head? = some (u.raise (g + groupsOf before)) := by
  induction templates generalizing g with
  | nil => exact .inl ⟨(Except.ok.inj hfound).symm, rfl⟩
  | cons template rest ih =>
    rw [evaluate_cons] at hfound
    rw [List.map_cons, branches, List.flatMap_cons, ways_branch]
    cases halone : (flags.routes [template]).evaluate uri with
    | error e =>
      rw [halone] at hfound
      exact absurd hfound (by simp)
    | ok own =>
      have hown := evaluate_alone (h template List.mem_cons_self) halone
      rw [halone] at hfound
      cases own with
      | some m =>
        -- the template matches, and its best way comes before those of all others
        obtain rfl := Except.ok.inj hfound
        obtain ⟨u, hhead, hm⟩ := Option.map_eq_some_iff.mp hown.symm
        refine .inr ⟨[], template, rest, u, rfl, by simp, halone, List.mem_of_head? hhead,
          by rw [hm], ?_⟩
        rw [List.head?_append, List.head?_map, hhead]
        rfl
      | none =>
        have hnil : flags.waysOf template uri = [] :=
          List.head?_eq_none_iff.mp (Option.map_eq_none_iff.mp hown.symm)
        rw [hnil, List.map_nil, List.nil_append]
        rcases ih (fun t ht => h t (List.mem_cons_of_mem _ ht)) hfound
          (g + (paramsOf (tokensOf template)).length) with hnone |
          ⟨before, first, after, u, rfl, hbefore, hfirst, hu, hmatch, hhead⟩
        · exact .inl hnone
        · refine .inr ⟨template :: before, first, after, u, rfl, ?_, hfirst, hu, hmatch, ?_⟩
          · exact List.forall_mem_cons.mpr ⟨halone, hbefore⟩
          · rw [hhead, groupsOf, groupsOf, List.map_cons, List.flatMap_cons, List.length_append,
              Nat.add_assoc]

/-! ## Templates at once -/

/-- The match of several templates at once tells the same as the match of one of them, `before`
being those before it: the same text is matched, the parameters are what the groups after those of
the templates before it remember, and all other groups are absent. -/
structure TellsSame (uri : String) (before : List String) (f : Found) (m : RouteMatch) : Prop where
  first : f.span.first = 0
  url : String.ofList (f.span.text uri.toList) = m.url
  params : m.params = (paramsOf (tokensOf m.path)).zipIdx.map fun (param, i) =>
    (param.name, (f.group? (groupsOf before + i + 1)).map fun span =>
      String.ofList (span.text uri.toList))
  others : ∀ n, 0 < n → n ≤ groupsOf before ∨
    groupsOf before + (paramsOf (tokensOf m.path)).length < n → f.group? n = none

theorem tellsSame_of_mem {before after : List String} {template uri : String} {u : Thread}
    (hu : u ∈ flags.waysOf template uri) :
    TellsSame uri before
      ((flags.regexOfAny ((before ++ template :: after).map tokensOf)).foundAt
        (u.raise (groupsOf before))) (matchAt template uri u) := by
  have hfirst : u.first = 0 := ways_first _ _ u hu
  have hspan : ((flags.regexOfAny ((before ++ template :: after).map tokensOf)).foundAt
      (u.raise (groupsOf before))).span = ⟨0, u.place.pos⟩ := by
    rw [foundAt, Thread.raise_first, Thread.raise_place, hfirst]
  have hgroups : groupsOf before + (paramsOf (tokensOf template)).length ≤
      (flags.regexOfAny ((before ++ template :: after).map tokensOf)).groups := by
    simp [regexOfAny, groupsOf]
  constructor
  · rw [hspan]
  · rw [hspan]
    rfl
  · refine List.map_congr_left fun x hx => ?_
    obtain ⟨param, i⟩ := x
    have hi : i < (paramsOf (tokensOf template)).length := by
      simpa using (List.mem_zipIdx hx).2.1
    have hnumber : groupsOf before + i + 1 = i + 1 + groupsOf before := by omega
    dsimp only
    rw [group?_foundAt _ _ (by omega), hnumber, Thread.capture?_raise, Option.map_map,
      Option.map_map]
    rfl
  · intro n hn hother
    obtain ⟨i, rfl⟩ := Nat.exists_eq_succ_of_ne_zero (Nat.pos_iff_ne_zero.mp hn)
    by_cases hi : i < (flags.regexOfAny ((before ++ template :: after).map tokensOf)).groups
    · have hraised : u.raise (groupsOf before) ∈
          (flags.branch (tokensOf template) (groupsOf before)).ways
            (.start (.start uri.toList)) := by
        rw [ways_branch]
        exact List.mem_map_of_mem hu
      have hno : i + 1 ∉ (flags.branch (tokensOf template) (groupsOf before)).groupNumbers := by
        rw [groupNumbers_branch, List.mem_range'_1]
        have hpath : (matchAt template uri u).path = template := rfl
        rw [hpath] at hother
        omega
      have hcapture : (u.raise (groupsOf before)).capture? (i + 1) = none :=
        ways_capture? hno _ _ hraised
      rw [group?_foundAt _ _ hi, hcapture]
      rfl
    · rw [Found.group?, foundAt, List.getElem?_map, List.getElem?_eq_none (by simpa using hi)]
      rfl

/-- The alternatives match at the start of the text where one of the branches does. -/
theorem find_regexOfAny {templates : List String} (hne : templates ≠ []) {uri : String}
    {answer : Option Found}
    (hfind : (flags.regexOfAny (templates.map tokensOf)).find uri.toList = .ok answer) :
    answer = ((flags.branches (templates.map tokensOf) 0).flatMap
      (·.ways (.start (.start uri.toList)))).head?.map
        (flags.regexOfAny (templates.map tokensOf)).foundAt := by
  have hall : flags.branches (templates.map tokensOf) 0 ≠ [] :=
    branches_ne_nil (by simpa using hne) 0
  have hsteady : (flags.regexOfAny (templates.map tokensOf)).expr.isSteady = true := by
    rw [regexOfAny, Expr.isSteady_ofAlt, all_isSteady_branches]
  have hanchored : (flags.regexOfAny (templates.map tokensOf)).expr.IsAnchored := by
    intro t ht
    rw [regexOfAny, Expr.ways_ofAlt hall]
    exact List.flatMap_eq_nil_iff.mpr fun e he => isAnchored_of_mem he t ht
  rw [find_eq_ok hsteady hfind, hanchored.firstWay_eq, regexOfAny, Expr.ways_ofAlt hall]

/-- Where the whole text must match, neither way to match several templates is ever given up. -/
theorem anyOf_settles {templates : List String} (hne : templates ≠ [])
    (h : ∀ t ∈ templates, WithoutGroups t) (strict sensitive : Bool) :
    ∃ pattern,
      (Source.anyOf (templates.map String.toList)).compile
        { stop := true, strict := strict, sensitive := sensitive } = .ok pattern ∧
      ∀ capacity earlier uri,
        (∃ answer, pattern.regex.find uri.toList = .ok answer) ∧
        ∃ found, (((Store.new capacity).after earlier).matchPath uri
          ⟨templates, true, strict, sensitive⟩).value.2 = .ok found := by
  let flags : MatchFlags := ⟨true, strict, sensitive⟩
  have hquick : (flags.regexOfAny (templates.map tokensOf)).expr.isQuick = true := by
    rw [regexOfAny, Expr.isQuick_ofAlt, all_isQuick_branches rfl]
  refine ⟨_, compile_anyOf flags hne h, fun capacity earlier uri => ?_⟩
  obtain ⟨found, hfound⟩ := flags.exists_evaluate rfl h uri
  have hstore := Store.after_isFaithful (.new capacity) earlier
  exact ⟨⟨_, find_of_isQuick hquick uri.toList⟩,
    found, (Store.matchAny_spec hstore uri flags templates).2.trans hfound⟩

/-- Several templates at once and one after the other, where neither search is given up. The
alternatives match a text exactly if one of the templates does. The template whose match comes first
is the first that matches by itself, its match is the one that it has by itself, and the match of
the alternatives tells the same. -/
theorem anyOf_agrees {templates : List String} (hne : templates ≠ [])
    (h : ∀ t ∈ templates, WithoutGroups t) (exact strict sensitive : Bool) :
    ∃ pattern,
      (Source.anyOf (templates.map String.toList)).compile
        { stop := exact, strict := strict, sensitive := sensitive } = .ok pattern ∧
      pattern.params = templates.flatMap (fun t => paramsOf (tokensOf t)) ∧
      ∀ capacity earlier uri answer found,
        let matched (paths : List String) :=
          (((Store.new capacity).after earlier).matchPath uri
            { paths, exact, strict, sensitive }).value.2
        pattern.regex.find uri.toList = .ok answer → matched templates = .ok found →
          answer.isSome = found.isSome ∧
          ∀ f m, answer = some f → found = some m →
            ∃ before after, templates = before ++ m.path :: after ∧
              (∀ t ∈ before, matched [t] = .ok none) ∧ matched [m.path] = .ok (some m) ∧
              TellsSame uri before f m := by
  let flags : MatchFlags := ⟨exact, strict, sensitive⟩
  refine ⟨_, compile_anyOf flags hne h, List.flatMap_map _ _ _, ?_⟩
  intro capacity earlier uri answer found matched hanswer hfound
  have hstore := Store.after_isFaithful (.new capacity) earlier
  have hmatched (paths : List String) : matched paths = (flags.routes paths).evaluate uri :=
    (Store.matchAny_spec hstore uri flags paths).2
  rw [hmatched] at hfound
  simp only [hmatched]
  have hanswer := find_regexOfAny hne hanswer
  rcases head?_branches h hfound 0 with ⟨rfl, hhead⟩ |
    ⟨before, template, after, u, rfl, hbefore, halone, hu, rfl, hhead⟩
  · rw [hhead, Option.map_none] at hanswer
    obtain rfl := hanswer
    exact ⟨rfl, fun f m hf => nomatch hf⟩
  · rw [hhead, Option.map_some, Nat.zero_add] at hanswer
    obtain rfl := hanswer
    refine ⟨rfl, fun f m hf hm => ?_⟩
    obtain rfl := Option.some_inj.mp hf
    obtain rfl := Option.some_inj.mp hm
    exact ⟨before, after, rfl, hbefore, halone, tellsSame_of_mem hu⟩

/-- Two templates of which only the second matches `/y`. -/
def nestedOrFlat : List String :=
  ["/x/:a", "/:b"]

theorem withoutGroups_nestedOrFlat : ∀ t ∈ nestedOrFlat, WithoutGroups t := by
  have hnested : pieces "/x/:a".toList =
      [.plain '/', .plain 'x', .plain '/', .marker ⟨some ['a'], none, none, none⟩] := by
    decide +kernel
  have hflat : pieces "/:b".toList = [.plain '/', .marker ⟨some ['b'], none, none, none⟩] := by
    decide +kernel
  intro t ht
  simp only [nestedOrFlat, List.mem_cons, List.not_mem_nil, or_false] at ht
  rcases ht with rfl | rfl
  · rw [WithoutGroups, hnested]
    decide
  · rw [WithoutGroups, hflat]
    decide

set_option maxRecDepth 1024 in
/-- The first group belongs to the template that does not match. -/
theorem anyOf_agrees_nestedOrFlat :
    (∀ t ∈ nestedOrFlat, WithoutGroups t) ∧
      ∃ pattern, (Source.anyOf (nestedOrFlat.map String.toList)).compile { stop := true } =
          .ok pattern ∧
        pattern.regex.find "/y".toList = .ok (some ⟨⟨0, 2⟩, [none, some ⟨1, 2⟩]⟩) ∧
        TellsSame "/y" ["/x/:a"] ⟨⟨0, 2⟩, [none, some ⟨1, 2⟩]⟩
          ⟨"/:b", "/y", true, [(.named "b", some "y")]⟩ := by
  have hne : nestedOrFlat ≠ [] := List.cons_ne_nil _ _
  have hgroups := withoutGroups_nestedOrFlat
  obtain ⟨pattern, hcompile, -, hagrees⟩ := anyOf_agrees hne hgroups true false false
  have hpattern := compile_anyOf ⟨true, false, false⟩ hne hgroups
  obtain rfl := Except.ok.inj (hcompile.symm.trans hpattern)
  have hfind : (regexOfAny ⟨true, false, false⟩ (nestedOrFlat.map tokensOf)).find "/y".toList =
      .ok (some ⟨⟨0, 2⟩, [none, some ⟨1, 2⟩]⟩) := by decide +kernel
  have hevaluate : (RoutePattern.mk nestedOrFlat true false false).evaluate "/y" =
      .ok (some ⟨"/:b", "/y", true, [(.named "b", some "y")]⟩) := by decide +kernel
  have hstore := Store.after_isFaithful (.new 0) []
  have hmatched := (Store.matchAny_spec hstore "/y" ⟨true, false, false⟩ nestedOrFlat).2.trans
    hevaluate
  obtain ⟨-, hsame⟩ := hagrees 0 [] "/y" _ _ hfind hmatched
  obtain ⟨before, after, hsplit, -, -, htells⟩ := hsame _ _ rfl rfl
  -- `/:b` is the second template
  obtain ⟨rfl, rfl⟩ : before = ["/x/:a"] ∧ after = [] := by
    simpa [nestedOrFlat, List.cons_eq_append_iff] using hsplit
  exact ⟨hgroups, _, hcompile, hfind, htells⟩

end MatchFlags

end MockHttp.Template
