import MockHttp.Proofs.Template.Splicing
import MockHttp.Template.RouteMatch

/-!
# Parameters and their groups

The value of a parameter is read from the group that has the parameter's place in the order. This is
the group that was written for it exactly if the reader opens the groups at the parentheses of the
parameters, in their order, and at no other. `Stretch` keeps the text of an expression apart from
the groups of its parameters, so that their parentheses can be told.

A pattern that a template gives can take its own parenthesis away, when a question mark makes it the
beginning of something else, and it can take away later ones, when it leaves a bracket open.
`Param.KeepsGroups` says that it does neither.

Results:
1. `writeAll_templateStretches`, `writeAll_anyOfStretches`: the stretches are the expression that is
   compiled.
2. `openings_writeAll`, `closed_of_length`: what the patterns of the parameters do to the groups.
3. `compile_aligned_iff`: the groups are those of the parameters exactly if every pattern keeps its
   groups.
-/

namespace MockHttp.Template

open Regex Zone

/-! ## Stretches -/

/-- A stretch of the expression of a template. -/
inductive Stretch where
  /-- Text around the parameters. -/
  | text (cs : List Char)
  /-- The remembered group of a parameter. -/
  | group (p : Param)
  deriving DecidableEq, Repr

namespace Stretch

def write : Stretch → List Char
  | text cs => cs
  | group p => captureText p.valueText

def writeAll (stretches : List Stretch) : List Char :=
  stretches.flatMap write

def params : List Stretch → List Param
  | [] => []
  | text _ :: rest => params rest
  | group p :: rest => p :: params rest

/-- The texts that follow the parentheses of the parameters. -/
def places : List Stretch → List (List Char)
  | [] => []
  | text _ :: rest => places rest
  | group p :: rest => (p.valueText ++ ')' :: writeAll rest) :: places rest

end Stretch

def Param.stretches (p : Param) : List Stretch :=
  let lead := escapeLiteral p.leadText
  if p.optional then
    if p.inSegment then [.text lead, .group p, .text ['?']]
    else [.text (['(', '?', ':'] ++ lead), .group p, .text [')', '?']]
  else [.text lead, .group p]

def Token.stretches : Token → List Stretch
  | literal text => [.text (escapeLiteral text)]
  | param p => p.stretches

def stretchesOf (options : Options) (tokens : List Token) : List Stretch :=
  .text (if options.start then ['^'] else []) :: tokens.flatMap Token.stretches ++
    [.text (options.endingText (endsDelimited options.delimiters tokens))]

def joinStretches : List (List Stretch) → List Stretch
  | [] => []
  | [item] => item
  | item :: items => item ++ .text ['|'] :: joinStretches items

def templateStretches (options : Options) (template : List Char) : List Stretch :=
  .text options.flagText :: stretchesOf options (tokenize options.delimiters template)

/-- The stretches of templates that are alternatives. -/
def anyOfStretches (options : Options) (templates : List (List Char)) : List Stretch :=
  .text options.flagText :: .text ['(', '?', ':'] ::
    joinStretches (templates.map fun template =>
      stretchesOf options (tokenize options.delimiters template)) ++ [.text [')']]

/-- The texts that follow the parentheses at which a source writes the groups of its parameters. The
groups of an expression that is given as such are its own. -/
def Source.places (options : Options) : Source → List (List Char)
  | template text => Stretch.places (templateStretches options text)
  | anyOf templates => Stretch.places (anyOfStretches options templates)
  | expression re => Regex.openings re.source.toList

/-- Every parameter has the group that was written for it: there are as many groups as parameters,
and they open at the places of the parameters, in their order. -/
structure Pattern.Aligned (pattern : Pattern) (places : List (List Char)) : Prop where
  groups : pattern.regex.groups = pattern.params.length
  openings : Regex.openings pattern.regex.source.toList = places

/-- The pattern of the parameter leaves its own group and the groups after it alone: a question mark
that begins it, unless it is repeated, gives the group a name, and all brackets that it opens are
closed. -/
def Param.KeepsGroups (p : Param) : Prop :=
  (p.repeated || remembers p.pattern) = true ∧ outside.after p.pattern = outside

instance (p : Param) : Decidable p.KeepsGroups :=
  inferInstanceAs (Decidable (_ ∧ _))

/-! ## The text of stretches -/

namespace Stretch

@[simp] theorem writeAll_nil : writeAll [] = [] := rfl

@[simp] theorem writeAll_cons (s : Stretch) (rest : List Stretch) :
    writeAll (s :: rest) = s.write ++ writeAll rest := List.flatMap_cons

@[simp] theorem writeAll_append (a b : List Stretch) :
    writeAll (a ++ b) = writeAll a ++ writeAll b := List.flatMap_append

@[simp] theorem params_append (a b : List Stretch) : params (a ++ b) = params a ++ params b := by
  induction a with
  | nil => rfl
  | cons s a ih => cases s <;> simp [params, ih]

theorem length_places (stretches : List Stretch) :
    (places stretches).length = (params stretches).length := by
  induction stretches with
  | nil => rfl
  | cons s rest ih => cases s <;> simp [places, params, ih]

end Stretch

open Stretch

theorem writeAll_param (p : Param) : writeAll p.stretches = p.expressionText := by
  unfold Param.stretches Param.expressionText
  split
  · split <;> simp [write, groupText]
  · simp [write]

theorem writeAll_stretchesOf (options : Options) (tokens : List Token) :
    writeAll (stretchesOf options tokens) = expressionOf options tokens := by
  have htokens : writeAll (tokens.flatMap Token.stretches) =
      tokens.flatMap Token.expressionText := by
    induction tokens with
    | nil => rfl
    | cons token tokens ih =>
      rw [List.flatMap_cons, writeAll_append, List.flatMap_cons, ih]
      congr 1
      cases token with
      | literal text => exact List.append_nil _
      | param p => exact writeAll_param p
  simp [stretchesOf, expressionOf, htokens, write]

theorem writeAll_templateStretches (options : Options) (template : List Char) :
    writeAll (templateStretches options template) =
      options.flagText ++ expressionOf options (tokenize options.delimiters template) := by
  rw [templateStretches, writeAll_cons, writeAll_stretchesOf]
  rfl

theorem writeAll_joinStretches (items : List (List Stretch)) :
    writeAll (joinStretches items) = joinWith ['|'] (items.map writeAll) := by
  fun_induction joinStretches items with
  | case1 => rfl
  | case2 item => rfl
  | case3 item items hne ih =>
    rw [writeAll_append, writeAll_cons, ih, List.map_cons, joinWith, List.append_assoc]
    · rfl
    · simpa using hne

theorem writeAll_anyOfStretches (options : Options) (templates : List (List Char)) :
    writeAll (anyOfStretches options templates) = options.flagText ++ groupText (joinWith ['|']
      ((templates.map (tokenize options.delimiters)).map (expressionOf options))) := by
  have hitems : (templates.map fun template =>
      stretchesOf options (tokenize options.delimiters template)).map writeAll =
        (templates.map (tokenize options.delimiters)).map (expressionOf options) := by
    rw [List.map_map, List.map_map]
    exact List.map_congr_left fun template _ => writeAll_stretchesOf options _
  rw [anyOfStretches, writeAll_append, writeAll_cons, writeAll_cons, writeAll_joinStretches, hitems]
  simp [write, groupText]

theorem params_stretches (p : Param) : params p.stretches = [p] := by
  unfold Param.stretches
  split
  · split <;> rfl
  · rfl

theorem params_stretchesOf (options : Options) (tokens : List Token) :
    params (stretchesOf options tokens) = paramsOf tokens := by
  have htokens : params (tokens.flatMap Token.stretches) = paramsOf tokens := by
    induction tokens with
    | nil => rfl
    | cons token tokens ih =>
      rw [List.flatMap_cons, params_append, ih]
      cases token with
      | literal text => rfl
      | param p => rw [Token.stretches, params_stretches]; rfl
  rw [stretchesOf, params_append, params, htokens]
  exact List.append_nil _

theorem params_templateStretches (options : Options) (template : List Char) :
    params (templateStretches options template) =
      paramsOf (tokenize options.delimiters template) :=
  params_stretchesOf options _

theorem params_anyOfStretches (options : Options) (templates : List (List Char)) :
    params (anyOfStretches options templates) =
      (templates.map (tokenize options.delimiters)).flatMap paramsOf := by
  have hjoin (items : List (List Stretch)) :
      params (joinStretches items) = items.flatMap params := by
    fun_induction joinStretches items with
    | case1 => rfl
    | case2 item => simp
    | case3 item items _ ih => rw [params_append, params, ih, List.flatMap_cons]
  rw [anyOfStretches, params_append, params, params, hjoin, List.flatMap_map, List.flatMap_map]
  simp only [params, List.append_nil, params_stretchesOf]

/-! ## Brackets between the parameters -/

/-- The stretch can stand between others: its text is inert, or its pattern carries on. -/
def Stretch.IsSound : Stretch → Prop
  | text cs => Inert cs
  | group p => Carries p.pattern

theorem isSound_stretches {p : Param} (hp : Carries p.pattern) : ∀ s ∈ p.stretches, s.IsSound := by
  have hlead := inert_escapeLiteral p.leadText
  have hquestion : Inert ['?'] := .single (by decide)
  have hclose : Inert [')', '?'] := .ordinary (by decide) hquestion
  unfold Param.stretches
  extract_lets lead
  split
  · split
    · simpa [IsSound] using ⟨hlead, hp, hquestion⟩
    · simpa [IsSound] using ⟨Inert.bareOpening.append hlead, hp, hclose⟩
  · simpa [IsSound] using ⟨hlead, hp⟩

theorem isSound_stretchesOf (options : Options) {tokens : List Token}
    (htokens : ∀ p ∈ paramsOf tokens, Carries p.pattern) :
    ∀ s ∈ stretchesOf options tokens, s.IsSound := by
  have hstart : Inert (if options.start then ['^'] else []) := by
    split
    · exact .single (by decide)
    · exact .nil
  refine List.forall_mem_append.mpr ⟨List.forall_mem_cons.mpr ⟨hstart, ?_⟩, ?_⟩
  · intro s hs
    obtain ⟨token, htoken, hs⟩ := List.mem_flatMap.mp hs
    cases token with
    | literal text =>
      rw [List.mem_singleton.mp hs]
      exact inert_escapeLiteral text
    | param p =>
      exact isSound_stretches (htokens p (List.mem_filterMap.mpr ⟨_, htoken, rfl⟩)) s hs
  · exact List.forall_mem_singleton.mpr (inert_endingText options _)

theorem isSound_templateStretches (options : Options) (template : List Char) :
    ∀ s ∈ templateStretches options template, s.IsSound :=
  List.forall_mem_cons.mpr ⟨inert_flagText options, isSound_stretchesOf options carries_pattern⟩

theorem isSound_anyOfStretches (options : Options) (templates : List (List Char)) :
    ∀ s ∈ anyOfStretches options templates, s.IsSound := by
  have hjoin (items : List (List Stretch)) (hitems : ∀ item ∈ items, ∀ s ∈ item, s.IsSound) :
      ∀ s ∈ joinStretches items, s.IsSound := by
    fun_induction joinStretches items with
    | case1 => simp
    | case2 item => exact hitems item List.mem_cons_self
    | case3 item items _ ih =>
      obtain ⟨hitem, hitems⟩ := List.forall_mem_cons.mp hitems
      have hbar : (Stretch.text ['|']).IsSound := Inert.single (by decide)
      exact List.forall_mem_append.mpr ⟨hitem, List.forall_mem_cons.mpr ⟨hbar, ih hitems⟩⟩
  have hclose : (Stretch.text [')']).IsSound := Inert.single (by decide)
  refine List.forall_mem_append.mpr ⟨?_, List.forall_mem_singleton.mpr hclose⟩
  refine List.forall_mem_cons.mpr ⟨inert_flagText options, List.forall_mem_cons.mpr
    ⟨Inert.bareOpening, hjoin _ fun item hitem => ?_⟩⟩
  obtain ⟨template, -, rfl⟩ := List.mem_map.mp hitem
  exact isSound_stretchesOf options carries_pattern

/-! ## The group of one parameter -/

theorem captureText_append (body rest : List Char) :
    captureText body ++ rest = '(' :: (body ++ ')' :: rest) := by
  simp [captureText]

section Group

variable {p : Param} (hp : Carries p.pattern) {zone : Zone} (hzone : zone.isSettled = true)
  (rest : List Char)

include hp

theorem carries_groupBody : Carries (p.valueText ++ [')']) :=
  (carries_valueText hp).append (Inert.single (by decide)).toCarries

theorem after_captureText :
    outside.after (captureText p.valueText) = outside ↔ outside.after p.pattern = outside := by
  have hclose : Inert [')'] := .single (by decide)
  have hvalue := (carries_valueText hp).settled outside rfl
  exact (after_append _ _ _ ▸ hclose.side _ hvalue).trans (after_valueText hp)

include hzone

theorem settled_captureText : (zone.after (captureText p.valueText)).isSettled = true :=
  (carries_groupBody hp).settled _ (isSettled_step hzone (by decide))

/-- Behind the parenthesis of a parameter no other group opens until its own is closed. -/
theorem reaches_groupBody : Reaches (zone.step '(') (p.valueText ++ ')' :: rest)
    (zone.after (captureText p.valueText)) rest := by
  have hreaches := (carries_groupBody hp).reaches _ (isSettled_step hzone (by decide : '(' ≠ '\\'))
  rw [← List.singleton_append, ← List.append_assoc]
  exact hreaches rest

/-- The group of a parameter opens if it stands outside of brackets and remembers. -/
theorem openings_captureText : zone.openings (captureText p.valueText ++ rest) =
    if zone = outside ∧ (p.repeated || remembers p.pattern) = true
      then (p.valueText ++ ')' :: rest) ::
        (zone.after (captureText p.valueText)).openings rest
      else (zone.after (captureText p.valueText)).openings rest := by
  rw [captureText_append, Zone.openings, (reaches_groupBody hp hzone rest).openings_eq,
    remembers_valueText]
  simp only [true_and]

theorem simple_captureText (hremembers : (p.repeated || remembers p.pattern) = true)
    (hrest : (zone.after (captureText p.valueText)).Simple rest) :
    zone.Simple (captureText p.valueText ++ rest) := by
  rw [captureText_append]
  refine ⟨fun _ _ => ?_, (reaches_groupBody hp hzone rest).simple_iff.mpr hrest⟩
  exact isSimple_of_remembers ((remembers_valueText p rest).trans hremembers)

end Group

/-! ## The groups of all parameters -/

variable {stretches : List Stretch}

theorem simple_writeAll (hsound : ∀ s ∈ stretches, s.IsSound)
    (hremembers : ∀ p ∈ params stretches, (p.repeated || remembers p.pattern) = true)
    {zone : Zone} (hzone : zone.isSettled = true) : zone.Simple (writeAll stretches) := by
  induction stretches generalizing zone with
  | nil => trivial
  | cons s rest ih =>
    obtain ⟨hs, hrest⟩ := List.forall_mem_cons.mp hsound
    rw [writeAll_cons]
    cases s with
    | text cs =>
      have htext : Inert cs := hs
      exact (htext.reaches zone hzone _).simple_iff.mpr
        (ih hrest hremembers (htext.settled zone hzone))
    | group p =>
      obtain ⟨hp, hremembers⟩ := List.forall_mem_cons.mp hremembers
      exact simple_captureText hs hzone _ hp (ih hrest hremembers (settled_captureText hs hzone))

/-- Outside of brackets, and if no pattern leaves one open, the parentheses of the parameters are
the ones at which groups open. -/
theorem openings_writeAll (hsound : ∀ s ∈ stretches, s.IsSound)
    (hkeeps : ∀ p ∈ params stretches, p.KeepsGroups) :
    Zone.outside.openings (writeAll stretches) = places stretches := by
  induction stretches with
  | nil => rfl
  | cons s rest ih =>
    obtain ⟨hs, hrest⟩ := List.forall_mem_cons.mp hsound
    rw [writeAll_cons]
    cases s with
    | text cs =>
      have htext : Inert cs := hs
      have hreaches := htext.reaches outside rfl (writeAll rest)
      rw [(htext.side outside rfl).mpr rfl] at hreaches
      exact hreaches.openings_eq.trans (ih hrest hkeeps)
    | group p =>
      obtain ⟨⟨hremembers, hclosed⟩, hkeeps⟩ := List.forall_mem_cons.mp hkeeps
      rw [write, openings_captureText hs rfl, (after_captureText hs).mpr hclosed, ih hrest hkeeps,
        if_pos ⟨rfl, hremembers⟩]
      rfl

theorem length_openings_le (hsound : ∀ s ∈ stretches, s.IsSound) {zone : Zone}
    (hzone : zone.isSettled = true) :
    (zone.openings (writeAll stretches)).length ≤ (params stretches).length := by
  induction stretches generalizing zone with
  | nil => exact Nat.le_refl _
  | cons s rest ih =>
    obtain ⟨hs, hrest⟩ := List.forall_mem_cons.mp hsound
    rw [writeAll_cons]
    cases s with
    | text cs =>
      have htext : Inert cs := hs
      rw [write, (htext.reaches zone hzone _).openings_eq]
      exact ih hrest (htext.settled zone hzone)
    | group p =>
      have hlength := ih hrest (settled_captureText hs hzone)
      rw [write, openings_captureText hs hzone, params, List.length_cons]
      split
      · exact Nat.succ_le_succ hlength
      · exact Nat.le_succ_of_le hlength

/-- If no group is missing and the text ends outside of brackets, then it begins outside, and every
pattern closes the brackets that it opens. -/
theorem closed_of_length (hsound : ∀ s ∈ stretches, s.IsSound) {zone : Zone}
    (hzone : zone.isSettled = true)
    (hlength : (zone.openings (writeAll stretches)).length = (params stretches).length)
    (hafter : zone.after (writeAll stretches) = outside) :
    zone = outside ∧ ∀ p ∈ params stretches, outside.after p.pattern = outside := by
  induction stretches generalizing zone with
  | nil => exact ⟨hafter, by simp [params]⟩
  | cons s rest ih =>
    obtain ⟨hs, hrest⟩ := List.forall_mem_cons.mp hsound
    rw [writeAll_cons] at hlength hafter
    rw [after_append] at hafter
    cases s with
    | text cs =>
      have htext : Inert cs := hs
      rw [write, (htext.reaches zone hzone _).openings_eq] at hlength
      obtain ⟨hnext, hclosed⟩ := ih hrest (htext.settled zone hzone) hlength hafter
      exact ⟨(htext.side zone hzone).mp hnext, hclosed⟩
    | group p =>
      have hsettled := settled_captureText hs hzone
      -- were this group missing, there would be too few: the later ones cannot make up for it
      have hle := length_openings_le hrest hsettled
      rw [write, openings_captureText hs hzone, params, List.length_cons] at hlength
      split at hlength
      · next hopens =>
        obtain ⟨rfl, -⟩ := hopens
        obtain ⟨hnext, hclosed⟩ := ih hrest hsettled (Nat.succ.inj hlength) hafter
        exact ⟨rfl, List.forall_mem_cons.mpr ⟨(after_captureText hs).mp hnext, hclosed⟩⟩
      · omega

/-- The text that follows the parenthesis of a parameter is among the places. -/
theorem mem_places {p : Param} (hp : p ∈ params stretches) :
    ∃ rest, (p.valueText ++ ')' :: rest) ∈ places stretches := by
  induction stretches with
  | nil => cases hp
  | cons s stretches ih =>
    cases s with
    | text cs => exact ih hp
    | group q =>
      rcases List.mem_cons.mp hp with rfl | hp
      · exact ⟨_, List.mem_cons_self⟩
      · obtain ⟨rest, hrest⟩ := ih hp
        exact ⟨rest, List.mem_cons_of_mem _ hrest⟩

/-- In an expression that can be read, the groups open at the places of the parameters exactly if
every pattern keeps its groups. -/
theorem openings_writeAll_iff {e : Expr} {groups : Nat} (hsound : ∀ s ∈ stretches, s.IsSound)
    (hread : readPattern (writeAll stretches) = .ok (e, groups)) :
    Regex.openings (writeAll stretches) = places stretches ↔
      ∀ p ∈ params stretches, p.KeepsGroups := by
  constructor
  · intro hopenings
    -- groups open before text that remembers, so the text is simple and its groups can be counted
    have hremembers : ∀ p ∈ params stretches, (p.repeated || remembers p.pattern) = true := by
      intro p hp
      obtain ⟨rest, hplace⟩ := mem_places hp
      rw [← hopenings] at hplace
      rw [← remembers_valueText p rest]
      exact remembers_of_mem_openings hread _ hplace
    obtain ⟨heq, hafter⟩ := openings_eq hread (simple_writeAll hsound hremembers rfl)
    have hlength : (Zone.outside.openings (writeAll stretches)).length =
        (params stretches).length := by
      rw [← heq, hopenings, length_places]
    obtain ⟨-, hclosed⟩ := closed_of_length hsound rfl hlength hafter
    exact fun p hp => ⟨hremembers p hp, hclosed p hp⟩
  · intro hkeeps
    have hsimple : Zone.outside.Simple (writeAll stretches) :=
      simple_writeAll hsound (fun p hp => (hkeeps p hp).1) rfl
    rw [(openings_eq hread hsimple).1]
    exact openings_writeAll hsound hkeeps

theorem readPattern_of_readExpression {text : List Char} {re : Regex}
    (h : readExpression text = .ok re) :
    readPattern text = .ok (re.expr, re.groups) ∧ re.source.toList = text := by
  unfold readExpression at h
  extract_lets source at h
  split at h
  · next re' hread =>
    cases h
    obtain ⟨⟨e, groups⟩, hpattern, hread⟩ := bind_eq_ok hread
    cases hread
    rw [String.toList_ofList] at hpattern
    exact ⟨hpattern, String.toList_ofList⟩
  · cases h

theorem aligned_writeAll_iff {re : Regex} (hsound : ∀ s ∈ stretches, s.IsSound)
    (hread : readExpression (writeAll stretches) = .ok re) :
    (⟨re, params stretches⟩ : Pattern).Aligned (places stretches) ↔
      ∀ p ∈ params stretches, p.KeepsGroups := by
  obtain ⟨hpattern, hsource⟩ := readPattern_of_readExpression hread
  rw [← openings_writeAll_iff hsound hpattern, ← hsource]
  constructor
  · exact Pattern.Aligned.openings
  · intro hopenings
    refine ⟨?_, hopenings⟩
    rw [groups_eq hpattern, ← length_places, ← hopenings, hsource]

/-- A source that can be compiled has the groups of its parameters where it writes them exactly if
every pattern keeps its groups. -/
theorem compile_aligned_iff {options : Options} {source : Source} {pattern : Pattern}
    (h : source.compile options = .ok pattern) :
    pattern.Aligned (source.places options) ↔ ∀ p ∈ pattern.params, p.KeepsGroups := by
  cases source with
  | template text =>
    obtain ⟨re, hread, heq⟩ := bind_eq_ok h
    cases heq
    rw [← writeAll_templateStretches] at hread
    rw [← params_templateStretches]
    exact aligned_writeAll_iff (isSound_templateStretches options text) hread
  | anyOf templates =>
    obtain ⟨re, hread, heq⟩ := bind_eq_ok h
    cases heq
    rw [← writeAll_anyOfStretches] at hread
    rw [← params_anyOfStretches]
    exact aligned_writeAll_iff (isSound_anyOfStretches options templates) hread
  | expression re =>
    cases h
    refine iff_of_true ⟨by simp, rfl⟩ fun p hp => ?_
    obtain ⟨i, -, rfl⟩ := List.mem_map.mp hp
    exact ⟨rfl, rfl⟩

/-- The question mark of the first parameter makes its group one that is not remembered: the value
of the second parameter is given to the first one. -/
theorem compile_aligned_iff_bare :
    ∃ pattern, (Source.template "/:a(?:b)/:c".toList).compile {} = .ok pattern ∧
      ¬pattern.Aligned (Source.places {} (.template "/:a(?:b)/:c".toList)) ∧
      pattern.matchText "/:a(?:b)/:c" "/b/x" true =
        .ok (some ⟨"/:a(?:b)/:c", "/b/x", true, [(.named "a", some "x"), (.named "c", none)]⟩) := by
  have hbreaks : ((Source.template "/:a(?:b)/:c".toList).compile {}).map
      (fun pattern => pattern.params.all fun p => decide p.KeepsGroups) = .ok false := by
    decide +kernel
  have hmatch : ((Source.template "/:a(?:b)/:c".toList).compile {}).bind
      (fun pattern => pattern.matchText "/:a(?:b)/:c" "/b/x" true) =
        .ok (some ⟨"/:a(?:b)/:c", "/b/x", true,
          [(.named "a", some "x"), (.named "c", none)]⟩) := by
    decide +kernel
  cases hcompile : (Source.template "/:a(?:b)/:c".toList).compile {} with
  | error e =>
    rw [hcompile] at hbreaks
    cases hbreaks
  | ok pattern =>
    rw [hcompile] at hmatch
    refine ⟨pattern, rfl, fun haligned => ?_, hmatch⟩
    have hkeeps := (compile_aligned_iff hcompile).mp haligned
    rw [hcompile, Except.map, Except.ok.injEq, List.all_eq_false] at hbreaks
    obtain ⟨p, hp, hbroken⟩ := hbreaks
    exact hbroken (decide_eq_true (hkeeps p hp))

end MockHttp.Template
