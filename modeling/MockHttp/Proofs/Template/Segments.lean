import MockHttp.Proofs.Template.Filling
import MockHttp.Proofs.Template.Pieces

/-!
# Templates of segments

Where every segment of a template is either literal or a parameter, a text that matches it is
divided at its slashes, and every segment takes one of the parts between them. Only a segment with a
modifier may take another number. If there is at most one of those, the number is what the others
leave, and there is only one splitting for a match to find.

Results:
1. `assemble_sourceOf`: the tokens of a template of segments.
2. `shares_of_splits`: a text that is split among segments is divided at its slashes.
3. `Shares.unique`: how the segments share the parts is determined.
4. `SegmentTemplate.match_pathOf`: a match of a generated path gives back the values in it.
-/

namespace MockHttp.Template

open Regex

/-! ## Segments -/

/-- A segment of a template, without the slash before it. -/
inductive Segment where
  | literal (text : List Char)
  | param (name : List Char) (modifier : Option Modifier)
  deriving DecidableEq, Repr

namespace Segment

/-- The segment as it stands in a template. -/
def source : Segment → List Char
  | literal text => '/' :: text
  | param name modifier => '/' :: ':' :: (name ++ Modifier.source modifier)

/-- A literal segment holds no character that ends it or begins something else, and a parameter has
a name. -/
def IsWellFormed : Segment → Prop
  | literal text => ∀ c ∈ text, c ≠ ':' ∧ c ≠ '(' ∧ c ≠ '\\' ∧ c ≠ '/'
  | param name _ => name ≠ [] ∧ ∀ c ∈ name, isNameChar c = true

/-- The segment is a parameter with a modifier. -/
def isModified : Segment → Bool
  | literal _ => false
  | param _ modifier => modifier.isSome

end Segment

def sourceOf (segments : List Segment) : List Char := segments.flatMap Segment.source

/-- The text is empty or begins with a slash. -/
def AtSlash (cs : List Char) : Prop := cs = [] ∨ ∃ rest, cs = '/' :: rest

theorem atSlash_sourceOf (segments : List Segment) : AtSlash (sourceOf segments) := by
  cases segments with
  | nil => exact .inl rfl
  | cons s segments =>
    cases s with
    | literal text => exact .inr ⟨_, rfl⟩
    | param name modifier => exact .inr ⟨_, rfl⟩

/-! ## How segments are read -/

theorem pieces_plain {c : Char} (rest : List Char) (h : c ≠ ':' ∧ c ≠ '(' ∧ c ≠ '\\') :
    pieces (c :: rest) = .plain c :: pieces rest := by
  obtain ⟨hcolon, hopen, hbackslash⟩ := h
  have hmarker : marker? (c :: rest) = none := by
    simp [marker?, group?, hcolon, hopen]
  rw [pieces]
  · rw [hmarker]
  · intro d after heq
    exact absurd heq hbackslash

theorem pieces_literal {text : List Char} (h : ∀ c ∈ text, c ≠ ':' ∧ c ≠ '(' ∧ c ≠ '\\')
    (rest : List Char) : pieces (text ++ rest) = text.map Piece.plain ++ pieces rest := by
  induction text with
  | nil => rfl
  | cons c text ih =>
    rw [List.cons_append, pieces_plain _ (h c List.mem_cons_self),
      ih fun d hd => h d (List.mem_cons_of_mem c hd)]
    rfl

/-- A modifier is read, and no more than that. -/
theorem modifier_source (found : Option Modifier) {rest : List Char} (h : AtSlash rest) :
    modifier (Modifier.source found ++ rest) = (found, rest) := by
  cases found with
  | none =>
    rcases h with rfl | ⟨rest, rfl⟩
    · rfl
    · rfl
  | some m => cases m <;> rfl

/-- A name ends before a modifier and before a slash. -/
theorem split_name {name : List Char} (hname : ∀ c ∈ name, isNameChar c = true)
    (found : Option Modifier) {rest : List Char} (h : AtSlash rest) :
    (name ++ (Modifier.source found ++ rest)).takeWhile isNameChar = name ∧
      (name ++ (Modifier.source found ++ rest)).dropWhile isNameChar =
        Modifier.source found ++ rest := by
  have hstop : ∀ c ∈ (Modifier.source found ++ rest).head?, isNameChar c = false := by
    intro c hc
    cases found with
    | none =>
      rcases h with rfl | ⟨rest, rfl⟩
      · exact absurd hc (by simp [Modifier.source])
      · obtain rfl : '/' = c := by simpa [Modifier.source] using hc
        decide
    | some m =>
      cases m <;>
        · simp only [Modifier.source, List.singleton_append, List.head?_cons, Option.mem_def,
            Option.some.injEq] at hc
          subst hc
          decide
  exact takeWhile_name hname hstop

theorem group?_of_atSlash (found : Option Modifier) {rest : List Char} (h : AtSlash rest) :
    group? (Modifier.source found ++ rest) = none := by
  cases found with
  | none => rcases h with rfl | ⟨rest, rfl⟩ <;> rfl
  | some m => cases m <;> rfl

theorem pieces_param {name : List Char} (hne : name ≠ [])
    (hname : ∀ c ∈ name, isNameChar c = true) (found : Option Modifier) {rest : List Char}
    (h : AtSlash rest) :
    pieces (':' :: (name ++ (Modifier.source found ++ rest))) =
      .marker ⟨some name, none, found, rest.head?⟩ :: pieces rest := by
  obtain ⟨htake, hdrop⟩ := split_name hname found h
  have hmarker : marker? (':' :: (name ++ (Modifier.source found ++ rest))) =
      some (⟨some name, none, found, rest.head?⟩, rest) := by
    rw [marker?, htake, hdrop, List.isEmpty_eq_false_iff.mpr hne, group?_of_atSlash found h]
    simp [completeMarker, modifier_source found h]
  rw [pieces]
  · rw [hmarker]
    simp only [List.length_append]
    rw [dif_pos (by omega)]
  · intro d after heq
    exact absurd heq (by decide)

/-- The pieces of a segment, the character after it given. -/
def Segment.pieces (next : Option Char) : Segment → List Piece
  | literal text => .plain '/' :: text.map Piece.plain
  | param name modifier => [.plain '/', .marker ⟨some name, none, modifier, next⟩]

theorem pieces_source {s : Segment} (hs : s.IsWellFormed) {rest : List Char} (h : AtSlash rest) :
    pieces (s.source ++ rest) = s.pieces rest.head? ++ pieces rest := by
  have hslash : ('/' : Char) ≠ ':' ∧ ('/' : Char) ≠ '(' ∧ ('/' : Char) ≠ '\\' := by decide
  cases s with
  | literal text =>
    have htext : ∀ c ∈ text, c ≠ ':' ∧ c ≠ '(' ∧ c ≠ '\\' := fun c hc =>
      ⟨(hs c hc).1, (hs c hc).2.1, (hs c hc).2.2.1⟩
    rw [Segment.source, List.cons_append, pieces_plain _ hslash, pieces_literal htext]
    rfl
  | param name modifier =>
    rw [Segment.source, List.cons_append, pieces_plain _ hslash, List.cons_append,
      List.append_assoc, pieces_param hs.1 hs.2 modifier h]
    rfl

theorem sourceOf_cons (s : Segment) (segments : List Segment) :
    sourceOf (s :: segments) = s.source ++ sourceOf segments := List.flatMap_cons

/-- No segment has a group of its own. -/
theorem body?_of_mem_pieces {segments : List Segment} (h : ∀ s ∈ segments, s.IsWellFormed) :
    ∀ piece ∈ pieces (sourceOf segments), piece.body? = none := by
  induction segments with
  | nil => simp [sourceOf, pieces]
  | cons s segments ih =>
    rw [sourceOf_cons, pieces_source (h s List.mem_cons_self) (atSlash_sourceOf segments)]
    intro piece hpiece
    rcases List.mem_append.mp hpiece with hpiece | hpiece
    · cases s with
      | literal text =>
        rcases List.mem_cons.mp hpiece with rfl | hpiece
        · rfl
        · obtain ⟨c, -, rfl⟩ := List.mem_map.mp hpiece
          rfl
      | param name modifier =>
        rcases List.mem_cons.mp hpiece with rfl | hpiece
        · rfl
        · obtain rfl := List.mem_singleton.mp hpiece
          rfl
    · exact ih (fun t ht => h t (List.mem_cons_of_mem s ht)) piece hpiece

def segmentParam (name : List Char) (modifier : Option Modifier) : Param where
  name := .named (String.ofList name)
  lead := some '/'
  delimiter := ['/']
  pattern := defaultPattern ['/']
  optional := modifier.any Modifier.isOptional
  repeated := modifier.any Modifier.isRepeated
  inSegment := false

/-- The token that a segment stands for, its slash included. -/
def Segment.token : Segment → Token
  | literal text => .literal ('/' :: text)
  | param name modifier => .param (segmentParam name modifier)

/-- The tokens of some segments after literal text, which comes latest character first. Literal
segments that stand side by side have one token. -/
def tokensAfter (text : List Char) : List Segment → List Token
  | [] => literalOf text
  | .literal more :: segments => tokensAfter (more.reverse ++ '/' :: text) segments
  | .param name modifier :: segments =>
    literalOf text ++ .param (segmentParam name modifier) :: tokensAfter [] segments

theorem assemble_plain (delimiters : Delimiters) (text more : List Char) (index : Nat)
    (ps : List Piece) :
    assemble delimiters text false index (more.map Piece.plain ++ ps) =
      assemble delimiters (more.reverse ++ text) false index ps := by
  induction more generalizing text with
  | nil => rfl
  | cons c more ih =>
    rw [List.map_cons, List.cons_append, assemble, ih, List.reverse_cons, List.append_assoc]
    rfl

/-- The slash before a parameter is its delimiter, and what follows is no part of the segment. -/
theorem assemble_param (text name : List Char) (modifier : Option Modifier) (index : Nat)
    {rest : List Char} (h : AtSlash rest) (ps : List Piece) :
    assemble {} ('/' :: text) false index (.marker ⟨some name, none, modifier, rest.head?⟩ :: ps) =
      literalOf text ++ .param (segmentParam name modifier) :: assemble {} [] false index ps := by
  rcases h with rfl | ⟨rest, rfl⟩
  · rfl
  · rfl

theorem assemble_sourceOf {segments : List Segment} (h : ∀ s ∈ segments, s.IsWellFormed)
    (text : List Char) (index : Nat) :
    assemble {} text false index (pieces (sourceOf segments)) = tokensAfter text segments := by
  induction segments generalizing text index with
  | nil => simp [sourceOf, pieces, assemble, tokensAfter]
  | cons s segments ih =>
    have ih := ih fun t ht => h t (List.mem_cons_of_mem s ht)
    have hrest := atSlash_sourceOf segments
    rw [sourceOf_cons, pieces_source (h s List.mem_cons_self) hrest]
    cases s with
    | literal more =>
      rw [Segment.pieces, List.cons_append, assemble, assemble_plain, ih, tokensAfter]
    | param name modifier =>
      rw [Segment.pieces, List.cons_append, assemble, List.singleton_append,
        assemble_param text name modifier index hrest, ih]
      rfl

/-! ## Literal texts side by side -/

section LiteralOf

variable {tokens : List Token} {text rest : List Char} {values : List (Option (List Char))}

theorem splits_literalOf (h : Splits (literalOf text ++ tokens) rest values) :
    ∃ after, rest = text.reverse ++ after ∧ Splits tokens after values := by
  cases text with
  | nil => exact ⟨rest, rfl, h⟩
  | cons c text =>
    cases h with
    | literal text h => exact ⟨_, rfl, h⟩

end LiteralOf

/-- Joining literal segments makes no difference to the parameters. -/
theorem paramsOf_tokensAfter (text : List Char) (segments : List Segment) :
    paramsOf (tokensAfter text segments) = paramsOf (segments.map Segment.token) := by
  induction segments generalizing text with
  | nil =>
    have hnone := paramsOf_literalOf text []
    rw [List.append_nil] at hnone
    exact hnone
  | cons s segments ih =>
    cases s with
    | literal more =>
      rw [tokensAfter, ih]
      rfl
    | param name modifier =>
      rw [tokensAfter, paramsOf_literalOf]
      exact congrArg (_ :: ·) (ih [])

/-- Nor to how a text is split. -/
theorem splits_tokensAfter {text rest : List Char} {segments : List Segment}
    {values : List (Option (List Char))} (h : Splits (tokensAfter text segments) rest values) :
    ∃ after, rest = text.reverse ++ after ∧ Splits (segments.map Segment.token) after values := by
  induction segments generalizing text rest values with
  | nil =>
    rw [tokensAfter, ← List.append_nil (literalOf text)] at h
    exact splits_literalOf h
  | cons s segments ih =>
    cases s with
    | literal more =>
      obtain ⟨after, rfl, hafter⟩ := ih h
      refine ⟨'/' :: more ++ after, ?_, .literal ('/' :: more) hafter⟩
      simp
    | param name modifier =>
      obtain ⟨after, rfl, hafter⟩ := splits_literalOf h
      refine ⟨after, rfl, ?_⟩
      cases hafter with
      | param htakes hafter =>
        obtain ⟨_, rfl, hafter⟩ := ih hafter
        exact .param htakes hafter

/-! ## How segments share the parts of a text -/

/-- The segments take the parts between the slashes of a text, one after the other: a literal
segment takes the part that it is, and a parameter the parts that are its values. -/
inductive Shares : List Segment → List (List Char) → List (Option (List Char)) → Prop
  | nil : Shares [] [] []
  | literal {segments : List Segment} {parts : List (List Char)}
      {values : List (Option (List Char))} (text : List Char) :
      Shares segments parts values → Shares (.literal text :: segments) (text :: parts) values
  | param {segments : List Segment} {parts given : List (List Char)}
      {values : List (Option (List Char))} {name : List Char} {modifier : Option Modifier} :
      (segmentParam name modifier).Suits given → Shares segments parts values →
      Shares (.param name modifier :: segments) (given ++ parts)
        ((segmentParam name modifier).joined given :: values)

/-- The text that is made of some parts, each after a slash. -/
def slashed (parts : List (List Char)) : List Char := parts.flatMap ('/' :: ·)

theorem slashed_eq {parts : List (List Char)} (h : parts ≠ []) :
    slashed parts = '/' :: joinWith ['/'] parts := by
  obtain ⟨part, parts, rfl⟩ := List.exists_cons_of_ne_nil h
  rw [joinWith_eq_flatMap]
  rfl

/-- A text can be made in one way of parts without slashes. -/
theorem slashed_inj {parts parts' : List (List Char)}
    (h : ∀ part ∈ parts, ∀ c ∈ part, c ∉ ['/']) (h' : ∀ part ∈ parts', ∀ c ∈ part, c ∉ ['/'])
    (heq : slashed parts = slashed parts') : parts = parts' := by
  have hnil : ∀ {parts}, slashed parts = [] → parts = [] := by
    intro parts hparts
    cases parts with
    | nil => rfl
    | cons part parts => exact absurd hparts (by simp [slashed])
  by_cases hparts : parts = []
  · subst hparts
    exact (hnil heq.symm).symm
  · by_cases hparts' : parts' = []
    · subst hparts'
      exact hnil heq
    · rw [slashed_eq hparts, slashed_eq hparts', List.cons.injEq] at heq
      rw [← splitAt_joinWith (by simp) hparts h, heq.2, splitAt_joinWith (by simp) hparts' h']

theorem segmentParam_taken {name : List Char} {modifier : Option Modifier} {part : List Char}
    {value : Option (List Char)} (h : (segmentParam name modifier).Takes part value) :
    ∃ given, (segmentParam name modifier).Suits given ∧
      value = (segmentParam name modifier).joined given ∧ part = slashed given ∧
      ∀ v ∈ given, ∀ c ∈ v, c ∉ ['/'] := by
  cases h with
  | present hvalue =>
    obtain ⟨given, hallows, rfl⟩ := Param.mem_values_iff.mp hvalue
    refine ⟨given, .inr hallows, ?_, (slashed_eq hallows.ne_nil).symm,
      fun v hv => (hallows.mem v hv).2⟩
    obtain ⟨v, given, rfl⟩ := List.exists_cons_of_ne_nil hallows.ne_nil
    rfl
  | absent hoptional => exact ⟨[], .inl ⟨rfl, hoptional⟩, rfl, rfl, by simp⟩

/-- A text that is split among segments is divided at its slashes. -/
theorem shares_of_splits {segments : List Segment} (h : ∀ s ∈ segments, s.IsWellFormed)
    {text : List Char} {values : List (Option (List Char))}
    (hsplits : Splits (segments.map Segment.token) text values) :
    ∃ parts, Shares segments parts values ∧ text = slashed parts ∧
      ∀ part ∈ parts, ∀ c ∈ part, c ∉ ['/'] := by
  induction segments generalizing text values with
  | nil =>
    cases hsplits with
    | nil => exact ⟨[], .nil, rfl, by simp⟩
  | cons s segments ih =>
    have htail : ∀ t ∈ segments, t.IsWellFormed := fun t ht => h t (List.mem_cons_of_mem s ht)
    cases s with
    | literal more =>
      have hmore : ∀ c ∈ more, c ∉ ['/'] := by
        intro c hc
        simpa using (h _ List.mem_cons_self c hc).2.2.2
      cases hsplits with
      | literal _ hrest =>
        obtain ⟨parts, hshares, rfl, hfree⟩ := ih htail hrest
        exact ⟨more :: parts, .literal more hshares, rfl, List.forall_mem_cons.mpr ⟨hmore, hfree⟩⟩
    | param name modifier =>
      cases hsplits with
      | param htakes hrest =>
        obtain ⟨given, hsuits, rfl, rfl, hgiven⟩ := segmentParam_taken htakes
        obtain ⟨parts, hshares, rfl, hfree⟩ := ih htail hrest
        refine ⟨given ++ parts, .param hsuits hshares, List.flatMap_append.symm, ?_⟩
        intro part hpart
        exact (List.mem_append.mp hpart).elim (hgiven part) (hfree part)

/-- A parameter without a modifier has exactly one value. -/
theorem length_eq_one {name : List Char} {given : List (List Char)}
    (h : (segmentParam name none).Suits given) : given.length = 1 := by
  rcases h with ⟨-, hoptional⟩ | hallows
  · exact absurd hoptional (by simp [segmentParam])
  · exact hallows.single rfl

/-- Without modifiers every segment takes one part. -/
theorem Shares.length_eq {segments : List Segment} {parts : List (List Char)}
    {values : List (Option (List Char))} (h : Shares segments parts values)
    (hnone : segments.countP Segment.isModified = 0) : parts.length = segments.length := by
  induction h with
  | nil => rfl
  | literal text _ ih => exact congrArg (· + 1) (ih (by simpa [Segment.isModified] using hnone))
  | @param segments parts given values name modifier hsuits _ ih =>
    rw [List.countP_cons] at hnone
    obtain rfl : modifier = none := by
      cases modifier with
      | none => rfl
      | some m => exact absurd hnone (by simp [Segment.isModified])
    rw [List.length_append, length_eq_one hsuits, ih (by omega), List.length_cons, Nat.add_comm]

/-- If at most one segment has a modifier, parts can be shared in one way only: that segment takes
what the others leave, and each of them takes one. -/
theorem Shares.unique {segments : List Segment} {parts : List (List Char)}
    {values values' : List (Option (List Char))} (h : Shares segments parts values)
    (h' : Shares segments parts values') (hone : segments.countP Segment.isModified ≤ 1) :
    values = values' := by
  induction h generalizing values' with
  | nil =>
    cases h' with
    | nil => rfl
  | literal text _ ih =>
    cases h' with
    | literal _ h' => exact ih h' (by simpa [Segment.isModified] using hone)
  | @param segments parts given values name modifier hsuits hrest ih =>
    generalize hall : given ++ parts = all at h'
    cases h' with
    | @param _ parts' given' values' _ _ hsuits' hrest' =>
      rw [List.countP_cons] at hone
      have hlength : given.length = given'.length := by
        cases modifier with
        | none => rw [length_eq_one hsuits, length_eq_one hsuits']
        | some m =>
          -- the segments after this one have no modifiers
          have hnone : segments.countP Segment.isModified = 0 := by
            simpa [Segment.isModified] using hone
          have htotal := congrArg List.length hall
          rw [List.length_append, List.length_append, hrest.length_eq hnone,
            hrest'.length_eq hnone] at htotal
          omega
      obtain ⟨rfl, rfl⟩ := List.append_inj hall hlength
      rw [ih hrest' (by omega)]

/-! ## There and back -/

/-- A template of segments, of which at most one has a modifier. -/
structure SegmentTemplate where
  segments : List Segment
  wellFormed : ∀ s ∈ segments, s.IsWellFormed
  modified : segments.countP Segment.isModified ≤ 1

def Modifier.Counts : Option Modifier → Nat → Prop
  | none, n => n = 1
  | some .optional, n => n ≤ 1
  | some .repeated, n => 1 ≤ n
  | some .optionalRepeated, _ => True

instance (n : Nat) : ∀ modifier, Decidable (Modifier.Counts modifier n)
  | none => inferInstanceAs (Decidable (n = 1))
  | some .optional => inferInstanceAs (Decidable (n ≤ 1))
  | some .repeated => inferInstanceAs (Decidable (1 ≤ n))
  | some .optionalRepeated => inferInstanceAs (Decidable True)

/-- The values can stand for the parameter of a segment: their number is as its modifier asks, and
they are neither empty nor hold a slash. -/
def Segment.Accepts (values : Values) : Segment → Prop
  | literal _ => True
  | param name modifier =>
    Modifier.Counts modifier (values.get (.named (String.ofList name))).length ∧
      ∀ v ∈ values.get (.named (String.ofList name)), v ≠ [] ∧ '/' ∉ v

instance (values : Values) : DecidablePred (Segment.Accepts values)
  | .literal _ => inferInstanceAs (Decidable True)
  | .param name modifier => inferInstanceAs (Decidable
    (Modifier.Counts modifier (values.get (.named (String.ofList name))).length ∧
      ∀ v ∈ values.get (.named (String.ofList name)), v ≠ [] ∧ '/' ∉ v))

/-- What a match is expected to say about some values: nothing if there are none, and otherwise the
values with slashes between them. -/
def supplied : List (List Char) → Option String
  | [] => none
  | value :: values => some (String.ofList (joinWith ['/'] (value :: values)))

/-- The parameters of some segments with the values that were supplied for them. -/
def suppliedParams (values : Values) : List Segment → List (ParamName × Option String)
  | [] => []
  | .literal _ :: segments => suppliedParams values segments
  | .param name _ :: segments =>
    (.named (String.ofList name), supplied (values.get (.named (String.ofList name)))) ::
      suppliedParams values segments

theorem suits_of_accepts {values : Values} {name : List Char} {modifier : Option Modifier}
    (h : (Segment.param name modifier).Accepts values) :
    (segmentParam name modifier).Suits (values.get (.named (String.ofList name))) := by
  obtain ⟨hcount, hvalues⟩ := h
  generalize values.get (.named (String.ofList name)) = given at hcount hvalues
  have hmem : ∀ v ∈ given, v ∈ valuesWithout ['/'] := by
    intro v hv
    refine ⟨(hvalues v hv).1, fun c hc hslash => ?_⟩
    exact (hvalues v hv).2 (List.mem_singleton.mp hslash ▸ hc)
  cases given with
  | nil =>
    refine .inl ⟨rfl, ?_⟩
    rcases modifier with _ | _ | _ | _ <;>
      simp_all [Modifier.Counts, segmentParam, Modifier.isOptional]
  | cons v given =>
    refine .inr ⟨by simp, fun hsingle => ?_, hmem⟩
    rcases modifier with _ | _ | _ | _ <;>
      simp_all [Modifier.Counts, segmentParam, Modifier.isRepeated]

namespace SegmentTemplate

def text (t : SegmentTemplate) : String := String.ofList (sourceOf t.segments)

variable (t : SegmentTemplate)

theorem withoutGroups : WithoutGroups t.text := by
  rw [WithoutGroups, text, String.toList_ofList]
  exact body?_of_mem_pieces t.wellFormed

theorem tokensOf_text : tokensOf t.text = tokensAfter [] t.segments := by
  rw [tokensOf, text, String.toList_ofList]
  exact assemble_sourceOf t.wellFormed [] 0

theorem mem_tokensOf {p : Param} (hp : .param p ∈ tokensOf t.text) :
    ∃ name modifier, .param name modifier ∈ t.segments ∧ p = segmentParam name modifier := by
  rw [tokensOf_text, ← mem_paramsOf, paramsOf_tokensAfter, mem_paramsOf, List.mem_map] at hp
  obtain ⟨s, hs, heq⟩ := hp
  cases s with
  | literal more => exact absurd heq (by simp [Segment.token])
  | param name modifier =>
    obtain rfl : segmentParam name modifier = p := by simpa [Segment.token] using heq
    exact ⟨name, modifier, hs, rfl⟩

theorem params_eq_supplied (values : Values) (segments : List Segment) :
    (paramsOf (segments.map Segment.token)).map
        (fun p => (p.name, (p.joined (values.get p.name)).map String.ofList)) =
      suppliedParams values segments := by
  induction segments with
  | nil => rfl
  | cons s segments ih =>
    cases s with
    | literal more => exact ih
    | param name modifier =>
      refine congrArg₂ List.cons ?_ ih
      dsimp only [segmentParam, Param.joined]
      cases values.get (.named (String.ofList name)) with
      | nil => rfl
      | cons v given => rfl

/-- The segments can share a text in one way only. -/
theorem splits_unique {text : List Char} {values values' : List (Option (List Char))}
    (h : Splits (tokensOf t.text) text values) (h' : Splits (tokensOf t.text) text values') :
    values = values' := by
  rw [tokensOf_text] at h h'
  obtain ⟨_, rfl, h⟩ := splits_tokensAfter h
  obtain ⟨_, rfl, h'⟩ := splits_tokensAfter h'
  obtain ⟨parts, hshares, rfl, hfree⟩ := shares_of_splits t.wellFormed h
  obtain ⟨parts', hshares', heq, hfree'⟩ := shares_of_splits t.wellFormed h'
  obtain rfl := slashed_inj hfree hfree' heq
  exact hshares.unique hshares' t.modified

/-- Whatever values are supplied for the parameters of a template of segments, there is a path with
them, and matching it with the template gives each parameter the values that were supplied. -/
theorem match_pathOf {values : Values} (h : ∀ s ∈ t.segments, s.Accepts values) :
    ∃ path, pathOf values (tokensOf t.text) = .ok path ∧
      ∃ m, (exactly t.text).evaluate (String.ofList path) = .ok (some m) ∧
        m.params = suppliedParams values t.segments := by
  have hdefault : ∀ p, .param p ∈ tokensOf t.text → p.IsDefault :=
    fun _ hp => t.withoutGroups.isDefault hp
  have hsuits : ∀ p, .param p ∈ tokensOf t.text → p.Suits (values.get p.name) := by
    intro p hp
    obtain ⟨name, modifier, hs, rfl⟩ := t.mem_tokensOf hp
    exact suits_of_accepts (h _ hs)
  have hinside : ∀ p, .param p ∈ tokensOf t.text → ¬p.inSegment = true := by
    intro p hp
    obtain ⟨name, modifier, hs, rfl⟩ := t.mem_tokensOf hp
    simp [segmentParam]
  -- no parameter is inside of a segment, so the path is what the tokens take
  have hwritten : (tokensOf t.text).flatMap (Token.written values) =
      (tokensOf t.text).flatMap (Token.taken values) :=
    (flatMap_written_eq_iff fun p hp hp' => absurd hp' (hinside p hp)).mpr
      fun p hp hp' => absurd hp' (hinside p hp)
  have hpath := (pathOf_eq_ok_iff hdefault).mpr ⟨hsuits, hwritten.symm⟩
  have hsplits := splits_taken hsuits
  obtain ⟨found, hfound, hmatch⟩ := evaluate_of_splits t.withoutGroups hsplits
  refine ⟨_, hpath, _, hmatch, ?_⟩
  rw [t.splits_unique hfound hsplits, wholeMatch, tokensOf_text, paramsOf_tokensAfter,
    List.zipWith_map_right, List.zipWith_self]
  exact params_eq_supplied values t.segments

/-- A literal segment, any number of folders and a file in the last of them. -/
def files : SegmentTemplate where
  segments := [.literal ['f'], .param ['d'] (some .optionalRepeated), .param ['n'] none]
  wellFormed := by simp [Segment.IsWellFormed, isNameChar]
  modified := by decide

/-- Two folders and a file whose name is that of the literal segment. -/
def filesValues : Values :=
  [(.named "d", [['a'], ['b']]), (.named "n", [['f']])]

theorem match_pathOf_files :
    (∀ s ∈ files.segments, s.Accepts filesValues) ∧
      ∃ path, pathOf filesValues (tokensOf files.text) = .ok path ∧
        ∃ m, (exactly files.text).evaluate (String.ofList path) = .ok (some m) ∧
          m.params = [(.named "d", some "a/b"), (.named "n", some "f")] := by
  have haccepts : ∀ s ∈ files.segments, s.Accepts filesValues := by decide
  obtain ⟨path, hpath, m, hm, hparams⟩ := files.match_pathOf haccepts
  have hsupplied : suppliedParams filesValues files.segments =
      [(.named "d", some "a/b"), (.named "n", some "f")] := by decide +kernel
  exact ⟨haccepts, path, hpath, m, hm, hparams.trans hsupplied⟩

end SegmentTemplate

end MockHttp.Template
