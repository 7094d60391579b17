import MockHttp.Proofs.Template.Splitting
import MockHttp.Template.Path

/-!
# Paths and matches

Filling in the parameters of a template and matching a text with it are two walks over the same
tokens. This module relates them, for templates without groups of their own: what is filled in can
be split again in the same way. The two walks differ at an absent parameter inside of a segment,
whose delimiter a match asks for and a path leaves out.

Results:
1. `mem_values_iff`, `parts_spec`: the values of a parameter, joined and taken apart again.
2. `pathOf_eq_ok_iff`: which values a template accepts, and the path that they give.
3. `splits_taken`: what the tokens take if they have some values is split into these values.
4. `pathOf_matches`: which part of a generated path is missing, if any is, for it to be matched.
-/

namespace MockHttp.Template

open Regex Computability

/-! ## Joining and splitting -/

/-- The parts of a text between the places where a separator stands, from left to right. -/
def splitAt (separator : List Char) : List Char → List (List Char)
  | [] => [[]]
  | c :: cs =>
    if separator ≠ [] ∧ separator <+: c :: cs then
      [] :: splitAt separator ((c :: cs).drop separator.length)
    else (splitAt separator cs).modifyHead (c :: ·)
termination_by cs => cs.length
decreasing_by
  · next h =>
    have hpos := List.length_pos_of_ne_nil h.1
    rw [List.length_drop, List.length_cons]
    omega
  · exact Nat.lt_succ_self _

section SplitAt

variable {separator part : List Char}

theorem splitAt_append_of_free (hpart : ∀ c ∈ part, c ∉ separator) (text : List Char) :
    splitAt separator (part ++ text) = (splitAt separator text).modifyHead (part ++ ·) := by
  induction part with
  | nil => exact (List.modifyHead_id).symm ▸ rfl
  | cons c part ih =>
    have hc := hpart c List.mem_cons_self
    have hnot : ¬(separator ≠ [] ∧ separator <+: c :: (part ++ text)) := by
      rintro ⟨hne, hpre⟩
      cases separator with
      | nil => exact hne rfl
      | cons d separator =>
        rw [List.cons_prefix_cons] at hpre
        exact hc (hpre.1 ▸ List.mem_cons_self)
    rw [List.cons_append, splitAt, if_neg hnot, ih fun d hd => hpart d (List.mem_cons_of_mem c hd)]
    cases splitAt separator text <;> rfl

theorem splitAt_separator (hne : separator ≠ []) (text : List Char) :
    splitAt separator (separator ++ text) = [] :: splitAt separator text := by
  obtain ⟨c, cs, rfl⟩ := List.exists_cons_of_ne_nil hne
  rw [List.cons_append, splitAt, if_pos ⟨hne, List.prefix_append (c :: cs) text⟩]
  rw [← List.cons_append, List.drop_left]

/-- Splitting gives back what was joined, if no part holds a character of the separator. -/
theorem splitAt_joinWith (hne : separator ≠ []) {parts : List (List Char)} (hparts : parts ≠ [])
    (hfree : ∀ part ∈ parts, ∀ c ∈ part, c ∉ separator) :
    splitAt separator (joinWith separator parts) = parts := by
  induction parts with
  | nil => exact absurd rfl hparts
  | cons part parts ih =>
    have hpart := hfree part List.mem_cons_self
    cases parts with
    | nil =>
      have hlast := splitAt_append_of_free hpart []
      rw [List.append_nil, splitAt] at hlast
      simpa [joinWith] using hlast
    | cons next parts =>
      rw [joinWith_cons _ _ (by simp), List.append_assoc, splitAt_append_of_free hpart,
        splitAt_separator hne, ih (by simp) fun p hp => hfree p (List.mem_cons_of_mem part hp)]
      simp

end SplitAt

theorem joinWith_eq_flatMap (separator part : List Char) (parts : List (List Char)) :
    joinWith separator (part :: parts) = part ++ parts.flatMap (separator ++ ·) := by
  induction parts generalizing part with
  | nil => simp [joinWith]
  | cons next parts ih =>
    rw [joinWith_cons _ _ (by simp), ih, List.flatMap_cons, List.append_assoc, List.append_assoc]

/-! ## The values of a parameter -/

/-- The parameter can have these values: there is one, or several if it is repeated, and none holds
a character of the delimiter. -/
structure Param.Allows (p : Param) (values : List (List Char)) : Prop where
  ne_nil : values ≠ []
  single : p.repeated = false → values.length = 1
  mem : ∀ value ∈ values, value ∈ valuesWithout p.delimiter

theorem mem_kstar_iff {separator text : List Char} {L : Language Char} :
    text ∈ ({separator} * L)∗ ↔
      ∃ values : List (List Char), (∀ value ∈ values, value ∈ L) ∧
        text = values.flatMap (separator ++ ·) := by
  constructor
  · intro h
    obtain ⟨parts, rfl, hparts⟩ := Language.mem_kstar.mp h
    clear h
    induction parts with
    | nil => exact ⟨[], by simp, rfl⟩
    | cons part parts ih =>
      obtain ⟨values, hvalues, htext⟩ := ih fun q hq => hparts q (List.mem_cons_of_mem part hq)
      obtain ⟨_, rfl, value, hvalue, rfl⟩ := hparts part List.mem_cons_self
      refine ⟨value :: values, ?_, ?_⟩
      · rintro v (_ | ⟨_, hv⟩)
        · exact hvalue
        · exact hvalues v hv
      · rw [List.flatten_cons, htext, List.flatMap_cons]
  · rintro ⟨values, hvalues, rfl⟩
    refine Language.mem_kstar.mpr ⟨values.map (separator ++ ·), List.flatMap_def, ?_⟩
    intro part hpart
    obtain ⟨value, hvalue, rfl⟩ := List.mem_map.mp hpart
    exact Language.append_mem_mul rfl (hvalues value hvalue)

namespace Param

variable {p : Param} {values : List (List Char)}

/-- The text of a parameter's values is one value, or several with the delimiter between them. -/
theorem mem_values_iff {text : List Char} :
    text ∈ p.values ↔ ∃ values, p.Allows values ∧ text = joinWith p.delimiter values := by
  unfold Param.values
  split
  · next hrepeated =>
    constructor
    · rintro ⟨value, hvalue, rest, hrest, rfl⟩
      obtain ⟨values, hvalues, rfl⟩ := mem_kstar_iff.mp hrest
      refine ⟨value :: values, ⟨by simp, by simp [hrepeated], ?_⟩,
        (joinWith_eq_flatMap _ _ _).symm⟩
      rintro v (_ | ⟨_, hv⟩)
      · exact hvalue
      · exact hvalues v hv
    · rintro ⟨values, hallows, rfl⟩
      obtain ⟨value, values, rfl⟩ := List.exists_cons_of_ne_nil hallows.ne_nil
      rw [joinWith_eq_flatMap]
      exact Language.append_mem_mul (hallows.mem _ List.mem_cons_self)
        (mem_kstar_iff.mpr ⟨values, fun v hv => hallows.mem v (List.mem_cons_of_mem _ hv), rfl⟩)
  · next hrepeated =>
    have hsingle : p.repeated = false := by simpa using hrepeated
    constructor
    · intro htext
      exact ⟨[text], ⟨by simp, fun _ => rfl, by simpa using htext⟩, rfl⟩
    · rintro ⟨values, hallows, rfl⟩
      obtain ⟨value, rfl⟩ := List.length_eq_one_iff.mp (hallows.single hsingle)
      exact hallows.mem value List.mem_cons_self

/-- The values in the text of a parameter. -/
def parts (p : Param) (text : List Char) : List (List Char) :=
  if p.repeated then splitAt p.delimiter text else [text]

theorem Allows.parts_joinWith (h : p.Allows values) (hp : p.delimiter ≠ []) :
    p.parts (joinWith p.delimiter values) = values := by
  unfold parts
  split
  · exact splitAt_joinWith hp h.ne_nil fun value hvalue => (h.mem value hvalue).2
  · next hrepeated =>
    obtain ⟨value, rfl⟩ := List.length_eq_one_iff.mp (h.single (by simpa using hrepeated))
    rfl

theorem parts_spec (hp : p.delimiter ≠ []) {text : List Char} (h : text ∈ p.values) :
    p.Allows (p.parts text) ∧ joinWith p.delimiter (p.parts text) = text := by
  obtain ⟨values, hallows, rfl⟩ := mem_values_iff.mp h
  rw [hallows.parts_joinWith hp]
  exact ⟨hallows, rfl⟩

/-! ## Filling in -/

/-- A value is compared with the pattern that parameters have by default. -/
theorem admits_eq (hp : p.IsDefault) (value : List Char) :
    ∃ answer, p.admits value = .ok answer ∧
      (answer = true ↔ value ∈ valuesWithout p.delimiter) := by
  obtain ⟨hpattern, hdelimiter⟩ := hp
  have hone : Denotes (groupText p.pattern) 0 1 true true (.text (valuesWithout p.delimiter)) :=
    hpattern ▸ (Denotes.noneOf hdelimiter).toBody.bare.toDenotes
  obtain ⟨re, hread, hfind⟩ := (hone.append .atEnd).find (by decide)
  obtain ⟨answer, cost, hanswer, hiff, hcost⟩ := hfind value
  refine ⟨answer.isSome, ?_, ?_⟩
  · unfold admits valueExpression
    rw [List.cons_append, hread]
    dsimp only [bind, Except.bind]
    rw [isMatch, Regex.find, hanswer, hcost rfl, if_neg (Nat.not_lt_zero _)]
    rfl
  · rw [hiff, Sense.begins_andThen]
    constructor
    · rintro ⟨matched, rest, rfl, hmatched, _, _, rfl, rfl, rfl⟩
      rw [List.append_nil, List.append_nil]
      exact hmatched
    · intro hvalue
      exact ⟨value, [], (List.append_nil value).symm, hvalue, [], [], rfl, rfl, rfl⟩

theorem write_cons_eq_ok_iff (hp : p.IsDefault) {before value part : List Char} :
    p.write before (value :: values) = .ok part ↔
      value ∈ valuesWithout p.delimiter ∧
        ∃ rest, p.write p.delimiter values = .ok rest ∧ part = before ++ value ++ rest := by
  obtain ⟨answer, hadmits, hiff⟩ := admits_eq hp value
  rw [write, hadmits]
  dsimp only [bind, Except.bind]
  cases answer with
  | true =>
    rw [if_pos rfl]
    cases p.write p.delimiter values with
    | error e => simp
    | ok rest => simp [pure, Except.pure, hiff.mp rfl, eq_comm]
  | false =>
    have hvalue : value ∉ valuesWithout p.delimiter := fun h => absurd (hiff.mpr h) (by simp)
    simp [throw, throwThe, MonadExceptOf.throw, hvalue]

theorem write_eq_ok_iff (hp : p.IsDefault) {part : List Char} :
    p.write p.delimiter values = .ok part ↔
      (∀ value ∈ values, value ∈ valuesWithout p.delimiter) ∧
        part = values.flatMap (p.delimiter ++ ·) := by
  induction values generalizing part with
  | nil => simp [write, eq_comm]
  | cons value values ih =>
    rw [write_cons_eq_ok_iff hp, List.forall_mem_cons, List.flatMap_cons]
    constructor
    · rintro ⟨hvalue, rest, hrest, rfl⟩
      obtain ⟨hvalues, rfl⟩ := ih.mp hrest
      exact ⟨⟨hvalue, hvalues⟩, rfl⟩
    · rintro ⟨⟨hvalue, hvalues⟩, rfl⟩
      exact ⟨hvalue, _, ih.mpr ⟨hvalues, rfl⟩, rfl⟩

/-- The parameter can be filled in with these values, or left out if there are none. -/
def Suits (p : Param) (values : List (List Char)) : Prop :=
  values = [] ∧ p.optional = true ∨ p.Allows values

/-- What a parameter writes into a path. -/
def written (p : Param) : List (List Char) → List Char
  | [] => []
  | value :: values => p.leadText ++ joinWith p.delimiter (value :: values)

theorem fill_eq_ok_iff (hp : p.IsDefault) {part : List Char} :
    p.fill values = .ok part ↔ p.Suits values ∧ part = p.written values := by
  cases values with
  | nil =>
    have hnot : ¬p.Allows [] := fun h => h.ne_nil rfl
    cases hoptional : p.optional with
    | true => simp [fill, Suits, written, hoptional, eq_comm]
    | false => simp [fill, Suits, hoptional, hnot]
  | cons value values =>
    unfold fill
    rw [if_neg (by simp)]
    split
    · next hmany =>
      have hnot : ¬p.Suits (value :: values) := by
        rintro (⟨h, _⟩ | h)
        · exact absurd h (by simp)
        · simp only [Bool.and_eq_true, decide_eq_true_eq, Bool.not_eq_true'] at hmany
          have hsingle := h.single hmany.2
          omega
      simp [hnot]
    · next hfew =>
      have hsingle : p.repeated = false → (value :: values).length = 1 := by
        intro hrepeated
        simpa [hrepeated] using hfew
      rw [write_cons_eq_ok_iff hp, written, joinWith_eq_flatMap]
      constructor
      · rintro ⟨hvalue, rest, hrest, rfl⟩
        obtain ⟨hvalues, rfl⟩ := (write_eq_ok_iff hp).mp hrest
        exact ⟨.inr ⟨by simp, hsingle, List.forall_mem_cons.mpr ⟨hvalue, hvalues⟩⟩,
          List.append_assoc _ _ _⟩
      · rintro ⟨⟨h, _⟩ | hallows, rfl⟩
        · exact absurd h (by simp)
        · obtain ⟨hvalue, hvalues⟩ := List.forall_mem_cons.mp hallows.mem
          exact ⟨hvalue, _, (write_eq_ok_iff hp).mpr ⟨hvalues, rfl⟩,
            (List.append_assoc _ _ _).symm⟩

end Param

section PathOf

variable {values : Values} {tokens : List Token}

def Token.written (values : Values) : Token → List Char
  | literal text => text
  | param p => p.written (values.get p.name)

theorem pathOf_param_eq_ok_iff {p : Param} {path : List Char} :
    pathOf values (.param p :: tokens) = .ok path ↔
      ∃ part rest, p.fill (values.get p.name) = .ok part ∧ pathOf values tokens = .ok rest ∧
        path = part ++ rest := by
  rw [pathOf]
  dsimp only [bind, Except.bind]
  cases p.fill (values.get p.name) with
  | error e => simp
  | ok part =>
    cases pathOf values tokens with
    | error e => simp
    | ok rest => simp [pure, Except.pure, eq_comm]

/-- A path is given exactly if every parameter can be filled in with its values, and then it is what
the tokens write, one after the other. -/
theorem pathOf_eq_ok_iff (h : ∀ p, .param p ∈ tokens → p.IsDefault) {path : List Char} :
    pathOf values tokens = .ok path ↔
      (∀ p, .param p ∈ tokens → p.Suits (values.get p.name)) ∧
        path = tokens.flatMap (Token.written values) := by
  induction tokens generalizing path with
  | nil => simp [pathOf, eq_comm]
  | cons token tokens ih =>
    have htail : ∀ p, .param p ∈ tokens → p.IsDefault := fun p hp =>
      h p (List.mem_cons_of_mem _ hp)
    rw [List.flatMap_cons]
    cases token with
    | literal text =>
      have hcons : pathOf values (.literal text :: tokens) = .ok path ↔
          ∃ rest, pathOf values tokens = .ok rest ∧ path = text ++ rest := by
        rw [pathOf]
        cases pathOf values tokens with
        | error e => simp [bind, Except.bind]
        | ok rest => simp [bind, Except.bind, pure, Except.pure, eq_comm]
      rw [hcons]
      simp only [ih htail, List.mem_cons, reduceCtorEq, false_or, Token.written]
      constructor
      · rintro ⟨_, ⟨hsuits, rfl⟩, rfl⟩
        exact ⟨hsuits, rfl⟩
      · rintro ⟨hsuits, rfl⟩
        exact ⟨_, ⟨hsuits, rfl⟩, rfl⟩
    | param p =>
      have hp := h p List.mem_cons_self
      rw [pathOf_param_eq_ok_iff]
      simp only [ih htail, Param.fill_eq_ok_iff hp, List.mem_cons, Token.param.injEq,
        forall_eq_or_imp]
      constructor
      · rintro ⟨_, _, ⟨hfirst, rfl⟩, ⟨hsuits, rfl⟩, rfl⟩
        exact ⟨⟨hfirst, hsuits⟩, rfl⟩
      · rintro ⟨⟨hfirst, hsuits⟩, rfl⟩
        exact ⟨_, _, ⟨hfirst, rfl⟩, ⟨hsuits, rfl⟩, rfl⟩

end PathOf

/-! ## Matching what was filled in -/

namespace Param

variable {p : Param} {values : List (List Char)}

/-- The value of a match that finds these values in the place of the parameter. -/
def joined (p : Param) : List (List Char) → Option (List Char)
  | [] => none
  | value :: values => some (joinWith p.delimiter (value :: values))

/-- What a parameter with these values takes of a text. Inside of a segment its delimiter stays even
where it has no values. -/
def taken (p : Param) : List (List Char) → List Char
  | [] => if p.inSegment then p.leadText else []
  | value :: values => p.leadText ++ joinWith p.delimiter (value :: values)

theorem Suits.takes (h : p.Suits values) : p.Takes (p.taken values) (p.joined values) := by
  cases values with
  | nil =>
    rcases h with ⟨-, hoptional⟩ | hallows
    · exact .absent hoptional
    · exact absurd rfl hallows.ne_nil
  | cons value values =>
    rcases h with ⟨hnil, -⟩ | hallows
    · exact absurd hnil (by simp)
    · exact .present (mem_values_iff.mpr ⟨_, hallows, rfl⟩)

theorem written_sublist_taken : (p.written values).Sublist (p.taken values) := by
  cases values with
  | nil => exact List.nil_sublist _
  | cons value values => exact List.Sublist.refl _

theorem written_eq_taken_iff (hlead : p.inSegment = true → p.leadText ≠ []) :
    p.written values = p.taken values ↔ (p.inSegment = true → values ≠ []) := by
  cases values with
  | cons value values => simp [written, taken]
  | nil =>
    cases hinside : p.inSegment with
    | false => simp [written, taken, hinside]
    | true =>
      rw [written, taken, if_pos hinside]
      exact iff_of_false (Ne.symm (hlead hinside)) (by simp)

end Param

/-- What a token takes of a text if the parameters have these values. -/
def Token.taken (values : Values) : Token → List Char
  | literal text => text
  | param p => p.taken (values.get p.name)

theorem flatMap_sublist {α β : Type} {f g : α → List β} {l : List α}
    (h : ∀ a ∈ l, (f a).Sublist (g a)) : (l.flatMap f).Sublist (l.flatMap g) := by
  induction l with
  | nil => exact List.Sublist.refl _
  | cons a l ih =>
    rw [List.flatMap_cons, List.flatMap_cons]
    exact (h a List.mem_cons_self).append (ih fun b hb => h b (List.mem_cons_of_mem a hb))

theorem flatMap_eq_iff_of_sublist {α β : Type} {f g : α → List β} {l : List α}
    (h : ∀ a ∈ l, (f a).Sublist (g a)) : l.flatMap f = l.flatMap g ↔ ∀ a ∈ l, f a = g a := by
  induction l with
  | nil => simp
  | cons a l ih =>
    have ha := h a List.mem_cons_self
    have hl := fun b hb => h b (List.mem_cons_of_mem a hb)
    rw [List.flatMap_cons, List.flatMap_cons, List.forall_mem_cons, ← ih hl]
    constructor
    · intro heq
      -- neither part is longer on the left, so neither is shorter
      have hlength := congrArg List.length heq
      rw [List.length_append, List.length_append] at hlength
      have hfirst : (f a).length = (g a).length := by
        have hle := ha.length_le
        have hle' := (flatMap_sublist hl).length_le
        omega
      exact List.append_inj heq hfirst
    · rintro ⟨hfirst, hrest⟩
      rw [hfirst, hrest]

section Matching

variable {values : Values} {tokens : List Token}

theorem splits_taken (h : ∀ p, .param p ∈ tokens → p.Suits (values.get p.name)) :
    Splits tokens (tokens.flatMap (Token.taken values))
      ((paramsOf tokens).map fun p => p.joined (values.get p.name)) := by
  induction tokens with
  | nil => exact .nil
  | cons token tokens ih =>
    have htokens := ih fun p hp => h p (List.mem_cons_of_mem _ hp)
    cases token with
    | literal text => exact .literal text htokens
    | param p => exact .param (h p List.mem_cons_self).takes htokens

/-- The tokens write what they take, except that the delimiters of absent parameters inside of
segments are not written. -/
theorem flatMap_written_eq_iff
    (hlead : ∀ p, .param p ∈ tokens → p.inSegment = true → p.leadText ≠ []) :
    tokens.flatMap (Token.written values) = tokens.flatMap (Token.taken values) ↔
      ∀ p, .param p ∈ tokens → p.inSegment = true → values.get p.name ≠ [] := by
  have hsublist : ∀ token ∈ tokens, (token.written values).Sublist (token.taken values) := by
    intro token _
    cases token with
    | literal text => exact List.Sublist.refl _
    | param p => exact p.written_sublist_taken
  rw [flatMap_eq_iff_of_sublist hsublist]
  constructor
  · intro h p hp
    exact (p.written_eq_taken_iff (hlead p hp)).mp (h _ hp)
  · intro h token htoken
    cases token with
    | literal text => rfl
    | param p => exact (p.written_eq_taken_iff (hlead p htoken)).mpr (h p htoken)

end Matching

theorem leadText_ne_nil {template : String} {p : Param} (hp : .param p ∈ tokensOf template)
    (hinside : p.inSegment = true) : p.leadText ≠ [] := by
  obtain ⟨c, hc⟩ := Option.isSome_iff_exists.mp (lead_isSome_of_inSegment hp hinside)
  simp [Param.leadText, hc]

/-- Whatever values a template accepts, the text that they stand for is matched by it as a whole,
absent parameters inside of segments leaving their delimiters. The path that is given is that text
exactly if no parameter inside of a segment is absent; otherwise their delimiters are missing. -/
theorem pathOf_matches {template : String} (h : WithoutGroups template) {values : Values}
    {path : List Char} (hpath : pathOf values (tokensOf template) = .ok path) :
    let whole := (tokensOf template).flatMap (Token.taken values)
    (∃ m, (exactly template).evaluate (String.ofList whole) = .ok (some m) ∧
      m.url = String.ofList whole) ∧
    (path = whole ↔
      ∀ p, .param p ∈ tokensOf template → p.inSegment = true → values.get p.name ≠ []) := by
  intro whole
  obtain ⟨hsuits, rfl⟩ := (pathOf_eq_ok_iff fun _ hp => h.isDefault hp).mp hpath
  obtain ⟨_, -, hmatch⟩ := evaluate_of_splits h (splits_taken hsuits)
  exact ⟨⟨_, hmatch, rfl⟩, flatMap_written_eq_iff fun _ hp => leadText_ne_nil hp⟩

/-- An optional parameter before a dash: it is inside of a segment. -/
theorem tokensOf_dash : tokensOf "/:a?-x" =
    [.param ⟨.named "a", some '/', ['/'], ['[', '^', '/', ']', '+', '?'], true, false, true⟩,
      .literal ['-', 'x']] := by decide +kernel

theorem withoutGroups_dash : WithoutGroups "/:a?-x" := by
  have hpieces : pieces "/:a?-x".toList =
      [.plain '/', .marker ⟨some ['a'], none, some .optional, some '-'⟩, .plain '-',
        .plain 'x'] := by decide +kernel
  rw [WithoutGroups, hpieces]
  decide

theorem pathOf_dash : pathOf [] (tokensOf "/:a?-x") = .ok ['-', 'x'] := by
  rw [tokensOf_dash]
  rfl

/-- Without a value for the parameter the slash is missing. -/
theorem pathOf_matches_dash :
    pathOf [] (tokensOf "/:a?-x") = .ok ['-', 'x'] ∧
      let whole := (tokensOf "/:a?-x").flatMap (Token.taken [])
      (∃ m, (exactly "/:a?-x").evaluate (String.ofList whole) = .ok (some m) ∧
        m.url = String.ofList whole) ∧
      (['-', 'x'] = whole ↔
        ∀ p, .param p ∈ tokensOf "/:a?-x" → p.inSegment = true → Values.get [] p.name ≠ []) :=
  ⟨pathOf_dash, pathOf_matches withoutGroups_dash pathOf_dash⟩

/-- The path that is given then is not matched. -/
theorem evaluate_dash :
    pathOf [] (tokensOf "/:a?-x") = .ok ['-', 'x'] ∧
      (exactly "/:a?-x").evaluate "-x" = .ok none := by
  refine ⟨pathOf_dash, ?_⟩
  rcases evaluate_exactly withoutGroups_dash "-x" with ⟨-, hnone⟩ | ⟨values, hsplits, -⟩
  · exact hnone
  · rw [tokensOf_dash] at hsplits
    -- the slash before the parameter has to be there
    have hslash : "-x".toList.head? = some '/' := by
      generalize "-x".toList = text at hsplits
      cases hsplits with
      | param htakes hrest =>
        cases htakes with
        | present hvalue => rfl
        | absent hoptional => rfl
    exact absurd hslash (by decide)

end MockHttp.Template
