import MockHttp.Proofs.Regex.Openings
import MockHttp.Proofs.Template.Pieces
import MockHttp.Proofs.Template.Tokens
import MockHttp.Template.Expression

/-!
# Text spliced into expressions

What an expression of a template is put together from opens no remembered group of its own. The text
around the parameters is `Inert`: it leaves every bracket as open or closed as it was. The pattern
of a parameter only `Carries` on: it may leave a bracket open or close one.

Results:
1. `inert_escapeLiteral`, `inert_endingText`, `inert_flagText`: the text around the parameters.
2. `carries_pattern`: the patterns of the parameters that a template can have.
3. `after_valueText`: a repeated pattern leaves brackets open exactly if the pattern does.
-/

namespace MockHttp.Template

open Regex Zone

/-! ## Text without groups -/

/-- Wherever the text stands, it opens no remembered group and leaves no backslash waiting. -/
structure Carries (cs : List Char) : Prop where
  settled : ∀ zone : Zone, zone.isSettled = true → (zone.after cs).isSettled = true
  reaches : ∀ zone : Zone, zone.isSettled = true →
    ∀ rest, Reaches zone (cs ++ rest) (zone.after cs) rest

/-- Moreover the text neither begins nor ends a bracket expression. -/
structure Inert (cs : List Char) : Prop extends Carries cs where
  side : ∀ zone : Zone, zone.isSettled = true → (zone.after cs = outside ↔ zone = outside)

namespace Carries

variable {a b cs : List Char} {c : Char}

theorem nil : Carries [] where
  settled _ hzone := hzone
  reaches zone _ rest := .refl zone rest

theorem append (ha : Carries a) (hb : Carries b) : Carries (a ++ b) where
  settled zone hzone := by
    rw [after_append]
    exact hb.settled _ (ha.settled zone hzone)
  reaches zone hzone rest := by
    rw [after_append, List.append_assoc]
    exact (ha.reaches zone hzone _).trans (hb.reaches _ (ha.settled zone hzone) rest)

theorem of_reaches (h : ∀ zone : Zone, zone.isSettled = true → ∃ zone' : Zone,
    zone'.isSettled = true ∧ ∀ rest, Reaches zone (cs ++ rest) zone' rest) : Carries cs := by
  have hafter (zone : Zone) (hzone : zone.isSettled = true) :
      (zone.after cs).isSettled = true ∧
        ∀ rest, Reaches zone (cs ++ rest) (zone.after cs) rest := by
    obtain ⟨zone', hsettled, hreaches⟩ := h zone hzone
    have heq := (hreaches []).after_eq
    rw [List.append_nil, after_nil] at heq
    rw [heq]
    exact ⟨hsettled, hreaches⟩
  exact ⟨fun zone hzone => (hafter zone hzone).1, fun zone hzone => (hafter zone hzone).2⟩

theorem cons (hback : c ≠ '\\')
    (hopen : c = '(' → ∀ rest, isSimple (cs ++ rest) = true ∧ remembers (cs ++ rest) = false)
    (h : Carries cs) : Carries (c :: cs) where
  settled _ hzone := h.settled _ (isSettled_step hzone hback)
  reaches _ hzone rest :=
    .cons (fun _ hc => hopen hc rest) (h.reaches _ (isSettled_step hzone hback) rest)

/-- A backslash takes the character after it along. -/
theorem pair (h : Carries cs) : Carries ('\\' :: c :: cs) := by
  have hstep (zone : Zone) (hzone : zone.isSettled = true) :
      zone.step '\\' ≠ outside ∧ ((zone.step '\\').step c).isSettled = true := by
    cases zone with
    | outside | opened | openedCaret | inside depth => exact ⟨by simp [step, within], rfl⟩
    | outsideEscape | insideEscape depth => cases hzone
  refine ⟨fun zone hzone => h.settled _ (hstep zone hzone).2, fun zone hzone rest => ?_⟩
  refine .char (by decide) (.hidden (hstep zone hzone).1 ?_)
  exact h.reaches _ (hstep zone hzone).2 rest

end Carries

theorem step_eq_outside {zone : Zone} {c : Char} (hzone : zone.isSettled = true)
    (hback : c ≠ '\\') (hopen : c ≠ '[') (hclose : c ≠ ']') :
    zone.step c = outside ↔ zone = outside := by
  have hwithin (depth : Nat) : within depth c = inside depth := by
    rw [within, if_neg hback, if_neg hopen, if_neg hclose]
  cases zone with
  | outside => rw [step, if_neg hback, if_neg hopen]
  | opened =>
    rw [step, if_neg hclose, hwithin]
    split <;> simp
  | openedCaret =>
    rw [step, if_neg hclose, hwithin]
    simp
  | inside depth => rw [step, hwithin]
  | outsideEscape | insideEscape depth => cases hzone

namespace Inert

variable {a b cs : List Char} {c : Char}

theorem nil : Inert [] := ⟨.nil, fun _ _ => Iff.rfl⟩

theorem append (ha : Inert a) (hb : Inert b) : Inert (a ++ b) := by
  refine ⟨ha.toCarries.append hb.toCarries, fun zone hzone => ?_⟩
  rw [after_append, hb.side _ (ha.settled zone hzone), ha.side zone hzone]

theorem cons (hback : c ≠ '\\') (hbracket : c ≠ '[') (hclose : c ≠ ']')
    (hopen : c = '(' → ∀ rest, isSimple (cs ++ rest) = true ∧ remembers (cs ++ rest) = false)
    (h : Inert cs) : Inert (c :: cs) := by
  refine ⟨.cons hback hopen h.toCarries, fun zone hzone => ?_⟩
  rw [after_cons, h.side _ (isSettled_step hzone hback),
    step_eq_outside hzone hback hbracket hclose]

theorem pair (h : Inert cs) : Inert ('\\' :: c :: cs) := by
  refine ⟨.pair h.toCarries, fun zone hzone => ?_⟩
  rw [after_cons, after_cons]
  cases zone with
  | outside => exact h.side outside rfl
  | opened | openedCaret =>
    exact (h.side (inside 0) rfl).trans (by simp)
  | inside depth => exact (h.side (inside depth) rfl).trans (by simp)
  | outsideEscape | insideEscape depth => cases hzone

theorem ordinary (hc : isOrdinary c = true) (h : Inert cs) : Inert (c :: cs) := by
  obtain ⟨hback, hbracket, hclose, hopen⟩ := isOrdinary_iff.mp hc
  exact .cons hback hbracket hclose (fun heq => absurd heq hopen) h

/-- A character that is ordinary stands for itself. -/
theorem single (hc : isOrdinary c = true) : Inert [c] := .ordinary hc .nil

theorem joinWith {separator : List Char} {items : List (List Char)} (hseparator : Inert separator)
    (hitems : ∀ item ∈ items, Inert item) : Inert (joinWith separator items) := by
  fun_induction Template.joinWith separator items with
  | case1 => exact .nil
  | case2 item => exact hitems item List.mem_cons_self
  | case3 item items _ ih =>
    obtain ⟨hitem, hitems⟩ := List.forall_mem_cons.mp hitems
    exact (hitem.append hseparator).append (ih hitems)

/-- The beginning of a group that is not remembered. -/
theorem bareOpening : Inert ['(', '?', ':'] :=
  .cons (by decide) (by decide) (by decide) (fun _ _ => ⟨rfl, rfl⟩)
    (.ordinary (by decide) (.single (by decide)))

theorem groupText (h : Inert cs) : Inert (groupText cs) :=
  (bareOpening.append h).append (.single (by decide))

theorem aheadText (h : Inert cs) : Inert (aheadText cs) := by
  have hopen : Inert ['(', '?', '='] :=
    .cons (by decide) (by decide) (by decide) (fun _ _ => ⟨rfl, rfl⟩)
      (.ordinary (by decide) (.single (by decide)))
  exact (hopen.append h).append (.single (by decide))

end Inert

/-! ## The text around the parameters -/

theorem inert_escapeLiteral (cs : List Char) : Inert (escapeLiteral cs) := by
  unfold escapeLiteral
  fun_induction escapeWhere isOperator cs with
  | case1 => exact .nil
  | case2 c cs _ ih => exact .pair ih
  | case3 c cs hc ih =>
    refine .ordinary (isOrdinary_of_test (fun c => !isOperator c) (by decide) ?_) ih
    rw [Bool.not_eq_true] at hc
    rw [hc]
    rfl

theorem inert_flagText (options : Options) : Inert options.flagText := by
  unfold Options.flagText
  split
  · exact .nil
  · exact .cons (by decide) (by decide) (by decide) (fun _ _ => ⟨rfl, rfl⟩)
      (.ordinary (by decide) (.ordinary (by decide) (.single (by decide))))

theorem inert_terminatorText (options : Options) : Inert options.terminatorText := by
  refine .joinWith (.single (by decide)) ?_
  intro item hitem
  rcases List.mem_append.mp hitem with hitem | hitem
  · obtain ⟨text, -, rfl⟩ := List.mem_map.mp hitem
    exact inert_escapeLiteral text
  · rw [List.mem_singleton.mp hitem]
    exact .single (by decide)

theorem inert_endingText (options : Options) (delimited : Bool) :
    Inert (options.endingText delimited) := by
  have hdelimiter := inert_escapeLiteral options.delimiters.default
  have hterminator := inert_terminatorText options
  have hoptional {cs : List Char} (h : Inert cs) : Inert (groupText cs ++ ['?']) :=
    h.groupText.append (.single (by decide))
  unfold Options.endingText
  extract_lets delimiter terminator
  split
  · refine .append ?_ ?_
    · split
      · exact .nil
      · exact hoptional hdelimiter
    · split
      · exact .single (by decide)
      · exact hterminator.aheadText
  · refine .append ?_ ?_
    · split
      · exact .nil
      · exact hoptional (hdelimiter.append hterminator.aheadText)
    · split
      · exact .nil
      · exact (hdelimiter.append (.ordinary (by decide) hterminator)).aheadText

/-! ## The patterns of parameters -/

/-- A body that ends with its group has no backslash at its end that would escape the parenthesis
after it. -/
theorem carries_escapeGroup {body : List Char} (h : IsBody body) : Carries (escapeGroup body) := by
  induction h with
  | nil => exact .nil
  | pair c _ ih => exact .pair ih
  | @char c cs hback hopen hclose _ ih =>
    unfold escapeGroup
    split
    · next heq => cases heq
    · next heq => exact absurd (List.cons.inj heq).1 hback
    · next heq => exact absurd (List.cons.inj heq).1 hback
    · next heq =>
      obtain ⟨rfl, rfl⟩ := List.cons.inj heq
      split
      · exact .pair ih
      · exact .cons hback (fun heq => absurd heq hopen) ih

theorem isBracketOperator_ne {c : Char} (hc : ¬isBracketOperator c = true) :
    c ≠ '\\' ∧ c ≠ '[' ∧ c ≠ ']' := by
  refine ⟨?_, ?_, ?_⟩ <;> rintro rfl <;> exact hc (by decide)

/-- Escaped text inside of brackets stays inside. -/
theorem reaches_escapeBrackets (cs rest : List Char) (depth : Nat) :
    Reaches (inside depth) (escapeBrackets cs ++ rest) (inside depth) rest := by
  unfold escapeBrackets
  fun_induction escapeWhere isBracketOperator cs with
  | case1 => exact .refl _ _
  | case2 c cs _ ih => exact .escape_inside ih
  | case3 c cs hc ih =>
    obtain ⟨hback, hopen, hclose⟩ := isBracketOperator_ne hc
    refine .hidden (by simp) ?_
    rw [step, within, if_neg hback, if_neg hopen, if_neg hclose]
    exact ih

/-- The same after the caret that begins a negated bracket expression. -/
theorem reaches_escapeBrackets_caret (c : Char) (cs rest : List Char) :
    Reaches openedCaret (escapeBrackets (c :: cs) ++ rest) (inside 0) rest := by
  have htail := reaches_escapeBrackets cs rest 0
  unfold escapeBrackets escapeWhere
  split
  · exact .char (by decide) (.hidden (by decide) htail)
  · next hc =>
    obtain ⟨hback, hopen, hclose⟩ := isBracketOperator_ne hc
    refine .hidden (by decide) ?_
    rw [step, if_neg hclose, within, if_neg hback, if_neg hopen, if_neg hclose]
    exact htail

/-- The bracket that closes the default pattern, and the repetition after it. -/
theorem reaches_close (depth : Nat) :
    ∃ zone' : Zone, zone'.isSettled = true ∧
      ∀ rest, Reaches (inside depth) ([']', '+', '?'] ++ rest) zone' rest := by
  have hchars {zone : Zone} (rest : List Char)
      (h : Reaches (((inside depth).step ']').step '+' |>.step '?') rest zone rest) :
      Reaches (inside depth) ([']', '+', '?'] ++ rest) zone rest :=
    .char (by decide) (.char (by decide) (.char (by decide) h))
  cases depth with
  | zero => exact ⟨outside, rfl, fun rest => hchars rest (.refl _ _)⟩
  | succ depth => exact ⟨inside depth, rfl, fun rest => hchars rest (.refl _ _)⟩

/-- The default pattern has its parentheses inside of brackets. Without a delimiter, the bracket
that was to close it stands for itself. -/
theorem carries_defaultPattern (delimiter : List Char) : Carries (defaultPattern delimiter) := by
  refine .of_reaches fun zone hzone => ?_
  -- with a bracket open already, the caret is a character like others
  have hnested (depth : Nat) (hopen : (zone.step '[').step '^' = inside depth)
      (hzone : zone ≠ outside) : ∃ zone' : Zone, zone'.isSettled = true ∧
        ∀ rest, Reaches zone (defaultPattern delimiter ++ rest) zone' rest := by
    obtain ⟨zone', hsettled, hclose⟩ := reaches_close depth
    refine ⟨zone', hsettled, fun rest => ?_⟩
    rw [defaultPattern, List.append_assoc, List.append_assoc]
    refine .char (by decide) (.char (by decide) ?_)
    rw [hopen]
    exact (reaches_escapeBrackets delimiter _ depth).trans (hclose rest)
  cases zone with
  | outside =>
    obtain ⟨zone', hsettled, hclose⟩ := reaches_close 0
    cases delimiter with
    | nil =>
      refine ⟨inside 0, rfl, fun rest => ?_⟩
      exact .char (by decide) (.char (by decide) (.char (by decide) (.char (by decide)
        (.char (by decide) (.refl _ _)))))
    | cons c cs =>
      refine ⟨zone', hsettled, fun rest => ?_⟩
      rw [defaultPattern, List.append_assoc, List.append_assoc]
      exact .char (by decide) (.char (by decide)
        ((reaches_escapeBrackets_caret c cs _).trans (hclose rest)))
  | opened => exact hnested 1 rfl (by decide)
  | openedCaret => exact hnested 1 rfl (by decide)
  | inside depth => exact hnested (depth + 1) rfl (by simp)
  | outsideEscape | insideEscape depth => cases hzone

/-- The body of the marker, if it has one, can stand in a group. -/
def Marker.IsClosed (m : Marker) : Prop :=
  ∀ body, m.body = some body → Carries (escapeGroup body)

theorem isClosed_of_mem_pieces (cs : List Char) :
    ∀ m, Piece.marker m ∈ pieces cs → m.IsClosed := by
  intro m hm body hbody
  obtain ⟨rest, hstands⟩ := (division_pieces cs).standsBefore hm
  exact carries_escapeGroup (hstands.body body hbody).2

theorem carries_toParam {m : Marker} (hm : m.IsClosed) (delimiters : Delimiters)
    (lead : Option Char) (index : Nat) : Carries (m.toParam delimiters lead index).pattern := by
  unfold Marker.toParam
  cases hbody : m.body with
  | none => exact carries_defaultPattern _
  | some body => exact hm body hbody

/-- The pattern of every parameter of a template can stand in its group. -/
theorem carries_pattern {delimiters : Delimiters} {template : List Char} :
    ∀ p ∈ paramsOf (tokenize delimiters template), Carries p.pattern := by
  intro p hp
  obtain ⟨m, lead, i, hm, -, rfl⟩ := exists_marker_of_mem_assemble (mem_paramsOf.mp hp)
  exact carries_toParam (isClosed_of_mem_pieces template m hm) delimiters lead i

/-! ## The values of parameters -/

theorem Carries.groupText {cs : List Char} (h : Carries cs) : Carries (groupText cs) :=
  (Inert.bareOpening.toCarries.append h).append (Inert.single (by decide)).toCarries

theorem carries_valueText {p : Param} (hp : Carries p.pattern) : Carries p.valueText := by
  unfold Param.valueText
  split
  · exact (hp.groupText.append ((inert_escapeLiteral _).toCarries.append hp.groupText).groupText)
      |>.append (Inert.single (by decide)).toCarries
  · exact hp

/-- A repeated pattern closes its brackets exactly if the pattern does: a second copy, read with a
bracket open, cannot close what the first one has left open. -/
theorem after_valueText {p : Param} (hp : Carries p.pattern) :
    outside.after p.valueText = outside ↔ outside.after p.pattern = outside := by
  unfold Param.valueText
  split
  · have hbetween : Inert ([')', '(', '?', ':'] ++ escapeLiteral p.delimiter ++ ['(', '?', ':']) :=
      (Inert.append (.ordinary (by decide) .bareOpening) (inert_escapeLiteral _)).append
        .bareOpening
    have hend : Inert [')', ')', '*'] :=
      .ordinary (by decide) (.ordinary (by decide) (.single (by decide)))
    have hafter : outside.after (groupText p.pattern ++
        groupText (escapeLiteral p.delimiter ++ groupText p.pattern) ++ ['*']) =
        (((outside.after p.pattern).after ([')', '(', '?', ':'] ++ escapeLiteral p.delimiter ++
          ['(', '?', ':'])).after p.pattern).after [')', ')', '*'] := by
      simp only [groupText, ← after_append, List.append_assoc]
      rfl
    rw [hafter]
    generalize [')', '(', '?', ':'] ++ escapeLiteral p.delimiter ++ ['(', '?', ':'] = between
      at hbetween
    -- the second copy begins in some zone, and ends in no less than the first copy does
    have hfirst := hp.settled outside rfl
    have hsecond := hbetween.settled _ hfirst
    rw [hend.side _ (hp.settled _ hsecond)]
    constructor
    · intro hlast
      have hbelow := after_mono (.outside hsecond) p.pattern
      rw [hlast] at hbelow
      exact hbelow.eq_outside
    · intro hclosed
      rw [hclosed, (hbetween.side outside rfl).mpr rfl, hclosed]
  · exact Iff.rfl

theorem remembers_append (cs rest : List Char) :
    remembers (cs ++ ')' :: rest) = remembers cs := by
  -- what begins with a sign other than the parenthesis begins so within `cs`
  have hhead {cs tail : List Char} {c : Char} (hc : c ≠ ')') (h : cs ++ ')' :: rest = c :: tail) :
      ∃ cs', cs = c :: cs' ∧ cs' ++ ')' :: rest = tail := by
    cases cs with
    | nil => exact absurd (List.cons.inj h).1.symm hc
    | cons d cs =>
      obtain ⟨rfl, htail⟩ := List.cons.inj h
      exact ⟨cs, rfl, htail⟩
  fun_cases remembers cs with
  | case1 | case2 | case4 | case5 => rfl
  | case3 cs hequals hexclaims =>
    refine remembers_named (fun tail h => ?_) fun tail h => ?_
    · obtain ⟨cs', rfl, -⟩ := hhead (by decide) h
      exact hequals cs' rfl
    · obtain ⟨cs', rfl, -⟩ := hhead (by decide) h
      exact hexclaims cs' rfl
  | case6 cs _ _ hangle hquote hname =>
    refine remembers_unnamed (fun tail h => ?_) (fun tail h => ?_) fun tail h => ?_
    · obtain ⟨cs', rfl, -⟩ := hhead (by decide) h
      exact hangle cs' rfl
    · obtain ⟨cs', rfl, -⟩ := hhead (by decide) h
      exact hquote cs' rfl
    · obtain ⟨cs', rfl, htail⟩ := hhead (by decide) h
      obtain ⟨cs'', rfl, -⟩ := hhead (by decide) htail
      exact hname cs'' rfl
  | case7 cs _ _ _ _ _ hquestion =>
    refine remembers_of_ne fun tail h => ?_
    obtain ⟨cs', rfl, -⟩ := hhead (by decide) h
    exact hquestion cs' rfl

/-- The text after the parenthesis of a parameter remembers its value. -/
theorem remembers_valueText (p : Param) (rest : List Char) :
    remembers (p.valueText ++ ')' :: rest) = (p.repeated || remembers p.pattern) := by
  unfold Param.valueText
  cases p.repeated with
  | true => rfl
  | false => exact remembers_append p.pattern rest

end MockHttp.Template
