import MockHttp.Proofs.Regex.Sense
import MockHttp.Proofs.Regex.Writing
import MockHttp.Template.Expression

/-!
# Fragments of expressions

The expression of a template is put together from fragments of text. `Denotes` ties a fragment to
what it reads: the text writes pieces wherever it stands, and the pieces together have a sense. Each
way to put fragments together comes with one rule.

Results:
1. `Denotes.literal`, `Denotes.noneOf`: escaped text, and values without some characters.
2. `Denotes.append`, `DenotesBody.bare`, `DenotesOne.optional`: sequences, groups and what may be
   absent.
3. `Denotes.atEnd`, `denotes_beforeAny`: the end of the text, and conditions on what follows.
-/

namespace MockHttp.Template

open Regex Computability

/-! ## Expressions that fit a sense -/

/-- The expression is steady and reads in the sense of `R`. With `solid` it never stays where it is,
and with `plain` no step limit applies to it. -/
structure Fits (e : Expr) (solid plain : Bool) (R : Sense) : Prop where
  steady : e.isSteady = true
  consumes : solid = true → e.consumes = true
  isPlain : plain = true → e.isPlain [] = true
  means : e.Means R

theorem isSteady_ofSeq (es : List Expr) : (Expr.ofSeq es).isSteady = es.all Expr.isSteady := by
  fun_induction Expr.ofSeq es with
  | case1 => rfl
  | case2 e => simp
  | case3 e es hne ih => rw [Expr.isSteady, ih, List.all_cons]

theorem consumes_ofSeq (es : List Expr) : (Expr.ofSeq es).consumes = es.any Expr.consumes := by
  fun_induction Expr.ofSeq es with
  | case1 => rfl
  | case2 e => simp
  | case3 e es hne ih => rw [Expr.consumes, ih, List.any_cons]

theorem isPlain_ofSeq (asked : List Nat) (es : List Expr) :
    (Expr.ofSeq es).isPlain asked = es.all (Expr.isPlain asked) := by
  fun_induction Expr.ofSeq es with
  | case1 => rfl
  | case2 e => simp
  | case3 e es hne ih => rw [Expr.isPlain, ih, List.all_cons]

theorem repeatable_of_consumes {e : Expr} (he : e.consumes = true) :
    Progress.repeatable e = true := by
  cases e with
  | empty | anchor a | look side negated e => exact absurd he (by simp [Expr.consumes])
  | _ => rfl

theorem ne_empty_of_consumes {e : Expr} (he : e.consumes = true) : e ≠ .empty := by
  rintro rfl
  exact absurd he (by simp [Expr.consumes])

namespace Fits

variable {e : Expr} {es fs : List Expr} {solid solid' plain plain' : Bool} {R S : Sense}
  {L : Language Char}

theorem empty : Fits .empty false true (.text 1) :=
  ⟨rfl, by simp, fun _ => rfl, .empty⟩

theorem append (hes : Fits (.ofSeq es) solid plain R) (hfs : Fits (.ofSeq fs) solid' plain' S) :
    Fits (.ofSeq (es ++ fs)) (solid || solid') (plain && plain') (R.andThen S) where
  steady := by
    have he := hes.steady
    have hf := hfs.steady
    rw [isSteady_ofSeq] at he hf ⊢
    rw [List.all_append, he, hf]
    rfl
  consumes := by
    intro h
    have he := hes.consumes
    have hf := hfs.consumes
    rw [consumes_ofSeq] at he hf ⊢
    rw [List.any_append, Bool.or_eq_true]
    exact (Bool.or_eq_true _ _ ▸ h).imp he hf
  isPlain := by
    intro h
    have he := hes.isPlain
    have hf := hfs.isPlain
    rw [isPlain_ofSeq] at he hf ⊢
    obtain ⟨h, h'⟩ := Bool.and_eq_true _ _ ▸ h
    rw [List.all_append, he h, hf h']
    rfl
  means := hes.means.ofSeq_append hfs.means

theorem char (c : Char) : Fits (.char c false) true true (.text {[c]}) :=
  ⟨rfl, fun _ => rfl, fun _ => rfl, .char c⟩

theorem alt {a b : Expr} (ha : Fits a solid plain R) (hb : Fits b solid' plain' S) :
    Fits (.alt a b) (solid && solid') (plain && plain') (R.orElse S) where
  steady := by simp [Expr.isSteady, ha.steady, hb.steady]
  consumes := by
    intro h
    obtain ⟨h, h'⟩ := Bool.and_eq_true _ _ ▸ h
    simp [Expr.consumes, ha.consumes h, hb.consumes h']
  isPlain := by
    intro h
    obtain ⟨h, h'⟩ := Bool.and_eq_true _ _ ▸ h
    simp [Expr.isPlain, ha.isPlain h, hb.isPlain h']
  means := ha.means.alt hb.means

theorem group (n : Nat) (he : Fits e solid plain R) : Fits (.group n e) solid plain R :=
  ⟨he.steady, he.consumes, fun h => by simp [Expr.isPlain, he.isPlain h], he.means.group n⟩

theorem optional (greedy : Bool) (he : Fits e solid plain R) :
    Fits (.iter e 0 (some 1) greedy) false plain R.atMostOnce :=
  ⟨by simp [Expr.isSteady, he.steady], by simp, he.isPlain, he.means.optional greedy⟩

theorem star (greedy : Bool) (he : Fits e true plain (.text L)) :
    Fits (.iter e 0 none greedy) false plain (.text L∗) :=
  ⟨by simp [Expr.isSteady, he.steady, he.consumes rfl], by simp, he.isPlain,
    he.means.iter_any (he.consumes rfl) greedy⟩

theorem some (greedy : Bool) (he : Fits e true plain (.text L)) :
    Fits (.iter e 1 none greedy) true plain (.text (L * L∗)) :=
  ⟨by simp [Expr.isSteady, he.steady, he.consumes rfl],
    fun _ => by simp [Expr.consumes, he.consumes rfl], he.isPlain,
    he.means.iter_some (he.consumes rfl) greedy⟩

theorem ahead (he : Fits e solid plain R) : Fits (.look .ahead false e) false false R.ahead :=
  ⟨he.steady, by simp, by simp, he.means.ahead⟩

end Fits

/-! ## Fragments -/

/-- The texts that are not empty and hold none of some characters. -/
def valuesWithout (excluded : List Char) : Language Char :=
  {v | v ≠ [] ∧ ∀ c ∈ v, c ∉ excluded}

/-- The characters of a text, one after the other. -/
theorem Fits.literal (text : List Char) :
    Fits (.ofSeq (charExprs text)) (!text.isEmpty) true (.text {text}) := by
  induction text with
  | nil => exact .empty
  | cons c text ih =>
    have hchar : Fits (.ofSeq [.char c false]) true true (.text {[c]}) := .char c
    have hcons := hchar.append ih
    have hprod : ({[c]} * {text} : Language Char) = {c :: text} := Set.image2_singleton
    rw [Sense.text_andThen, hprod] at hcons
    exact hcons

/-- At least one character that is not excluded. -/
theorem Fits.noneOf (excluded : List Char) :
    Fits (.iter (.set (Brackets.otherChars excluded)) 1 none false) true true
      (.text (valuesWithout excluded)) := by
  have hvalues : oneOf (Brackets.otherChars excluded).contains *
      (oneOf (Brackets.otherChars excluded).contains)∗ = valuesWithout excluded := by
    ext v
    rw [mem_oneOf_mul_kstar]
    simp [Brackets.otherChars, CharSet.foldIf, CharSet.contains, Brackets.contains_withChars]
    rfl
  have hset : Fits (.set (Brackets.otherChars excluded)) true true _ :=
    ⟨rfl, fun _ => rfl, fun _ => rfl, .set _⟩
  exact hvalues ▸ hset.some false

/-- The end of the text. -/
theorem Fits.textEnd : Fits (.anchor .textEnd) false true .atEnd :=
  ⟨rfl, by simp, fun _ => rfl, .textEnd⟩

theorem writes_textStart {ic : Bool} : Writes ['^'] 0 0 (fun _ => [.anchor .textStart]) ic := by
  have hone : WritesOne ['^'] 0 0 (fun _ => .anchor .textStart) ic := by
    refine ⟨fun rest => rfl, by simp, fun p rest hp => ?_⟩
    have hstep : p.step '^' rest = .ok (p.push (.anchor .textStart), rest) := by
      unfold Progress.step
      rw [hp.flags]
      rfl
    exact readAll_step hp.flags (skipBlank_cons (by decide)) hstep (Nat.le_refl _)
  exact hone.toWrites

theorem writes_textEnd {ic : Bool} : Writes ['$'] 0 0 (fun _ => [.anchor .textEnd]) ic := by
  have hone : WritesOne ['$'] 0 0 (fun _ => .anchor .textEnd) ic := by
    refine ⟨fun rest => rfl, by simp, fun p rest hp => ?_⟩
    have hstep : p.step '$' rest = .ok (p.push (.anchor .textEnd), rest) := by
      unfold Progress.step
      rw [hp.flags]
      rfl
    exact readAll_step hp.flags (skipBlank_cons (by decide)) hstep (Nat.le_refl _)
  exact hone.toWrites

/-- Nothing, before one of some texts or the end of the text. -/
def beforeAny (texts : List (List Char)) : Sense :=
  fun w s => w = [] ∧ (s = [] ∨ ∃ text ∈ texts, text <+: s)

/-- The text writes pieces that together fit a sense. -/
def Denotes (text : List Char) (groups depth : Nat) (solid plain : Bool) (R : Sense) : Prop :=
  ∃ pieces, Writes text groups depth pieces ∧ ∀ g, Fits (.ofSeq (pieces g)) solid plain R

/-- The text writes one piece that fits a sense and can be repeated. -/
def DenotesOne (text : List Char) (groups depth : Nat) (plain : Bool) (R : Sense) : Prop :=
  ∃ piece, WritesOne text groups depth piece ∧ ∀ g, Fits (piece g) true plain R

/-- Between parentheses the text writes an expression that fits a sense. -/
def DenotesBody (text : List Char) (groups depth : Nat) (solid plain : Bool) (R : Sense) : Prop :=
  ∃ alts, WritesBody text groups depth alts ∧
    ∀ g, alts g ≠ [] ∧ Fits (.ofAlt (alts g)) solid plain R

variable {text text' : List Char} {m n depth : Nat} {solid solid' plain plain' : Bool} {R S : Sense}
  {L : Language Char}

theorem DenotesOne.toDenotes (h : DenotesOne text n depth plain R) :
    Denotes text n depth true plain R := by
  obtain ⟨piece, hwrites, hfits⟩ := h
  exact ⟨_, hwrites.toWrites, hfits⟩

namespace Denotes

theorem nil : Denotes [] 0 depth false true (.text 1) := ⟨_, .nil, fun _ => .empty⟩

theorem append (h : Denotes text m depth solid plain R)
    (h' : Denotes text' n depth solid' plain' S) :
    Denotes (text ++ text') (m + n) depth (solid || solid') (plain && plain') (R.andThen S) := by
  obtain ⟨es, hwrites, hfits⟩ := h
  obtain ⟨fs, hwrites', hfits'⟩ := h'
  exact ⟨_, hwrites.append hwrites', fun g => (hfits g).append (hfits' (g + m))⟩

theorem mono {depth' : Nat} (h : Denotes text n depth solid plain R) (hle : depth ≤ depth') :
    Denotes text n depth' solid plain R := by
  obtain ⟨es, hwrites, hfits⟩ := h
  exact ⟨es, hwrites.mono hle, hfits⟩

theorem literal (text : List Char) :
    Denotes (escapeLiteral text) 0 depth (!text.isEmpty) true (.text {text}) :=
  ⟨_, (writes_literal text).mono (Nat.zero_le _), fun _ => .literal text⟩

theorem noneOf {excluded : List Char} (h : excluded ≠ []) :
    Denotes (defaultPattern excluded) 0 depth true true (.text (valuesWithout excluded)) :=
  ⟨_, (writes_noneOf h).mono (Nat.zero_le _), fun _ => .noneOf excluded⟩

theorem atEnd : Denotes ['$'] 0 depth false true .atEnd :=
  ⟨_, writes_textEnd.mono (Nat.zero_le _), fun _ => .textEnd⟩

theorem toBody (h : Denotes text n depth solid plain R) :
    DenotesBody text n depth solid plain R := by
  obtain ⟨es, hwrites, hfits⟩ := h
  exact ⟨_, hwrites.toBody, fun g => ⟨by simp, hfits g⟩⟩

/-- One alternative before others. -/
theorem or (h : Denotes text m depth solid plain R)
    (h' : DenotesBody text' n depth solid' plain' S) :
    DenotesBody (text ++ '|' :: text') (m + n) depth (solid && solid') (plain && plain')
      (R.orElse S) := by
  obtain ⟨es, hwrites, hfits⟩ := h
  obtain ⟨alts, hwrites', hfits'⟩ := h'
  refine ⟨_, hwrites.or hwrites', fun g => ⟨by simp, ?_⟩⟩
  obtain ⟨hne, hfits'⟩ := hfits' (g + m)
  obtain ⟨e, rest, heq⟩ := List.exists_cons_of_ne_nil hne
  rw [heq] at hfits' ⊢
  exact (hfits g).alt hfits'

end Denotes

namespace DenotesBody

theorem bare (h : DenotesBody text n depth true plain R) :
    DenotesOne (groupText text) n (depth + 1) plain R := by
  obtain ⟨alts, hwrites, hfits⟩ := h
  exact ⟨_, hwrites.bare fun g => ne_empty_of_consumes ((hfits g).2.consumes rfl),
    fun g => (hfits g).2⟩

theorem ahead (h : DenotesBody text n depth solid plain R) :
    Denotes (aheadText text) n (depth + 1) false false R.ahead := by
  obtain ⟨alts, hwrites, hfits⟩ := h
  refine ⟨_, hwrites.ahead.toWrites, fun g => (hfits g).2.ahead⟩

end DenotesBody

theorem begins_beforeAny {texts : List (List Char)} {s : List Char} :
    (beforeAny texts).Begins s ↔ s = [] ∨ ∃ text ∈ texts, text <+: s := by
  constructor
  · rintro ⟨_, s, rfl, rfl, hs⟩
    exact hs
  · intro hs
    exact ⟨[], s, rfl, rfl, hs⟩

theorem joinWith_cons (separator item : List Char) {items : List (List Char)} (h : items ≠ []) :
    joinWith separator (item :: items) = item ++ separator ++ joinWith separator items := by
  cases items with
  | nil => exact absurd rfl h
  | cons next items => rfl

theorem alternatives_cons (text : List Char) (texts : List (List Char)) :
    joinWith ['|'] ((text :: texts).map escapeLiteral ++ [['$']]) =
      escapeLiteral text ++ '|' :: joinWith ['|'] (texts.map escapeLiteral ++ [['$']]) := by
  rw [List.map_cons, List.cons_append, joinWith_cons _ _ (by simp)]
  simp

/-- Literal texts and the end of the text as alternatives. -/
theorem denotes_alternatives (texts : List (List Char)) :
    DenotesBody (joinWith ['|'] (texts.map escapeLiteral ++ [['$']])) 0 0 false
      true (fun w s => w ∈ texts ∨ w = [] ∧ s = []) := by
  induction texts with
  | nil =>
    have hsense : Sense.atEnd = fun w s => w ∈ ([] : List (List Char)) ∨ w = [] ∧ s = [] := by
      funext w s
      simp [Sense.atEnd]
    exact hsense ▸ Denotes.atEnd.toBody
  | cons text texts ih =>
    have hsense : (Sense.text {text}).orElse (fun w s => w ∈ texts ∨ w = [] ∧ s = []) =
        fun w s => w ∈ text :: texts ∨ w = [] ∧ s = [] := by
      funext w s
      simp only [List.mem_cons, or_assoc]
      rfl
    have hor := (Denotes.literal text).or ih
    rw [hsense, ← alternatives_cons, Bool.and_false] at hor
    exact hor

/-- A condition on what follows: it begins with one of some texts, or nothing follows. -/
theorem denotes_beforeAny (texts : List (List Char)) :
    Denotes (aheadText (joinWith ['|'] (texts.map escapeLiteral ++ [['$']]))) 0 1 false false
      (beforeAny texts) := by
  have hsense : Sense.ahead (fun w s => w ∈ texts ∨ w = [] ∧ s = []) = beforeAny texts := by
    funext w s
    refine propext (and_congr_right fun _ => ⟨?_, ?_⟩)
    · rintro ⟨u, rest, rfl, hu | ⟨rfl, rfl⟩⟩
      · exact .inr ⟨u, hu, List.prefix_append u rest⟩
      · exact .inl rfl
    · rintro (rfl | ⟨u, hu, rest, rfl⟩)
      · exact ⟨[], [], rfl, .inr ⟨rfl, rfl⟩⟩
      · exact ⟨u, rest, rfl, .inl hu⟩
  exact hsense ▸ (denotes_alternatives texts).ahead

namespace DenotesOne

theorem optional (h : DenotesOne text n depth plain R) :
    Denotes (text ++ ['?']) n depth false plain R.atMostOnce := by
  obtain ⟨piece, hwrites, hfits⟩ := h
  exact ⟨_, hwrites.optional fun g => repeatable_of_consumes ((hfits g).consumes rfl),
    fun g => (hfits g).optional true⟩

end DenotesOne

end MockHttp.Template
