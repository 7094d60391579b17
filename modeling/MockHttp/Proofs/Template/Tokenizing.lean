import Mathlib.Data.List.DropRight
import MockHttp.Proofs.Template.Pieces
import MockHttp.Proofs.Template.Tokens

/-!
# How pieces become tokens

The characters between two markers become the literal text between their parameters; only the
delimiter directly before a marker may go to its parameter instead. So nothing of a template is
lost, every marker has its parameter, and literal texts are never empty nor side by side.

Results:
1. `assembleAfter_marker`: the tokens of a marker, whatever stands before it.
2. `exists_param`: the parameter of a marker.
3. `numbers_assembleAfter`: parameters without a name are numbered in order.
4. `tokenize_division`: the one division of a template, and its tokens.
-/

namespace MockHttp.Template

/-! ## Pieces and tokens as text -/

namespace Piece

def isMarker : Piece → Bool
  | marker _ => true
  | plain _ | escaped _ => false

def isUnnamed : Piece → Bool
  | marker m => m.name.isNone
  | plain _ | escaped _ => false

def isEscaped : Piece → Bool
  | escaped _ => true
  | plain _ | marker _ => false

def marker? : Piece → Option Marker
  | marker m => some m
  | plain _ | escaped _ => none

/-- The character that a piece stands for, plain or escaped; none for a marker. -/
def text : Piece → List Char
  | plain c | escaped c => [c]
  | marker _ => []

theorem marker_or_char (piece : Piece) : (∃ m, piece = marker m) ∨
    (piece.isMarker = false ∧ piece.isUnnamed = false ∧ piece.marker? = none) := by
  cases piece with
  | plain c => exact .inr ⟨rfl, rfl, rfl⟩
  | escaped c => exact .inr ⟨rfl, rfl, rfl⟩
  | marker m => exact .inl ⟨m, rfl⟩

end Piece

def markersOf (ps : List Piece) : List Marker := ps.filterMap Piece.marker?

def sinceMarker (ps : List Piece) : List Piece := ps.rtakeWhile (!·.isMarker)

/-- The text of a literal, and the delimiter that a parameter takes along. -/
def Token.text : Token → List Char
  | literal text => text
  | param p => p.lead.toList

/-- The number of a parameter without a name. -/
def ParamName.index? : ParamName → Option Nat
  | named _ => none
  | index i => some i

/-- The parameter is that of the marker, which stands after the pieces `before`. It takes along the
delimiter directly before the marker, unless an escaped character stands between the marker and the
one before it. -/
structure Param.IsOf (delimiters : Delimiters) (before : List Piece) (m : Marker) (p : Param) :
    Prop where
  named : ∀ name, m.name = some name → p.name = .named (String.ofList name)
  unnamed : m.name = none → p.name = .index (before.countP Piece.isUnnamed)
  repeated : p.repeated = true ↔ m.modifier = some .repeated ∨ m.modifier = some .optionalRepeated
  optional : p.optional = true ↔ m.modifier = some .optional ∨ m.modifier = some .optionalRepeated
  lead : ∀ c, p.lead = some c ↔ c ∈ delimiters.leads ∧ before.getLast? = some (.plain c) ∧
    ∀ piece ∈ sinceMarker before, ∃ d, piece = .plain d
  delimiter : p.delimiter = p.lead.elim delimiters.default ([·])
  pattern : p.pattern = m.body.elim (defaultPattern p.delimiter) escapeGroup
  inSegment : p.inSegment = true ↔ ∃ c d, p.lead = some c ∧ m.next = some d ∧ d ≠ c

/-- The tokens are what the pieces stand for: a parameter for each marker in order, and all the text
in order, of which no literal is empty and none stands beside another one. -/
structure IsTokenization (delimiters : Delimiters) (ps : List Piece) (tokens : List Token) :
    Prop where
  count : (paramsOf tokens).length = (markersOf ps).length
  param : ∀ before m after, ps = before ++ .marker m :: after →
    ∃ p, (paramsOf tokens)[(markersOf before).length]? = some p ∧ p.IsOf delimiters before m
  numbers : (paramsOf tokens).filterMap (·.name.index?) = List.range (ps.countP Piece.isUnnamed)
  text : tokens.flatMap Token.text = ps.flatMap Piece.text
  literal : ∀ text, .literal text ∈ tokens → text ≠ []
  apart : tokens.IsChain fun a b => a.param?.isSome = true ∨ b.param?.isSome = true

/-! ## The delimiter before a marker -/

section TakeLead

variable {delimiters : Delimiters} {text : List Char} {escaped : Bool}

/-- The delimiter that a parameter takes along from the text before it, which comes latest character
first, and what is left of that text. -/
def takeLead (delimiters : Delimiters) (text : List Char) (escaped : Bool) :
    Option Char × List Char :=
  match text with
  | c :: before =>
    if !escaped && delimiters.leads.contains c then (some c, before) else (none, text)
  | [] => (none, [])

theorem takeLead_eq_some_iff {c : Char} : (takeLead delimiters text escaped).1 = some c ↔
    c ∈ delimiters.leads ∧ text.head? = some c ∧ escaped = false := by
  cases text with
  | nil => simp [takeLead]
  | cons d text =>
    rw [takeLead]
    split
    · next h =>
      simp only [Bool.and_eq_true, Bool.not_eq_true', List.contains_iff_mem] at h
      constructor
      · rintro ⟨⟩
        exact ⟨h.2, rfl, h.1⟩
      · rintro ⟨-, hd, -⟩
        exact hd
    · next h =>
      constructor
      · exact nofun
      · rintro ⟨hc, ⟨⟩, rfl⟩
        exact absurd (by simp [hc]) h

/-- Nothing is lost between the text and the parameter. -/
theorem takeLead_text : (takeLead delimiters text escaped).2.reverse ++
    (takeLead delimiters text escaped).1.toList = text.reverse := by
  cases text with
  | nil => rfl
  | cons c text =>
    rw [takeLead]
    split <;> simp

theorem assemble_marker (index : Nat) (m : Marker) (ps : List Piece) :
    assemble delimiters text escaped index (.marker m :: ps) =
      literalOf (takeLead delimiters text escaped).2 ++
        .param (m.toParam delimiters (takeLead delimiters text escaped).1 index) ::
          assemble delimiters [] false (if m.name.isNone then index + 1 else index) ps := rfl

end TakeLead

/-! ## Tokens after some pieces -/

/-- The text since the last of some markers, latest character first. -/
def pendingText (before : List Piece) : List Char :=
  ((sinceMarker before).flatMap Piece.text).reverse

/-- An escaped character stands after the last marker. -/
def isPendingEscaped (before : List Piece) : Bool := (sinceMarker before).any Piece.isEscaped

/-- The tokens of some pieces, and of the text that is left over from the pieces before them. -/
def assembleAfter (delimiters : Delimiters) (before ps : List Piece) : List Token :=
  assemble delimiters (pendingText before) (isPendingEscaped before)
    (before.countP Piece.isUnnamed) ps

/-- The parameter of a marker after some pieces. -/
def paramAfter (delimiters : Delimiters) (before : List Piece) (m : Marker) : Param :=
  m.toParam delimiters
    (takeLead delimiters (pendingText before) (isPendingEscaped before)).1
    (before.countP Piece.isUnnamed)

section AssembleAfter

variable {delimiters : Delimiters} {before ps : List Piece} {m : Marker}

theorem sinceMarker_marker : sinceMarker (before ++ [Piece.marker m]) = [] :=
  List.rtakeWhile_concat_neg _ _ _ (by simp [Piece.isMarker])

theorem sinceMarker_concat {piece : Piece} (h : piece.isMarker = false) :
    sinceMarker (before ++ [piece]) = sinceMarker before ++ [piece] :=
  List.rtakeWhile_concat_pos _ _ _ (by simp [h])

theorem assembleAfter_nil : assembleAfter delimiters before [] = literalOf (pendingText before) :=
  rfl

theorem pendingText_concat {piece : Piece} (h : piece.isMarker = false) :
    pendingText (before ++ [piece]) = piece.text.reverse ++ pendingText before := by
  simp [pendingText, sinceMarker_concat h]

/-- A character is added to the text that is left over. -/
theorem assembleAfter_char {piece : Piece} (h : piece.isMarker = false) :
    assembleAfter delimiters before (piece :: ps) =
      assembleAfter delimiters (before ++ [piece]) ps := by
  have hescaped : isPendingEscaped (before ++ [piece]) =
      (isPendingEscaped before || piece.isEscaped) := by
    simp [isPendingEscaped, sinceMarker_concat h]
  rw [assembleAfter, assembleAfter, pendingText_concat h, hescaped]
  cases piece with
  | plain c => simp [assemble, Piece.text, Piece.isEscaped, Piece.isUnnamed]
  | escaped c => simp [assemble, Piece.text, Piece.isEscaped, Piece.isUnnamed]
  | marker m => exact absurd h (by simp [Piece.isMarker])

/-- A marker leaves nothing over. -/
theorem assembleAfter_marker : assembleAfter delimiters before (.marker m :: ps) =
    literalOf (takeLead delimiters (pendingText before) (isPendingEscaped before)).2 ++
      .param (paramAfter delimiters before m) ::
        assembleAfter delimiters (before ++ [.marker m]) ps := by
  have hcount : (before ++ [Piece.marker m]).countP Piece.isUnnamed =
      if m.name.isNone then before.countP Piece.isUnnamed + 1
      else before.countP Piece.isUnnamed := by
    have hunnamed : (Piece.marker m).isUnnamed = m.name.isNone := rfl
    rw [List.countP_append, List.countP_singleton, hunnamed]
    cases m.name <;> rfl
  rw [assembleAfter, assemble_marker, assembleAfter, hcount, pendingText, isPendingEscaped,
    pendingText, isPendingEscaped, sinceMarker_marker]
  rfl

theorem tokenize_eq (template : List Char) :
    tokenize delimiters template = assembleAfter delimiters [] (pieces template) := rfl

/-! ## Parameters and markers -/

/-- If no character since the last marker is escaped, all of them are plain. -/
theorem isPendingEscaped_eq_false_iff :
    isPendingEscaped before = false ↔ ∀ piece ∈ sinceMarker before, ∃ d, piece = .plain d := by
  rw [isPendingEscaped, List.any_eq_false]
  refine forall₂_congr fun piece hpiece => ?_
  have hmarker := List.mem_rtakeWhile_imp hpiece
  cases piece with
  | plain c => simp [Piece.isEscaped]
  | escaped c => simp [Piece.isEscaped]
  | marker m => exact absurd hmarker (by simp [Piece.isMarker])

theorem head?_pendingText (h : ∀ piece ∈ sinceMarker before, ∃ d, piece = .plain d) {c : Char} :
    (pendingText before).head? = some c ↔ before.getLast? = some (.plain c) := by
  rcases List.eq_nil_or_concat' before with rfl | ⟨earlier, piece, rfl⟩
  · simp [pendingText, sinceMarker]
  · cases piece with
    | marker m => simp [pendingText, sinceMarker_marker]
    | plain d =>
      rw [pendingText_concat rfl]
      simp [Piece.text]
    | escaped d =>
      have hmem : Piece.escaped d ∈ sinceMarker (earlier ++ [.escaped d]) := by
        rw [sinceMarker_concat rfl]
        simp
      obtain ⟨e, he⟩ := h _ hmem
      exact absurd he (by simp)

/-- The parameter that a marker gets after some pieces is the one that it should have. -/
theorem isOf_paramAfter : (paramAfter delimiters before m).IsOf delimiters before m := by
  have hlead : ∀ c, (paramAfter delimiters before m).lead = some c ↔ c ∈ delimiters.leads ∧
      before.getLast? = some (.plain c) ∧ ∀ piece ∈ sinceMarker before, ∃ d, piece = .plain d := by
    intro c
    refine takeLead_eq_some_iff.trans (and_congr_right fun _ => ?_)
    rw [isPendingEscaped_eq_false_iff]
    exact and_congr_left fun h => head?_pendingText h
  refine ⟨?_, ?_, ?_, ?_, hlead, ?_, ?_, ?_⟩
  · intro name hname
    simp [paramAfter, Marker.toParam, hname]
  · intro hname
    simp [paramAfter, Marker.toParam, hname]
  · rcases hmodifier : m.modifier with _ | _ | _ | _ <;>
      simp [paramAfter, Marker.toParam, hmodifier, Modifier.isRepeated]
  · rcases hmodifier : m.modifier with _ | _ | _ | _ <;>
      simp [paramAfter, Marker.toParam, hmodifier, Modifier.isOptional]
  · simp only [paramAfter, Marker.toParam]
    split <;> simp_all
  · simp only [paramAfter, Marker.toParam]
    split <;> simp_all
  · simp only [paramAfter, Marker.toParam]
    rcases (takeLead delimiters (pendingText before) (isPendingEscaped before)).1 with _ | c <;>
      rcases m.next with _ | d <;> simp

theorem paramsOf_assembleAfter_nil : paramsOf (assembleAfter delimiters before []) = [] := by
  rw [assembleAfter_nil, ← List.append_nil (literalOf _), paramsOf_literalOf]
  rfl

theorem paramsOf_assembleAfter_marker :
    paramsOf (assembleAfter delimiters before (.marker m :: ps)) =
      paramAfter delimiters before m ::
        paramsOf (assembleAfter delimiters (before ++ [.marker m]) ps) := by
  rw [assembleAfter_marker, paramsOf_literalOf]
  rfl

/-- As many parameters stand before that of a marker as markers before it. -/
theorem exists_param {mid after : List Piece} (hps : ps = mid ++ .marker m :: after) :
    ∃ p, (paramsOf (assembleAfter delimiters before ps))[(markersOf mid).length]? = some p ∧
      p.IsOf delimiters (before ++ mid) m := by
  induction mid generalizing before ps with
  | nil =>
    subst hps
    rw [List.nil_append, paramsOf_assembleAfter_marker, List.append_nil]
    exact ⟨_, rfl, isOf_paramAfter⟩
  | cons piece mid ih =>
    subst hps
    have hrest := @ih (before ++ [piece]) _ rfl
    rw [List.append_assoc, List.singleton_append] at hrest
    rw [List.cons_append]
    rcases piece.marker_or_char with ⟨m', rfl⟩ | ⟨hchar, -, hnone⟩
    · rw [paramsOf_assembleAfter_marker]
      exact hrest
    · rw [assembleAfter_char hchar, markersOf, List.filterMap_cons_none hnone]
      exact hrest

theorem length_paramsOf : (paramsOf (assembleAfter delimiters before ps)).length =
    (markersOf ps).length := by
  induction ps generalizing before with
  | nil =>
    rw [paramsOf_assembleAfter_nil]
    rfl
  | cons piece ps ih =>
    rcases piece.marker_or_char with ⟨m', rfl⟩ | ⟨hchar, -, hnone⟩
    · rw [paramsOf_assembleAfter_marker, List.length_cons, ih]
      rfl
    · rw [assembleAfter_char hchar, ih, markersOf, markersOf, List.filterMap_cons_none hnone]

/-- Parameters without a name are numbered from the number of those before them on. -/
theorem numbers_assembleAfter :
    (paramsOf (assembleAfter delimiters before ps)).filterMap (·.name.index?) =
      List.range' (before.countP Piece.isUnnamed) (ps.countP Piece.isUnnamed) := by
  induction ps generalizing before with
  | nil =>
    rw [paramsOf_assembleAfter_nil]
    rfl
  | cons piece ps ih =>
    rcases piece.marker_or_char with ⟨m', rfl⟩ | ⟨hchar, hunnamed, -⟩
    · rw [paramsOf_assembleAfter_marker, List.filterMap_cons, ih]
      have hof := @isOf_paramAfter delimiters before m'
      cases hname : m'.name with
      | none => simp [hof.unnamed hname, ParamName.index?, Piece.isUnnamed, hname, List.range'_succ]
      | some name => simp [hof.named name hname, ParamName.index?, Piece.isUnnamed, hname]
    · rw [assembleAfter_char hchar, ih]
      simp [hunnamed]

/-! ## Text -/

theorem text_literalOf (text : List Char) : (literalOf text).flatMap Token.text = text.reverse := by
  unfold literalOf
  split <;> simp_all [Token.text]

/-- All text is kept, and in order. -/
theorem text_assembleAfter : (assembleAfter delimiters before ps).flatMap Token.text =
    (pendingText before).reverse ++ ps.flatMap Piece.text := by
  induction ps generalizing before with
  | nil => simp [assembleAfter_nil, text_literalOf]
  | cons piece ps ih =>
    rcases piece.marker_or_char with ⟨m', rfl⟩ | ⟨hchar, -, -⟩
    · have hlead : Token.text (.param (paramAfter delimiters before m')) =
          (takeLead delimiters (pendingText before) (isPendingEscaped before)).1.toList := rfl
      rw [assembleAfter_marker, List.flatMap_append, text_literalOf, List.flatMap_cons, hlead, ih,
        ← List.append_assoc, takeLead_text, pendingText, pendingText, sinceMarker_marker]
      rfl
    · rw [assembleAfter_char hchar, ih, pendingText_concat hchar]
      simp

theorem ne_nil_of_mem_literalOf {text text' : List Char} (h : .literal text ∈ literalOf text') :
    text ≠ [] := by
  unfold literalOf at h
  split at h
  · exact absurd h List.not_mem_nil
  · next hne =>
    obtain rfl := Token.literal.inj (List.mem_singleton.mp h)
    simpa using hne

theorem ne_nil_of_mem_assembleAfter {text : List Char}
    (h : .literal text ∈ assembleAfter delimiters before ps) : text ≠ [] := by
  induction ps generalizing before with
  | nil => exact ne_nil_of_mem_literalOf h
  | cons piece ps ih =>
    rcases piece.marker_or_char with ⟨m', rfl⟩ | ⟨hchar, -, -⟩
    · rw [assembleAfter_marker] at h
      rcases List.mem_append.mp h with h | h
      · exact ne_nil_of_mem_literalOf h
      · exact ih (by simpa using h)
    · rw [assembleAfter_char hchar] at h
      exact ih h

/-- A literal text is followed by a parameter or by nothing. -/
theorem apart_literalOf {text : List Char} {p : Param} {tokens : List Token}
    (h : tokens.IsChain fun a b => a.param?.isSome = true ∨ b.param?.isSome = true) :
    (literalOf text ++ .param p :: tokens).IsChain
      fun a b => a.param?.isSome = true ∨ b.param?.isSome = true := by
  have hparam : (Token.param p :: tokens).IsChain
      fun a b => a.param?.isSome = true ∨ b.param?.isSome = true := by
    cases tokens with
    | nil => exact .singleton _
    | cons token tokens => exact .cons_cons (.inl rfl) h
  unfold literalOf
  split
  · exact hparam
  · exact .cons_cons (.inr rfl) hparam

theorem apart_assembleAfter : (assembleAfter delimiters before ps).IsChain
    fun a b => a.param?.isSome = true ∨ b.param?.isSome = true := by
  induction ps generalizing before with
  | nil =>
    rw [assembleAfter_nil]
    unfold literalOf
    split <;> simp
  | cons piece ps ih =>
    rcases piece.marker_or_char with ⟨m', rfl⟩ | ⟨hchar, -, -⟩
    · rw [assembleAfter_marker]
      exact apart_literalOf ih
    · rw [assembleAfter_char hchar]
      exact ih

end AssembleAfter

/-- Every template is divided into escape pairs, markers and plain characters in one way only, and
its tokens keep all of that: there is a parameter for every marker, in order, with the name or the
next number, the modifier and the group of the marker; literal texts and the delimiters that
parameters take along are all plain and escaped characters, in order; no literal is empty, and none
stands beside another one. -/
theorem tokenize_division (delimiters : Delimiters) (template : List Char) :
    ∃ ps, (∀ qs, Division template qs ↔ qs = ps) ∧
      IsTokenization delimiters ps (tokenize delimiters template) := by
  refine ⟨pieces template, fun qs => division_iff, ?_⟩
  rw [tokenize_eq]
  exact {
    count := length_paramsOf
    param := fun before m after hps => exists_param hps
    numbers := numbers_assembleAfter.trans List.range_eq_range'.symm
    text := text_assembleAfter
    literal := fun text h => ne_nil_of_mem_assembleAfter h
    apart := apart_assembleAfter }

end MockHttp.Template
