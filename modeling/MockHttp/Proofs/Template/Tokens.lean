import MockHttp.Template.Scan

/-!
# Where tokens come from

Every parameter of a template is the parameter of one of its markers, so what holds of all
parameters that markers can turn into holds of the parameters of a template.

Results:
1. `exists_marker_of_mem_assemble`: the marker of a parameter.
2. `lead_isSome_of_inSegment`: a parameter inside of a segment has a delimiter before it.
-/

namespace MockHttp.Template

theorem mem_paramsOf {tokens : List Token} {p : Param} :
    p ∈ paramsOf tokens ↔ .param p ∈ tokens := by
  rw [paramsOf, List.mem_filterMap]
  constructor
  · rintro ⟨token, htoken, hp⟩
    cases token with
    | literal text => exact absurd hp (by simp [Token.param?])
    | param q =>
      obtain rfl : q = p := by simpa [Token.param?] using hp
      exact htoken
  · intro hp
    exact ⟨_, hp, rfl⟩

theorem param_notMem_literalOf (text : List Char) (p : Param) : .param p ∉ literalOf text := by
  unfold literalOf
  split <;> simp

theorem paramsOf_literalOf (text : List Char) (tokens : List Token) :
    paramsOf (literalOf text ++ tokens) = paramsOf tokens := by
  unfold literalOf
  split <;> rfl

/-- A parameter among the tokens of some pieces is that of a marker among the pieces, and takes
nothing along but a delimiter. -/
theorem exists_marker_of_mem_assemble {delimiters : Delimiters} {text : List Char} {escaped : Bool}
    {index : Nat} {ps : List Piece} {p : Param}
    (hp : .param p ∈ assemble delimiters text escaped index ps) :
    ∃ m lead i, .marker m ∈ ps ∧ (∀ c, lead = some c → c ∈ delimiters.leads) ∧
      p = m.toParam delimiters lead i := by
  induction ps generalizing text escaped index with
  | nil => exact absurd hp (param_notMem_literalOf _ p)
  | cons piece ps ih =>
    have hrest : ∀ {text escaped index}, .param p ∈ assemble delimiters text escaped index ps →
        ∃ m lead i, .marker m ∈ piece :: ps ∧ (∀ c, lead = some c → c ∈ delimiters.leads) ∧
          p = m.toParam delimiters lead i := by
      intro text escaped index hp
      obtain ⟨m, lead, i, hm, hlead, heq⟩ := ih hp
      exact ⟨m, lead, i, List.mem_cons_of_mem _ hm, hlead, heq⟩
    cases piece with
    | plain c => exact hrest hp
    | escaped c => exact hrest hp
    | marker m =>
      simp only [assemble, List.mem_append, List.mem_cons, Token.param.injEq] at hp
      rcases hp with hp | rfl | hp
      · exact absurd hp (param_notMem_literalOf _ p)
      · refine ⟨m, _, _, List.mem_cons_self, fun c hc => ?_, rfl⟩
        split at hc
        · split at hc
          · next h =>
            cases hc
            exact List.contains_iff_mem.mp (Bool.and_eq_true _ _ ▸ h : _ ∧ _).2
          · cases hc
        · cases hc
      · exact hrest hp

theorem lead_isSome_of_inSegment {delimiters : Delimiters} {template : List Char} {p : Param}
    (hp : .param p ∈ tokenize delimiters template) (hinside : p.inSegment = true) :
    p.lead.isSome = true := by
  obtain ⟨m, lead, i, -, -, rfl⟩ := exists_marker_of_mem_assemble hp
  simp only [Marker.toParam, Bool.and_eq_true] at hinside
  exact hinside.1.1

end MockHttp.Template
