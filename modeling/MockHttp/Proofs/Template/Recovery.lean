import MockHttp.Proofs.Template.Filling

/-!
# Values taken back from a match

A match tells for every parameter the text of its values. Taken apart at the delimiters, these are
values to fill the template in with, and where no delimiter has been lost the path that they give is
the text that was matched.

Results:
1. `get_valuesOf`: what is taken back for a parameter, if no two have the same name.
2. `pathOf_valuesOf`: filling the values of a match in gives the matched text.
-/

namespace MockHttp.Template

namespace Values

variable {values : Values} {name other : ParamName} {given : List (List Char)}

theorem get_set_self : (values.set name given).get name = given := by
  simp [get, set, List.reverse_append]

theorem get_set_of_ne (h : other ≠ name) :
    (values.set name given).get other = values.get other := by
  have hne : (other == name) = false := beq_false_of_ne h
  rw [get, get, set, List.reverse_append, List.reverse_singleton, List.singleton_append,
    List.lookup_cons, hne, ← List.filter_reverse, lookup_filter h]

/-- The values with those in the text that a match gives a parameter, if it gives one. -/
def add (values : Values) (p : Param) : Option String → Values
  | none => values
  | some text => values.set p.name (p.parts text.toList)

end Values

def valuesOf (params : List Param) (m : RouteMatch) : Values :=
  (params.zip (m.params.map (·.2))).foldl (fun values x => values.add x.1 x.2) []

/-- The values in the text that a parameter has taken; none where it is absent. -/
def Param.partsOf (p : Param) : Option (List Char) → List (List Char)
  | none => []
  | some text => p.parts text

section Add

variable {values : Values} {name : ParamName} {p : Param} {value : Option String}
  {l : List (Param × Option String)}

theorem get_add_of_ne (h : name ≠ p.name) : (values.add p value).get name = values.get name := by
  cases value with
  | none => rfl
  | some text => exact Values.get_set_of_ne h

theorem get_add_self (h : values.get p.name = []) :
    (values.add p value).get p.name = p.partsOf (value.map String.toList) := by
  cases value with
  | none => exact h
  | some text => exact Values.get_set_self

theorem get_foldl_of_notMem (h : name ∉ l.map (·.1.name)) :
    (l.foldl (fun values x => values.add x.1 x.2) values).get name = values.get name := by
  induction l generalizing values with
  | nil => rfl
  | cons x l ih =>
    rw [List.map_cons, List.mem_cons, not_or] at h
    rw [List.foldl_cons, ih h.2, get_add_of_ne h.1]

theorem get_foldl_of_mem (hnames : (l.map (·.1.name)).Nodup) (hmem : (p, value) ∈ l)
    (hnone : values.get p.name = []) :
    (l.foldl (fun values x => values.add x.1 x.2) values).get p.name =
      p.partsOf (value.map String.toList) := by
  induction l generalizing values with
  | nil => exact absurd hmem List.not_mem_nil
  | cons x l ih =>
    rw [List.map_cons, List.nodup_cons] at hnames
    rw [List.foldl_cons]
    rcases List.mem_cons.mp hmem with rfl | hmem
    · rw [get_foldl_of_notMem hnames.1, get_add_self hnone]
    · have hne : p.name ≠ x.1.name := by
        intro heq
        exact hnames.1 (heq ▸ List.mem_map_of_mem (f := fun x => x.1.name) hmem)
      exact ih hnames.2 hmem ((get_add_of_ne hne).trans hnone)

end Add

theorem mem_zip_map {α β γ : Type} {l : List α} {l' : List β} {f : β → γ} {a : α} {b : β}
    (h : (a, b) ∈ l.zip l') : (a, f b) ∈ l.zip (l'.map f) := by
  rw [List.zip_map_right]
  exact List.mem_map_of_mem (f := Prod.map id f) h

section Recovery

variable {template uri : String} {values : List (Option (List Char))}

/-- A parameter gets back the values in the part of the text that it has taken. -/
theorem get_valuesOf (hnames : ((paramsOf (tokensOf template)).map (·.name)).Nodup)
    (hlength : values.length = (paramsOf (tokensOf template)).length) {p : Param}
    {value : Option (List Char)} (hmem : (p, value) ∈ (paramsOf (tokensOf template)).zip values) :
    (valuesOf (paramsOf (tokensOf template)) (wholeMatch template uri values)).get p.name =
      p.partsOf value := by
  have hback : (value.map String.ofList).map String.toList = value := by
    cases value with
    | none => rfl
    | some text => exact congrArg some String.toList_ofList
  rw [valuesOf, values_wholeMatch hlength, ← hback]
  refine get_foldl_of_mem ?_ (mem_zip_map hmem) rfl
  have hfirst : ((paramsOf (tokensOf template)).zip (values.map (·.map String.ofList))).map
      Prod.fst = paramsOf (tokensOf template) := List.map_fst_zip (by simp [hlength])
  rw [← hfirst, List.map_map] at hnames
  exact hnames

end Recovery

section Splits

variable {tokens : List Token} {text : List Char} {values : List (Option (List Char))}
  {given : Values}

/-- Every parameter that takes a part of a text can be filled in with the values in it, and writes
that part unless it is absent inside of a segment. -/
theorem Param.Takes.written_eq {p : Param} {part : List Char} {value : Option (List Char)}
    (hp : p.IsDefault) (h : p.Takes part value)
    (hpresent : p.optional = true → p.inSegment = true → value ≠ none) :
    p.Suits (p.partsOf value) ∧ p.written (p.partsOf value) = part := by
  cases h with
  | present hvalue =>
    obtain ⟨hallows, hjoin⟩ := p.parts_spec hp.2 hvalue
    refine ⟨.inr hallows, ?_⟩
    conv_rhs => rw [← hjoin]
    rw [partsOf]
    obtain ⟨first, rest, heq⟩ := List.exists_cons_of_ne_nil hallows.ne_nil
    rw [heq, written]
  | absent hoptional =>
    have houtside : ¬p.inSegment = true := fun hinside => hpresent hoptional hinside rfl
    rw [if_neg houtside]
    exact ⟨.inl ⟨rfl, hoptional⟩, rfl⟩

/-- A text that is split among some tokens is given back by the values in it. -/
theorem Splits.pathOf_eq (hdefault : ∀ p, .param p ∈ tokens → p.IsDefault)
    (h : Splits tokens text values)
    (hgiven : ∀ x ∈ (paramsOf tokens).zip values, given.get x.1.name = x.1.partsOf x.2)
    (hpresent : ∀ x ∈ (paramsOf tokens).zip values,
      x.1.optional = true → x.1.inSegment = true → x.2 ≠ none) :
    pathOf given tokens = .ok text := by
  rw [pathOf_eq_ok_iff hdefault]
  induction h with
  | nil => exact ⟨fun p hp => absurd hp List.not_mem_nil, rfl⟩
  | literal text h ih =>
    obtain ⟨hsuits, rfl⟩ := ih (fun p hp => hdefault p (List.mem_cons_of_mem _ hp)) hgiven hpresent
    exact ⟨fun p hp => hsuits p (by simpa using hp), rfl⟩
  | @param tokens rest part values p value htakes h ih =>
    have hzip : (paramsOf (.param p :: tokens)).zip (value :: values) =
        (p, value) :: (paramsOf tokens).zip values := rfl
    rw [hzip, List.forall_mem_cons] at hgiven hpresent
    obtain ⟨hsuits, rfl⟩ := ih (fun q hq => hdefault q (List.mem_cons_of_mem _ hq))
      hgiven.2 hpresent.2
    obtain ⟨hfirst, rfl⟩ := htakes.written_eq (hdefault p List.mem_cons_self) hpresent.1
    refine ⟨fun q hq => ?_, ?_⟩
    · rcases List.mem_cons.mp hq with heq | hq
      · obtain rfl : q = p := by simpa using heq
        rw [hgiven.1]
        exact hfirst
      · exact hsuits q hq
    · rw [List.flatMap_cons, Token.written, hgiven.1]

end Splits

/-- A template whose parameters have names of their own gives the text back that it has matched, if
it is filled in with the values of the match and no optional parameter inside of a segment was
absent. Every value on the way passes the test of its parameter. -/
theorem pathOf_valuesOf {template uri : String} (h : WithoutGroups template)
    (hnames : ((paramsOf (tokensOf template)).map (·.name)).Nodup) {m : RouteMatch}
    (hm : (exactly template).evaluate uri = .ok (some m))
    (hpresent : ∀ p value, (p, value) ∈ (paramsOf (tokensOf template)).zip (m.params.map (·.2)) →
      p.optional = true → p.inSegment = true → value ≠ none) :
    pathOf (valuesOf (paramsOf (tokensOf template)) m) (tokensOf template) = .ok uri.toList ∧
      ∀ p text, (p, some text) ∈ (paramsOf (tokensOf template)).zip (m.params.map (·.2)) →
        ∀ part ∈ p.parts text.toList, p.admits part = .ok true := by
  obtain ⟨values, hsplits, rfl⟩ := splits_of_evaluate h hm
  have hlength := hsplits.length_eq
  have hdefault : ∀ p, .param p ∈ tokensOf template → p.IsDefault := fun _ hp => h.isDefault hp
  rw [values_wholeMatch hlength] at hpresent ⊢
  have hpath : pathOf (valuesOf (paramsOf (tokensOf template)) (wholeMatch template uri values))
      (tokensOf template) = .ok uri.toList := by
    refine hsplits.pathOf_eq hdefault (fun x hx => get_valuesOf hnames hlength hx) ?_
    rintro ⟨p, value⟩ hx hoptional hinside rfl
    exact hpresent p none (mem_zip_map hx) hoptional hinside rfl
  refine ⟨hpath, fun p text hmem part hpart => ?_⟩
  -- what a path was made from has been admitted
  have hp := mem_paramsOf.mp (List.of_mem_zip hmem).1
  have hsuits := ((pathOf_eq_ok_iff hdefault).mp hpath).1 p hp
  rw [List.zip_map_right, List.mem_map] at hmem
  obtain ⟨⟨q, value⟩, hx, heq⟩ := hmem
  obtain ⟨rfl, hvalue⟩ : q = p ∧ value.map String.ofList = some text := by simpa using heq
  obtain ⟨found, rfl, rfl⟩ := Option.map_eq_some_iff.mp hvalue
  rw [String.toList_ofList] at hpart
  rw [get_valuesOf hnames hlength hx, Param.partsOf] at hsuits
  obtain ⟨answer, hadmits, hiff⟩ := Param.admits_eq (hdefault q hp) part
  rcases hsuits with ⟨hnil, -⟩ | hallows
  · exact absurd (hnil ▸ hpart) List.not_mem_nil
  · rw [hadmits, hiff.mpr (hallows.mem part hpart)]

/-- One parameter inside of a segment, and a repeated one after it. -/
theorem pathOf_valuesOf_repeated :
    ∃ m, (exactly "/:a?-:b+").evaluate "/x-y/z" = .ok (some m) ∧
      m.params = [(.named "a", some "x"), (.named "b", some "y/z")] ∧
      pathOf (valuesOf (paramsOf (tokensOf "/:a?-:b+")) m) (tokensOf "/:a?-:b+") =
        .ok "/x-y/z".toList := by
  have hpieces : pieces "/:a?-:b+".toList =
      [.plain '/', .marker ⟨some ['a'], none, some .optional, some '-'⟩, .plain '-',
        .marker ⟨some ['b'], none, some .repeated, none⟩] := by decide +kernel
  have hparams : paramsOf (tokensOf "/:a?-:b+") =
      [⟨.named "a", some '/', ['/'], ['[', '^', '/', ']', '+', '?'], true, false, true⟩,
        ⟨.named "b", none, ['/'], ['[', '^', '/', ']', '+', '?'], false, true, false⟩] := by
    decide +kernel
  have hgroups : WithoutGroups "/:a?-:b+" := by
    rw [WithoutGroups, hpieces]
    decide
  let m : RouteMatch :=
    ⟨"/:a?-:b+", "/x-y/z", true, [(.named "a", some "x"), (.named "b", some "y/z")]⟩
  have hm : (exactly "/:a?-:b+").evaluate "/x-y/z" = .ok (some m) := by decide +kernel
  refine ⟨m, hm, rfl, (pathOf_valuesOf hgroups ?_ hm ?_).1⟩
  · rw [hparams]
    decide
  · rintro p value hmem - - rfl
    have hvalue := (List.of_mem_zip hmem).2
    exact absurd hvalue (by decide)

end MockHttp.Template
