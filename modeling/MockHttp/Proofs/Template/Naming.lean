import Mathlib.Data.List.Find
import Mathlib.Data.List.Nodup
import MockHttp.Proofs.Members
import MockHttp.Proofs.Regex.Zones
import MockHttp.Proofs.Template.Store
import MockHttp.Proofs.Template.Tokenizing
import MockHttp.Proofs.Text.Digits

/-!
# Values by name

A match holds its parameters in order, and a name may occur several times. A value is looked up in
three ways: by a text that a name answers to, in the map of the values that are there, and in the
document, where each name stands once. All three mean the last parameter of a name, but the map does
not know absent values, and a name that is a numeral is not told from the number of a parameter
without a name.

Results:
1. `names_of_evaluate`: a match has the parameters of its template.
2. `answersTo_iff`: which names answer to a text.
3. `RouteMatch.get_iff_paramsMap`: where a value and the map agree.
4. `RouteMatch.layout_params`: the parameters in the document.
-/

namespace MockHttp.Template

open Regex (bind_eq_ok)

/-- The names of the parameters of a match, in order. -/
def RouteMatch.names (m : RouteMatch) : List ParamName := m.params.map (·.1)

/-! ## The names of a match -/

theorem names_of_matchText {p : Pattern} {template text : String} {exact : Bool} {m : RouteMatch}
    (h : p.matchText template text exact = .ok (some m)) :
    m.path = template ∧ m.names = p.params.map (·.name) := by
  unfold Pattern.matchText at h
  split at h
  · cases h
  · cases h
  · next found _ =>
    have hnames (valueOf : Param × Nat → Option String) : (p.params.zipIdx.map fun param =>
        (param.1.name, valueOf param)).map (·.1) = p.params.map (·.name) := by
      rw [List.map_map]
      exact (List.map_map (g := Param.name) (f := Prod.fst)).symm.trans
        (congrArg (List.map Param.name) (List.zipIdx_map_fst 0 p.params))
    dsimp only at h
    -- the url is a slash or the part that matched
    split at h <;> split at h
    · cases h
    · cases h
      exact ⟨rfl, hnames _⟩
    · cases h
    · cases h
      exact ⟨rfl, hnames _⟩

/-- A match is one of a template, whose parameters it has. -/
theorem names_of_firstMatch {options : Options} {uri : String} {exact : Bool}
    {templates : List String} {m : RouteMatch}
    (h : firstMatch options uri exact templates = .ok (some m)) :
    m.names = (paramsOf (tokenize options.delimiters m.path.toList)).map (·.name) := by
  induction templates with
  | nil => cases h
  | cons template rest ih =>
    obtain ⟨pattern, hcompile, hfound⟩ := bind_eq_ok h
    obtain ⟨found, hmatch, hrest⟩ := bind_eq_ok hfound
    cases found with
    | none => exact ih hrest
    | some m' =>
      cases hrest
      obtain ⟨rfl, hnames⟩ := names_of_matchText hmatch
      obtain ⟨re, -, heq⟩ := bind_eq_ok hcompile
      cases heq
      exact hnames

theorem names_of_evaluate {pattern : RoutePattern} {uri : String} {m : RouteMatch}
    (h : pattern.evaluate uri = .ok (some m)) :
    m.names = (paramsOf (tokenize {} m.path.toList)).map (·.name) := names_of_firstMatch h

/-- A template has more characters than the number of any of its parameters. -/
theorem index_lt_length {delimiters : Delimiters} {template : List Char} {i : Nat}
    (h : .index i ∈ (paramsOf (tokenize delimiters template)).map (·.name)) :
    i < template.length := by
  obtain ⟨p, hp, hname⟩ := List.mem_map.mp h
  have hmem : i ∈ (paramsOf (tokenize delimiters template)).filterMap (·.name.index?) :=
    List.mem_filterMap.mpr ⟨p, hp, by rw [hname]; rfl⟩
  rw [tokenize_eq, numbers_assembleAfter, List.mem_range'_1] at hmem
  calc i < (pieces template).countP Piece.isUnnamed := by simpa using hmem.2
    _ ≤ (pieces template).length := List.countP_le_length
    _ ≤ template.length := (division_pieces template).length_le

/-- The numbers of the parameters of a match are numbers of 64 bits, if its template is not longer
than such a number. -/
theorem le_maxWord_of_evaluate {pattern : RoutePattern} {uri : String} {m : RouteMatch}
    (hm : pattern.evaluate uri = .ok (some m)) (hsize : m.path.length ≤ Text.maxWord) :
    ∀ i, .index i ∈ m.names → i ≤ Text.maxWord := by
  intro i hi
  rw [names_of_evaluate hm] at hi
  exact Nat.le_trans (Nat.le_of_lt (index_lt_length hi)) hsize

/-! ## Names and texts -/

namespace ParamName

variable {name : ParamName} {n : String}

theorem toString_eq_iff :
    name.toString = n ↔ name = .named n ∨ ∃ i, name = .index i ∧ n = Nat.repr i := by
  cases name with
  | named name => simp [toString]
  | index i => simp [toString, eq_comm]

/-- A name answers to itself, and a number to every text that it is read from. -/
theorem answersTo_iff :
    name.answersTo n = true ↔ name = .named n ∨ ∃ i, name = .index i ∧ Text.readWord n = .ok i := by
  cases name with
  | named name => simp [answersTo]
  | index i =>
    rw [answersTo]
    split <;> simp_all

end ParamName

/-! ## Values and the map -/

namespace RouteMatch

variable {m : RouteMatch} {n : String}

/-- The last parameter with that name as text has no value. -/
def EndsAbsent (m : RouteMatch) (n : String) : Prop :=
  ∃ before name after, m.params = before ++ (name, none) :: after ∧ name.toString = n ∧
    ∀ p ∈ after, p.1.toString ≠ n

theorem endsAbsent_iff : m.EndsAbsent n ↔
    ∃ name, m.params.reverse.find? (·.1.toString == n) = some (name, none) := by
  constructor
  · rintro ⟨before, name, after, hparams, hname, hafter⟩
    refine ⟨name, List.find?_eq_some_iff_append.mpr ⟨by simpa using hname, after.reverse,
      before.reverse, by simp [hparams], fun p hp => ?_⟩⟩
    simpa using hafter p (List.mem_reverse.mp hp)
  · rintro ⟨name, hfind⟩
    obtain ⟨hname, after, before, hparams, hafter⟩ := List.find?_eq_some_iff_append.mp hfind
    refine ⟨before.reverse, name, after.reverse, ?_, by simpa using hname, fun p hp => ?_⟩
    · rw [← List.reverse_reverse m.params, hparams]
      simp
    · simpa using hafter p (List.mem_reverse.mp hp)

/-- Among the values that are there a text finds the first one of its name, unless the first
parameter of that name has none. -/
theorem lookup_present {params : List (ParamName × Option String)}
    (h : ∀ name, params.find? (·.1.toString == n) ≠ some (name, none)) :
    (params.filterMap fun (name, value) => value.map (name.toString, ·)).lookup n =
      (params.find? (·.1.toString == n)).bind (·.2) := by
  induction params with
  | nil => rfl
  | cons param params ih =>
    obtain ⟨name, value⟩ := param
    rw [List.find?_cons] at h ⊢
    cases hname : name.toString == n with
    | true =>
      simp only [hname] at h ⊢
      cases value with
      | none => exact absurd rfl (h name)
      | some v => simp [beq_iff_eq.mp hname]
    | false =>
      simp only [hname] at h ⊢
      rw [← ih h]
      cases value with
      | none => rfl
      | some v => simp [lookup_pair, Ne.symm (by simpa using hname : name.toString ≠ n)]

/-- Looking up a name and looking it up in the map give the same value, unless the last parameter of
that name has none. The text must not be another spelling of the number of a parameter without a
name. -/
theorem get_iff_paramsMap {pattern : RoutePattern} {uri : String}
    (hm : pattern.evaluate uri = .ok (some m)) (hsize : m.path.length ≤ Text.maxWord)
    (hn : ∀ i, .index i ∈ m.names → Text.readWord n = .ok i → n = Nat.repr i) {v : String} :
    m.get n = some v ↔ m.paramsMap.lookup n = some v ∧ ¬m.EndsAbsent n := by
  have hanswers : ∀ p ∈ m.params.reverse, p.1.answersTo n = (p.1.toString == n) := by
    intro p hp
    have hname : p.1 ∈ m.names := List.mem_map_of_mem (List.mem_reverse.mp hp)
    rw [Bool.eq_iff_iff, ParamName.answersTo_iff, beq_iff_eq, ParamName.toString_eq_iff]
    refine or_congr_right (exists_congr fun i => and_congr_right fun hi => ⟨hn i (hi ▸ hname), ?_⟩)
    rintro rfl
    exact Text.readWord_repr (le_maxWord_of_evaluate hm hsize i (hi ▸ hname))
  have hget : m.get n = (m.params.reverse.find? (·.1.toString == n)).bind (·.2) := by
    rw [get, lastWhere, List.find?_congr hanswers]
  -- the last of the pairs is the first one in reverse, as it is for `get`
  rw [hget, paramsMap, lookup_sortMembers, ← List.filterMap_reverse, endsAbsent_iff]
  by_cases habsent : ∃ name, m.params.reverse.find? (·.1.toString == n) = some (name, none)
  · obtain ⟨name, hfind⟩ := habsent
    simp [hfind]
  · rw [lookup_present (not_exists.mp habsent), and_iff_left habsent]

/-- A match whose second parameter has the name of the first one and no value. -/
def endingAbsent : RouteMatch :=
  ⟨"/:id/:id?", "/a", true, [(.named "id", some "a"), (.named "id", none)]⟩

theorem evaluate_endingAbsent :
    RoutePattern.evaluate ⟨["/:id/:id?"], true, false, false⟩ "/a" =
      .ok (some endingAbsent) := by decide +kernel

/-- The map gives the value of the first parameter where looking up the name gives none. -/
theorem get_iff_paramsMap_endingAbsent :
    endingAbsent.get "id" = none ∧ endingAbsent.paramsMap = [("id", "a")] ∧
      endingAbsent.EndsAbsent "id" := by
  have hget : endingAbsent.get "id" = none := by decide
  have hmap : endingAbsent.paramsMap = [("id", "a")] := by decide
  have hiff := @get_iff_paramsMap endingAbsent "id" _ _ evaluate_endingAbsent (by decide)
    (fun i hi => absurd hi (by simp [names, endingAbsent])) "a"
  refine ⟨hget, hmap, ?_⟩
  by_contra hpresent
  have hvalue := hiff.mpr ⟨by rw [hmap]; rfl, hpresent⟩
  rw [hget] at hvalue
  cases hvalue

/-! ## Parameters in the document -/

theorem sublist_lastParams (params : List (ParamName × Option String)) :
    (lastParams params).Sublist params := by
  induction params with
  | nil => exact .slnil
  | cons param params ih =>
    rw [lastParams]
    split
    · exact ih.cons param
    · exact ih.cons_cons param

/-- Each name occurs once. -/
theorem nodup_lastParams (params : List (ParamName × Option String)) :
    ((lastParams params).map (·.1)).Nodup := by
  induction params with
  | nil => exact .nil
  | cons param params ih =>
    rw [lastParams]
    split
    · exact ih
    · next hlast =>
      refine List.nodup_cons.mpr ⟨fun hmem => hlast ?_, ih⟩
      obtain ⟨p, hp, hname⟩ := List.mem_map.mp hmem
      exact List.any_eq_true.mpr ⟨p, (sublist_lastParams params).subset hp, by simp [hname]⟩

/-- A parameter is kept if it is the last one of its name. -/
theorem mem_lastParams_iff {params : List (ParamName × Option String)}
    {p : ParamName × Option String} :
    p ∈ lastParams params ↔ params.reverse.find? (·.1 == p.1) = some p := by
  induction params with
  | nil => simp [lastParams]
  | cons param params ih =>
    rw [lastParams, List.reverse_cons, List.find?_append]
    -- a parameter of another name is never the one that is found
    by_cases hname : param.1 = p.1
    · cases hfind : params.reverse.find? (·.1 == p.1) with
      | some later =>
        have hlater : params.any (·.1 == param.1) = true :=
          List.any_eq_true.mpr ⟨later, List.mem_reverse.mp (List.mem_of_find?_eq_some hfind), by
            simpa [hname] using List.find?_some hfind⟩
        rw [if_pos hlater, ih, hfind]
        rfl
      | none =>
        have hlast : ¬params.any (·.1 == param.1) = true := by
          rw [hname, List.any_eq_true]
          rintro ⟨later, hmem, hlater⟩
          exact List.find?_eq_none.mp hfind later (List.mem_reverse.mpr hmem) hlater
        have hnew : p ∉ lastParams params := by
          rw [ih, hfind]
          simp
        have hfirst : [param].find? (·.1 == p.1) = some param := by simp [hname]
        rw [if_neg hlast, List.mem_cons, or_iff_left hnew, hfirst, Option.none_or,
          Option.some_inj, eq_comm]
    · have hne : [param].find? (·.1 == p.1) = none := by simp [hname]
      rw [hne, Option.or_none, ← ih]
      split
      · rfl
      · rw [List.mem_cons, or_iff_right]
        rintro rfl
        exact hname rfl

theorem names_lastParams {params : List (ParamName × Option String)} {name : ParamName} :
    name ∈ (lastParams params).map (·.1) ↔ name ∈ params.map (·.1) := by
  constructor
  · intro h
    exact ((sublist_lastParams params).map _).subset h
  · intro h
    obtain ⟨p, hp, rfl⟩ := List.mem_map.mp h
    cases hfind : params.reverse.find? (·.1 == p.1) with
    | none =>
      exact absurd (List.find?_eq_none.mp hfind p (List.mem_reverse.mpr hp)) (by simp)
    | some q =>
      have hname : q.1 = p.1 := by simpa using List.find?_some hfind
      exact List.mem_map.mpr ⟨q, mem_lastParams_iff.mpr (hname ▸ hfind), hname⟩

/-- Names of a match that are the same as text are a numeral and a number. -/
theorem toString_inj_iff (hbound : ∀ i, .index i ∈ m.names → i ≤ Text.maxWord) :
    (∀ name ∈ m.names, ∀ other ∈ m.names, name.toString = other.toString → name = other) ↔
      ∀ i, .index i ∈ m.names → .named (Nat.repr i) ∉ m.names := by
  constructor
  · intro h i hi hnumeral
    exact ParamName.noConfusion (h _ hi _ hnumeral rfl)
  · intro h name hname other hother heq
    cases name with
    | named text =>
      cases other with
      | named text' => exact congrArg _ heq
      | index j =>
        obtain rfl : text = Nat.repr j := heq
        exact absurd hname (h j hother)
    | index i =>
      cases other with
      | named text =>
        obtain rfl : Nat.repr i = text := heq
        exact absurd hother (h i hname)
      | index j =>
        have hi := Text.readWord_repr (hbound i hname)
        have hj := Text.readWord_repr (hbound j hother)
        rw [show Nat.repr i = Nat.repr j from heq, hj] at hi
        rw [Except.ok.inj hi]

/-- A name of a match answers to another one as text only if it is the same, unless a numeral meets
a number. -/
theorem answersTo_toString_iff (hbound : ∀ i, .index i ∈ m.names → i ≤ Text.maxWord)
    {name other : ParamName} (hname : name ∈ m.names) (hother : other ∈ m.names)
    (hnumeral : ∀ i, .named name.toString ∈ m.names → .index i ∈ m.names →
      Text.readWord name.toString ≠ .ok i) :
    other.answersTo name.toString = true ↔ other = name := by
  rw [ParamName.answersTo_iff]
  cases name with
  | named text =>
    refine or_iff_left ?_
    rintro ⟨i, rfl, hi⟩
    exact hnumeral i hname hother hi
  | index i =>
    have hi : Text.readWord (Nat.repr i) = .ok i := Text.readWord_repr (hbound i hname)
    constructor
    · rintro (rfl | ⟨j, rfl, hj⟩)
      · exact absurd hi (hnumeral i hother hname)
      · rw [show Text.readWord (Nat.repr i) = .ok j from hj] at hi
        rw [Except.ok.inj hi]
    · rintro rfl
      exact .inr ⟨i, rfl, hi⟩

/-- In the document the parameters are an object with the names of the match as text, all of them
and no others. They are distinct unless a parameter is called by the number of one that has no name.
The value of each is the one that looking it up gives, unless it is called by a numeral that is
read as the number of a parameter without a name. -/
theorem layout_params {pattern : RoutePattern} {uri : String}
    (hm : pattern.evaluate uri = .ok (some m)) (hsize : m.path.length ≤ Text.maxWord) :
    ∃ entries : List (String × Option String),
      m.layout = .object [
        ("path", .value (.string m.path)), ("url", .value (.string m.url)),
        ("is_exact", .value (.bool m.isExact)),
        ("params", .object (entries.map fun (k, v) => (k, .value (Json.ofString? v))))] ∧
      (∀ k, k ∈ entries.map (·.1) ↔ ∃ name ∈ m.names, name.toString = k) ∧
      ((entries.map (·.1)).Nodup ↔ ∀ i, .index i ∈ m.names → .named (Nat.repr i) ∉ m.names) ∧
      ∀ k v, (k, v) ∈ entries →
        (∀ i, .named k ∈ m.names → .index i ∈ m.names → Text.readWord k ≠ .ok i) →
          v = m.get k := by
  have hbound := le_maxWord_of_evaluate hm hsize
  have hkeys : ((lastParams m.params).map fun p => (p.1.toString, p.2)).map (·.1) =
      ((lastParams m.params).map (·.1)).map ParamName.toString := by
    rw [List.map_map, List.map_map]
    rfl
  refine ⟨(lastParams m.params).map fun p => (p.1.toString, p.2), ?_, fun k => ?_, ?_, ?_⟩
  · simp [layout, List.map_map, Function.comp_def]
  · rw [hkeys, List.mem_map]
    exact exists_congr fun name => and_congr_left fun _ => names_lastParams
  · rw [hkeys, ← toString_inj_iff hbound, List.nodup_map_iff_inj_on (nodup_lastParams _)]
    simp only [names_lastParams]
    rfl
  · intro k v hkv hnumeral
    obtain ⟨p, hp, heq⟩ := List.mem_map.mp hkv
    cases heq
    have hname : p.1 ∈ m.names := names_lastParams.mp (List.mem_map_of_mem hp)
    have hanswers : ∀ q ∈ m.params.reverse, q.1.answersTo p.1.toString = (q.1 == p.1) := by
      intro q hq
      have hother : q.1 ∈ m.names := List.mem_map_of_mem (List.mem_reverse.mp hq)
      rw [Bool.eq_iff_iff, answersTo_toString_iff hbound hname hother hnumeral, beq_iff_eq]
    rw [get, lastWhere, List.find?_congr hanswers, mem_lastParams_iff.mp hp]
    rfl

/-- A match in which a parameter is called by the number of the next one. -/
def calledByNumber : RouteMatch :=
  ⟨"/:0/(b)", "/a/b", true, [(.named "0", some "a"), (.index 0, some "b")]⟩

theorem evaluate_calledByNumber :
    RoutePattern.evaluate ⟨["/:0/(b)"], true, false, false⟩ "/a/b" =
      .ok (some calledByNumber) := by decide +kernel

/-- Both parameters are in the document, under the same name. -/
theorem layout_params_calledByNumber :
    calledByNumber.layout = .object [
      ("path", .value (.string "/:0/(b)")), ("url", .value (.string "/a/b")),
      ("is_exact", .value (.bool true)),
      ("params", .object [("0", .value (.string "a")), ("0", .value (.string "b"))])] ∧
    ¬∀ i, .index i ∈ calledByNumber.names → .named (Nat.repr i) ∉ calledByNumber.names := by
  refine ⟨rfl, fun hclash => ?_⟩
  obtain ⟨entries, hlayout, -, hdistinct, -⟩ :=
    layout_params evaluate_calledByNumber (by decide)
  have hshown : [("0", .value (.string "a")), ("0", .value (.string "b"))] =
      entries.map fun (k, v) => (k, Json.Layout.value (Json.ofString? v)) := by
    simp only [layout, Json.Layout.object.injEq, List.cons.injEq, Prod.mk.injEq, true_and,
      and_true] at hlayout
    exact hlayout
  have hkeys : ["0", "0"] = entries.map (·.1) := by
    have hfirst := congrArg (List.map (·.1)) hshown
    rwa [List.map_map] at hfirst
  have hnodup := hdistinct.mpr hclash
  rw [← hkeys] at hnodup
  exact absurd hnodup (by decide)

end RouteMatch

end MockHttp.Template
