import MockHttp.Proofs.Regex.Surroundings

/-!
# Reading with and without case

Whether case is ignored decides which characters an expression accepts, and nothing else. The
`outline` of an expression leaves that out; a text is read as expressions of one outline with case
and without, or it cannot be read either way.

Results:
1. `isPlain_outline`, `boundsOrdered_outline`, `isSteady_outline`: what the outline decides.
2. `Brackets.read_outline`: bracket expressions are read with and without case alike.
3. `Progress.Passes.recase`: so are enclosed texts.
-/

namespace MockHttp.Regex

/-! ## Outlines -/

/-- The expression without which characters it accepts. -/
def Expr.outline : Expr → Expr
  | .char c _ => .char c false
  | .set _ => .set .empty
  | .seq a b => .seq a.outline b.outline
  | .alt a b => .alt a.outline b.outline
  | .group n e => .group n e.outline
  | .iter e lo hi greedy => .iter e.outline lo hi greedy
  | .look side negated e => .look side negated e.outline
  | .atomic e => .atomic e.outline
  | e => e

namespace Expr

theorem outline_outline (e : Expr) : e.outline.outline = e.outline := by
  induction e with
  | seq a b iha ihb => exact congrArg₂ seq iha ihb
  | alt a b iha ihb => exact congrArg₂ alt iha ihb
  | group n e ih => exact congrArg (group n) ih
  | iter e lo hi greedy ih => exact congrArg (iter · lo hi greedy) ih
  | look side negated e ih => exact congrArg (look side negated) ih
  | atomic e ih => exact congrArg atomic ih
  | _ => rfl

theorem isPlain_outline (asked : List Nat) (e : Expr) :
    e.outline.isPlain asked = e.isPlain asked := by
  induction e with
  | seq a b iha ihb | alt a b iha ihb => exact congrArg₂ (· && ·) iha ihb
  | group n e ih => exact congrArg (!asked.contains n && ·) ih
  | iter e lo hi greedy ih => exact ih
  | _ => rfl

theorem boundsOrdered_outline (e : Expr) : e.outline.boundsOrdered = e.boundsOrdered := by
  induction e with
  | seq a b iha ihb | alt a b iha ihb => exact congrArg₂ (· && ·) iha ihb
  | group n e ih | look side negated e ih | atomic e ih => exact ih
  | iter e lo hi greedy ih => exact congrArg (hi.all (lo ≤ ·) && ·) ih
  | _ => rfl

theorem consumes_outline (e : Expr) : e.outline.consumes = e.consumes := by
  induction e with
  | seq a b iha ihb => exact congrArg₂ (· || ·) iha ihb
  | alt a b iha ihb => exact congrArg₂ (· && ·) iha ihb
  | group n e ih => exact ih
  | iter e lo hi greedy ih => exact congrArg (decide (0 < lo) && ·) ih
  | _ => rfl

theorem isSteady_outline (e : Expr) : e.outline.isSteady = e.isSteady := by
  induction e with
  | seq a b iha ihb | alt a b iha ihb => exact congrArg₂ (· && ·) iha ihb
  | group n e ih => exact ih
  | iter e lo hi greedy ih => rw [outline, isSteady, isSteady, ih, consumes_outline]
  | look side negated e ih =>
    cases side with
    | ahead => exact ih
    | behind => rfl
  | _ => rfl

theorem outline_ofSeq (es : List Expr) : (ofSeq es).outline = ofSeq (es.map outline) := by
  induction es with
  | nil => rfl
  | cons e es ih =>
    cases es with
    | nil => rfl
    | cons a rest => exact congrArg (seq e.outline) ih

theorem outline_ofAlt (es : List Expr) : (ofAlt es).outline = ofAlt (es.map outline) := by
  induction es with
  | nil => rfl
  | cons e es ih =>
    cases es with
    | nil => rfl
    | cons a rest => exact congrArg (alt e.outline) ih

theorem width?_outline (e : Expr) : e.outline.width? = e.width? := by
  induction e with
  | seq a b iha ihb | alt a b iha ihb => rw [outline, width?, width?, iha, ihb]
  | group n e ih | atomic e ih => exact ih
  | iter e lo hi greedy ih => rw [outline, width?, width?, ih]
  | _ => rfl

theorem alternatives_outline (e : Expr) : e.outline.alternatives = e.alternatives.map outline := by
  induction e with
  | alt a b iha ihb => exact congrArg (a.outline :: ·) ihb
  | _ => rfl

end Expr

/-- Whether an expression can be carried out is told by its outline. -/
theorem runnable_outline (asked : List Nat) (last : Bool) (e : Expr) :
    runnable asked last e.outline = runnable asked last e := by
  induction e generalizing last with
  | seq a b iha ihb | alt a b iha ihb =>
    rw [Expr.outline, runnable, runnable, ← Expr.outline, Expr.isPlain_outline,
      Expr.boundsOrdered_outline]
    simp only [iha, ihb]
  | group n e ih | iter e lo hi greedy ih | atomic e ih =>
    rw [Expr.outline, runnable, runnable, ← Expr.outline, Expr.isPlain_outline,
      Expr.boundsOrdered_outline]
    simp only [ih]
  | look side negated e ih =>
    cases side with
    | ahead =>
      rw [Expr.outline, runnable, runnable, ← Expr.outline, Expr.isPlain_outline,
        Expr.boundsOrdered_outline]
      simp only [ih]
    | behind =>
      rw [Expr.outline, runnable, runnable, ← Expr.outline, Expr.isPlain_outline,
        Expr.boundsOrdered_outline]
      simp only [ih, Expr.width?_outline, Expr.alternatives_outline, List.all_map,
        Function.comp_def]
  | _ => rfl

/-! ## Escapes -/

section Except

variable {ε α β γ : Type} {f : α → γ} {g : β → γ} {x : Except ε α} {y : Except ε β}

theorem error_of_map_eq (h : x.map f = y.map g) {e : ε} (hx : x = .error e) : y = .error e := by
  subst hx
  cases y with
  | error e' => rw [Except.error.inj h]
  | ok b => cases h

theorem ok_of_map_eq (h : x.map f = y.map g) {a : α} (hx : x = .ok a) :
    ∃ b, y = .ok b ∧ g b = f a := by
  subst hx
  cases y with
  | error e => cases h
  | ok b => exact ⟨b, rfl, (Except.ok.inj h).symm⟩

end Except

namespace Escape

/-- The escape without which characters it accepts. -/
def outline : Escape → Escape
  | .set _ => .set .empty
  | .brackets _ => .brackets .empty
  | found => found

/-- Whether a property has a name does not depend on case. -/
theorem ofProperty?_outline (negated ignoreCase : Bool) (name after : List Char) :
    Except.map (fun found : Escape × List Char => (found.1.outline, found.2))
      (match CharSet.ofProperty? negated ignoreCase name with
        | some s => .ok (.set s, after)
        | none => .error .unknownProperty) =
    Except.map (fun found : Escape × List Char => (found.1.outline, found.2))
      (match CharSet.ofProperty? negated false name with
        | some s => .ok (.set s, after)
        | none => Except.error SyntaxError.unknownProperty) := by
  have hname : (CharSet.ofProperty? negated ignoreCase name).isSome =
      (CharSet.ofProperty? negated false name).isSome := by
    rw [CharSet.ofProperty?, CharSet.ofProperty?, Option.isSome_map, Option.isSome_map]
  cases h : CharSet.ofProperty? negated ignoreCase name with
  | none =>
    rw [h] at hname
    rw [Option.isSome_eq_false_iff.mp hname.symm |> Option.isNone_iff_eq_none.mp]
  | some s =>
    rw [h] at hname
    obtain ⟨s', hs'⟩ := Option.isSome_iff_exists.mp hname.symm
    rw [hs']
    rfl

theorem readProperty_outline (negated ignoreCase : Bool) (cs : List Char) :
    (readProperty negated ignoreCase cs).map (fun found => (found.1.outline, found.2)) =
      (readProperty negated false cs).map (fun found => (found.1.outline, found.2)) := by
  unfold readProperty
  split
  · rfl
  · split
    · exact ofProperty?_outline ..
    · rfl
  · exact ofProperty?_outline ..

theorem readAnywhere_outline (ignoreCase : Bool) (c : Char) (cs : List Char) :
    (readAnywhere ignoreCase c cs).map (fun found => (found.1.outline, found.2)) =
      (readAnywhere false c cs).map (fun found => (found.1.outline, found.2)) := by
  unfold readAnywhere
  split
  case h_12 | h_13 => exact readProperty_outline _ ignoreCase cs
  all_goals rfl

/-- An escape is read with and without case alike. -/
theorem read_outline (inBrackets ignoreCase : Bool) (cs : List Char) :
    (read inBrackets ignoreCase cs).map (fun found => (found.1.outline, found.2)) =
      (read inBrackets false cs).map (fun found => (found.1.outline, found.2)) := by
  unfold read
  split
  · rfl
  · split
    · rfl
    · split
      · rfl
      · exact readAnywhere_outline ignoreCase _ _

end Escape

/-! ## Bracket expressions -/

namespace Brackets

/-- The part without which characters it stands for. -/
def Part.outline : Part → Part
  | .set _ => .set .empty
  | .brackets _ => .brackets .empty
  | part => part

theorem part?_outline (found : Escape) : part? found.outline = (part? found).map Part.outline := by
  cases found with
  | _ => rfl

theorem splitFrom_outline (ignoreCase : Bool) (depth : Nat) (parts parts' : List Part)
    (cs : List Char) (hparts : parts.map Part.outline = parts'.map Part.outline) :
    (splitFrom ignoreCase depth parts cs).map (fun found => (found.1.map Part.outline, found.2)) =
      (splitFrom false depth parts' cs).map (fun found => (found.1.map Part.outline, found.2)) := by
  have hmore (part : Part) {parts parts' : List Part}
      (hparts : parts.map Part.outline = parts'.map Part.outline) :
      (part :: parts).map Part.outline = (part :: parts').map Part.outline := by
    rw [List.map_cons, List.map_cons, hparts]
  have hread {rest after : List Char} {found : Escape}
      (h : Escape.read true ignoreCase rest = .ok (found, after)) :
      ∃ found', Escape.read true false rest = .ok (found', after) ∧
        (part? found').map Part.outline = (part? found).map Part.outline := by
    obtain ⟨⟨found', after'⟩, h', heq⟩ := ok_of_map_eq (Escape.read_outline true ignoreCase rest) h
    obtain ⟨houtline, rfl⟩ := Prod.mk.inj heq
    exact ⟨found', h', by rw [← part?_outline, ← part?_outline, houtline]⟩
  fun_induction splitFrom ignoreCase depth parts cs generalizing parts' with
  | case1 depth parts =>
    rw [splitFrom]
  | case2 depth parts rest e herror =>
    rw [splitFrom, error_of_map_eq (Escape.read_outline true ignoreCase rest) herror]
  | case3 depth parts rest found after hfound local? hnone =>
    obtain ⟨found', h', hpart⟩ := hread hfound
    have hnone : part? found = none := hnone
    rw [hnone, Option.map_none, Option.map_eq_none_iff] at hpart
    rw [splitFrom_noPart h' hpart]
  | case4 depth parts rest found after hfound local? part hsome hlength ih =>
    obtain ⟨found', h', hpart⟩ := hread hfound
    have hsome : part? found = some part := hsome
    rw [hsome, Option.map_some, Option.map_eq_some_iff] at hpart
    obtain ⟨part', hpart', houtline⟩ := hpart
    rw [splitFrom_part h' hpart' hlength]
    exact ih _ (by rw [List.map_cons, List.map_cons, houtline, hparts])
  | case5 depth parts rest found after hfound local? part hsome hlength =>
    obtain ⟨found', h', hpart⟩ := hread hfound
    rw [splitFrom, h']
    dsimp only
    split
    · rfl
    · rw [dif_neg hlength]
  | case6 depth parts rest ih =>
    rw [splitFrom]
    exact ih _ (hmore _ hparts)
  | case7 parts rest =>
    rw [splitFrom]
    simp [Except.map, hparts]
  | case8 parts rest depth ih =>
    rw [splitFrom]
    exact ih _ (hmore _ hparts)
  | case9 depth parts c rest hback hopen hclose ih =>
    rw [splitFrom]
    · exact ih _ (hmore _ hparts)
    all_goals assumption

theorem split_outline (ignoreCase : Bool) (cs : List Char) :
    (split ignoreCase cs).map (fun found => (found.1.map Part.outline, found.2)) =
      (split false cs).map (fun found => (found.1.map Part.outline, found.2)) := by
  unfold split
  split
  all_goals exact splitFrom_outline ignoreCase _ _ _ _ rfl

/-- What comes behind a character as it was written, if the parts begin with it. -/
def behind? (c : Char) : List Part → Option (List Part)
  | .raw d :: rest => if d = c then some rest else none
  | _ => none

theorem behind?_raw (c : Char) (rest : List Part) : behind? c (.raw c :: rest) = some rest :=
  if_pos rfl

theorem eq_of_behind? {c : Char} {parts rest : List Part} (h : behind? c parts = some rest) :
    parts = .raw c :: rest := by
  unfold behind? at h
  split at h
  · split at h
    · next hd => rw [← hd, Option.some.inj h]
    · cases h
  · cases h

theorem behind?_eq_none {c : Char} {parts : List Part} (h : ∀ rest, parts ≠ .raw c :: rest) :
    behind? c parts = none := by
  unfold behind?
  split
  · next d rest => exact if_neg fun hd => h rest (by rw [hd])
  · rfl

theorem behind?_outline (c : Char) (parts : List Part) :
    behind? c (parts.map Part.outline) = (behind? c parts).map (List.map Part.outline) := by
  cases parts with
  | nil => rfl
  | cons part parts =>
    cases part with
    | raw d => by_cases hd : d = c <;> simp [behind?, Part.outline, hd]
    | literal d | set s | brackets s => rfl

theorem outline_beq_raw (c : Char) (part : Part) :
    (part.outline == .raw c) = (part == .raw c) := by
  rw [Bool.eq_iff_iff, beq_iff_eq, beq_iff_eq]
  cases part with
  | raw d => exact Iff.rfl
  | literal d | set s | brackets s => simp [Part.outline]

theorem takeWhile_outline (test : Part → Bool) (htest : ∀ part, test part.outline = test part)
    (parts : List Part) :
    (parts.map Part.outline).takeWhile test = (parts.takeWhile test).map Part.outline := by
  rw [List.takeWhile_map]
  exact congrArg (List.map _) (congrArg (List.takeWhile · parts) (funext htest))

theorem dropWhile_outline (test : Part → Bool) (htest : ∀ part, test part.outline = test part)
    (parts : List Part) :
    (parts.map Part.outline).dropWhile test = (parts.dropWhile test).map Part.outline := by
  rw [List.dropWhile_map]
  exact congrArg (List.map _) (congrArg (List.dropWhile · parts) (funext htest))

theorem getD_outline (found : Option (List Part)) (parts : List Part) :
    (found.map (List.map Part.outline)).getD (parts.map Part.outline) =
      (found.getD parts).map Part.outline := by
  cases found with
  | none => rfl
  | some rest => rfl

/-- The parts after the opening of a level do not depend on what it holds. -/
theorem openLevel_eq (parts : List Part) :
    (openLevel parts).2 =
      let parts := (behind? '^' parts).getD parts
      let rest := parts.dropWhile (· == .raw '-')
      if (parts.takeWhile (· == .raw '-')).isEmpty then (behind? ']' rest).getD rest else rest := by
  unfold openLevel
  split
  next negated tail heq =>
  have htail : (behind? '^' parts).getD parts = tail := by
    split at heq
    · cases heq
      rfl
    · next hcaret =>
      cases heq
      rw [behind?_eq_none hcaret]
      rfl
  rw [htail]
  dsimp only
  split
  · next rest hhyphens hrest =>
    rw [hhyphens, hrest]
    rfl
  · next h =>
    split
    · next hhyphens =>
      rw [behind?_eq_none fun rest => h rest (List.isEmpty_iff.mp hhyphens)]
      rfl
    · rfl

theorem openLevel_outline (parts : List Part) :
    (openLevel (parts.map Part.outline)).2 = (openLevel parts).2.map Part.outline := by
  simp only [openLevel_eq, behind?_outline, getD_outline,
    takeWhile_outline (· == .raw '-') (outline_beq_raw '-'),
    dropWhile_outline (· == .raw '-') (outline_beq_raw '-'), List.isEmpty_map]
  split
  · rfl
  · rfl

/-- The character of a part that stands as it was written. -/
def Part.written? : Part → Option Char
  | .raw c => some c
  | _ => none

/-- A named class whose colon and caret have been read. -/
def namedClass? (ignoreCase negated : Bool) (parts : List Part) : Option (CharSet × List Part) :=
  let name := parts.takeWhile (· != .raw ':')
  let letters := name.filterMap Part.written?
  ((behind? ':' (parts.dropWhile (· != .raw ':'))).bind (behind? ']')).bind fun after =>
    if letters.length = name.length then
      (CharSet.ofPosixName? (String.ofList letters)).map fun s =>
        ((s.foldIf ignoreCase).complIf negated, after)
    else none

theorem posixClass?_eq (ignoreCase : Bool) (parts : List Part) :
    posixClass? ignoreCase parts = (behind? ':' parts).bind fun rest =>
      namedClass? ignoreCase (behind? '^' rest).isSome ((behind? '^' rest).getD rest) := by
  unfold posixClass?
  split
  · next rest =>
    rw [behind?_raw, Option.bind_some]
    split
    next negated tail heq =>
    have htail : (behind? '^' rest).isSome = negated ∧ (behind? '^' rest).getD rest = tail := by
      split at heq
      · cases heq
        exact ⟨rfl, rfl⟩
      · next hcaret =>
        cases heq
        rw [behind?_eq_none hcaret]
        exact ⟨rfl, rfl⟩
    obtain ⟨rfl, rfl⟩ := htail
    unfold namedClass?
    dsimp only
    split
    · next after hafter =>
      rw [hafter]
      rfl
    · next h =>
      generalize List.dropWhile _ _ = left at h
      cases hleft : behind? ':' left with
      | none => rfl
      | some more =>
        obtain rfl := eq_of_behind? hleft
        rw [Option.bind_some, behind?_eq_none fun after heq => h after (heq ▸ rfl)]
        rfl
  · next hcolon =>
    rw [behind?_eq_none hcolon]
    rfl

theorem written?_outline (part : Part) : part.outline.written? = part.written? := by
  cases part with
  | _ => rfl

theorem namedClass?_outline (ignoreCase negated : Bool) (parts : List Part) :
    (namedClass? false negated (parts.map Part.outline)).map (·.2) =
      (namedClass? ignoreCase negated parts).map (·.2.map Part.outline) := by
  have hcolon (part : Part) : (part.outline != .raw ':') = (part != .raw ':') :=
    congrArg not (outline_beq_raw ':' part)
  have hletters (name : List Part) :
      (name.map Part.outline).filterMap Part.written? = name.filterMap Part.written? := by
    rw [List.filterMap_map]
    exact List.filterMap_congr fun part _ => written?_outline part
  simp only [namedClass?, takeWhile_outline (· != .raw ':') hcolon,
    dropWhile_outline (· != .raw ':') hcolon, hletters, behind?_outline, List.length_map]
  cases behind? ':' (parts.dropWhile (· != .raw ':')) with
  | none => rfl
  | some rest =>
    simp only [Option.map_some, Option.bind_some, behind?_outline]
    cases behind? ']' rest with
    | none => rfl
    | some after =>
      simp only [Option.map_some, Option.bind_some]
      split
      · simp only [Option.map_map, Function.comp_def]
      · rfl

theorem posixClass?_outline (ignoreCase : Bool) (parts : List Part) :
    (posixClass? false (parts.map Part.outline)).map (·.2) =
      (posixClass? ignoreCase parts).map (·.2.map Part.outline) := by
  rw [posixClass?_eq, posixClass?_eq, behind?_outline]
  cases behind? ':' parts with
  | none => rfl
  | some rest =>
    simp only [Option.map_some, Option.bind_some, behind?_outline, getD_outline, Option.isSome_map]
    exact namedClass?_outline ignoreCase _ _

theorem posixClass?_some {ignoreCase : Bool} {parts after : List Part} {s : CharSet}
    (h : posixClass? ignoreCase parts = some (s, after)) :
    ∃ s', posixClass? false (parts.map Part.outline) = some (s', after.map Part.outline) := by
  have houtline := posixClass?_outline ignoreCase parts
  rw [h, Option.map_some, Option.map_eq_some_iff] at houtline
  obtain ⟨⟨s', after'⟩, h', rfl⟩ := houtline
  exact ⟨s', h'⟩

theorem posixClass?_none {ignoreCase : Bool} {parts : List Part}
    (h : posixClass? ignoreCase parts = none) :
    posixClass? false (parts.map Part.outline) = none := by
  have houtline := posixClass?_outline ignoreCase parts
  rwa [h, Option.map_none, Option.map_eq_none_iff] at houtline

/-- The part behind a hyphen at the start of the parts, if it is the end of a range, and the parts
after it. -/
def rangeEnd? (parts : List Part) : Option (Part × List Part) :=
  match behind? '-' parts with
  | none => none
  | some rest =>
    if (behind? ']' rest).isSome || (behind? '-' rest).isSome then none
    else match rest with
      | [] => none
      | last :: after => some (last, after)

theorem rangeEnd?_outline (parts : List Part) :
    rangeEnd? (parts.map Part.outline) =
      (rangeEnd? parts).map fun found => (found.1.outline, found.2.map Part.outline) := by
  unfold rangeEnd?
  rw [behind?_outline]
  cases behind? '-' parts with
  | none => rfl
  | some rest =>
    simp only [Option.map_some, behind?_outline, Option.isSome_map]
    split
    · rfl
    · cases rest with
      | nil => rfl
      | cons last after => rfl

theorem readItem_eq (first : Part) (rest : List Part) :
    readItem first rest =
      match first, rangeEnd? rest with
      | .brackets _, _ | _, none => .ok (first.toSet, rest)
      | _, some (last, after) =>
        match first.char?, last.char? with
        | some lo, some hi => if lo ≤ hi then .ok (.range lo hi, after) else .error .badBrackets
        | _, _ => .error .badBrackets := by
  unfold readItem
  dsimp only
  split
  · rfl
  · cases first <;> rfl
  · cases first <;> rfl
  · next last after hclose hhyphen hfirst =>
    have hend : rangeEnd? (.raw '-' :: last :: after) = some (last, after) := by
      have h : behind? ']' (last :: after) = none :=
        behind?_eq_none fun rest heq => hclose (List.cons_eq_cons.mp heq).1
      have h' : behind? '-' (last :: after) = none :=
        behind?_eq_none fun rest heq => hhyphen (List.cons_eq_cons.mp heq).1
      simp [rangeEnd?, behind?_raw, h, h']
    rw [hend]
    cases first with
    | brackets s => exact absurd rfl (hfirst s)
    | raw c | literal c | set s => rfl
  · next hrange =>
    have hend : rangeEnd? rest = none := by
      unfold rangeEnd?
      cases hrest : behind? '-' rest with
      | none => rfl
      | some tail =>
        obtain rfl := eq_of_behind? hrest
        cases tail with
        | nil => rfl
        | cons last after => exact absurd rfl (hrange last after)
    rw [hend]
    cases first <;> rfl

theorem readItem_outline (first : Part) (rest : List Part) :
    (readItem first.outline (rest.map Part.outline)).map (·.2) =
      (readItem first rest).map (·.2.map Part.outline) := by
  rw [readItem_eq, readItem_eq, rangeEnd?_outline]
  cases hend : rangeEnd? rest with
  | none => cases first <;> rfl
  | some found =>
    obtain ⟨last, after⟩ := found
    cases first <;> cases last <;> dsimp [Part.outline, Part.char?]
    all_goals first | rfl | (split <;> rfl)

theorem outline_raw (c : Char) : (Part.raw c).outline = .raw c := rfl

theorem ne_raw_outline {part : Part} {c : Char} (h : part ≠ .raw c) : part.outline ≠ .raw c := by
  cases part with
  | raw d => exact h
  | literal d | set s | brackets s => simp [Part.outline]

theorem ne_twice_outline {part : Part} {rest : List Part} {c : Char}
    (h : ∀ tail, part = .raw c → rest = .raw c :: tail → False) (tail : List Part)
    (hpart : part.outline = .raw c) (hrest : rest.map Part.outline = .raw c :: tail) : False := by
  have hpart : part = .raw c := by
    by_contra hne
    exact ne_raw_outline hne hpart
  cases rest with
  | nil => cases hrest
  | cons second rest =>
    obtain ⟨hsecond, -⟩ := List.cons_eq_cons.mp hrest
    refine h rest hpart ?_
    by_contra hne
    exact ne_raw_outline (fun heq => hne (by rw [heq])) hsecond

theorem buildFrom_item {part : Part} {rest : List Part} (hopen : part = .raw '[' → False)
    (hclose : part = .raw ']' → False)
    (hboth : ∀ tail, part = .raw '&' → rest = .raw '&' :: tail → False)
    (hfirst : ∀ tail, part = .raw '-' → rest = .raw '-' :: tail → False)
    (hone : ∀ tail, part = .raw '~' → rest = .raw '~' :: tail → False) (ignoreCase : Bool)
    (level : Level) (outer : List Level) :
    buildFrom ignoreCase level outer (part :: rest) =
      match readItem part rest with
      | .error e => .error e
      | .ok (s, after) =>
        if after.length ≤ rest.length then buildFrom ignoreCase (level.add s) outer after
        else .error .badBrackets := by
  rw [buildFrom]
  · rfl
  all_goals assumption

/-- Whether brackets can be read is told by their outline. -/
theorem buildFrom_outline (ignoreCase : Bool) {level level' : Level} {outer outer' : List Level}
    {parts : List Part} (houter : outer.length = outer'.length) :
    (buildFrom ignoreCase level outer parts).map (fun _ => ()) =
      (buildFrom false level' outer' (parts.map Part.outline)).map (fun _ => ()) := by
  have hitem (part : Part) (rest : List Part) := (readItem_outline part rest).symm
  have hopened {rest after : List Part} {inner : Level} (h : openLevel rest = (inner, after)) :
      (openLevel (rest.map Part.outline)).2 = after.map Part.outline := by
    rw [openLevel_outline, h]
  fun_induction buildFrom ignoreCase level outer parts generalizing level' outer' with
  | case1 =>
    rw [List.map_nil, buildFrom]
  | case2 level outer rest s after hfound hlength ih =>
    obtain ⟨s', hfound'⟩ := posixClass?_some hfound
    rw [List.map_cons, outline_raw, buildFrom, hfound']
    simp only [List.length_map, hlength, dite_true]
    exact ih houter
  | case3 level outer rest s after hfound hlength =>
    obtain ⟨s', hfound'⟩ := posixClass?_some hfound
    rw [List.map_cons, outline_raw, buildFrom, hfound']
    simp only [List.length_map, hlength, dite_false]
  | case4 level outer rest hfound inner after hopen hlength ih =>
    rw [List.map_cons, outline_raw, buildFrom, posixClass?_none hfound]
    simp only [hopened hopen, List.length_map, hlength, dite_true]
    exact ih (by simp [houter])
  | case5 level outer rest hfound inner after hopen hlength =>
    rw [List.map_cons, outline_raw, buildFrom, posixClass?_none hfound]
    simp only [hopened hopen, List.length_map, hlength, dite_false]
  | case6 level rest s =>
    next hrest =>
      obtain rfl := List.length_eq_zero_iff.mp houter.symm
      obtain rfl := List.isEmpty_iff.mp hrest
      rw [List.map_cons, outline_raw, buildFrom]
      rfl
  | case7 level rest hrest =>
    obtain rfl := List.length_eq_zero_iff.mp houter.symm
    rw [List.map_cons, outline_raw, buildFrom]
    simp [hrest]
  | case8 level rest s around outer =>
    next ih =>
      cases outer' with
      | nil => cases houter
      | cons around' outer' =>
        rw [List.map_cons, outline_raw, buildFrom]
        exact ih (Nat.succ.inj houter)
  | case9 level outer rest ih | case10 level outer rest ih | case11 level outer rest ih =>
    rw [List.map_cons, List.map_cons, outline_raw, buildFrom]
    exact ih houter
  | case12 level outer part rest hopen hclose hboth hfirst hone e hfound =>
    rw [List.map_cons, buildFrom_item (ne_raw_outline hopen) (ne_raw_outline hclose)
      (ne_twice_outline hboth) (ne_twice_outline hfirst) (ne_twice_outline hone),
      error_of_map_eq (hitem part rest) hfound]
  | case13 level outer part rest hopen hclose hboth hfirst hone s after hfound hlength ih =>
    obtain ⟨⟨s', after'⟩, hfound', rfl⟩ := ok_of_map_eq (hitem part rest) hfound
    rw [List.map_cons, buildFrom_item (ne_raw_outline hopen) (ne_raw_outline hclose)
      (ne_twice_outline hboth) (ne_twice_outline hfirst) (ne_twice_outline hone), hfound']
    simp only [List.length_map, hlength, if_true]
    exact ih houter
  | case14 level outer part rest hopen hclose hboth hfirst hone s after hfound hlength =>
    obtain ⟨⟨s', after'⟩, hfound', rfl⟩ := ok_of_map_eq (hitem part rest) hfound
    rw [List.map_cons, buildFrom_item (ne_raw_outline hopen) (ne_raw_outline hclose)
      (ne_twice_outline hboth) (ne_twice_outline hfirst) (ne_twice_outline hone), hfound']
    simp only [List.length_map, hlength, if_false]

theorem build_outline (ignoreCase : Bool) {parts parts' : List Part}
    (h : parts.map Part.outline = parts'.map Part.outline) :
    (build ignoreCase parts).map (fun _ => ()) = (build false parts').map (fun _ => ()) := by
  have hbuild (ic : Bool) (parts : List Part) :
      (build ic parts).map (fun _ => ()) = (buildFrom false (openLevel []).1 []
        (openLevel (parts.map Part.outline)).2).map (fun _ => ()) := by
    rw [openLevel_outline]
    exact buildFrom_outline ic rfl
  rw [hbuild, hbuild, h]

/-- A bracket expression is read with and without case alike. -/
theorem read_outline (ignoreCase : Bool) (cs : List Char) :
    (read ignoreCase cs).map (·.2) = (read false cs).map (·.2) := by
  unfold read
  have hsplit := split_outline ignoreCase cs
  cases h : split ignoreCase cs with
  | error e =>
    rw [error_of_map_eq hsplit h]
    rfl
  | ok found =>
    obtain ⟨found', h', heq⟩ := ok_of_map_eq hsplit h
    obtain ⟨hparts, hrest⟩ := Prod.mk.inj heq
    rw [h']
    have hbuild := build_outline ignoreCase hparts.symm
    show (build ignoreCase found.1 >>= fun s => pure (s, found.2)).map (·.2) =
      (build false found'.1 >>= fun s => pure (s, found'.2)).map (·.2)
    cases hset : build ignoreCase found.1 with
    | error e =>
      rw [error_of_map_eq hbuild hset]
      rfl
    | ok s =>
      obtain ⟨s', hset', -⟩ := ok_of_map_eq hbuild hset
      rw [hset', ← hrest]
      rfl

end Brackets

/-! ## Steps of the reader -/

namespace Progress

/-- The progress without which characters the expressions accept. -/
def outline (p : Progress) : Progress :=
  { p with
    flags := { p.flags with ignoreCase := false }
    level := ⟨p.level.pieces.map Expr.outline, p.level.done.map Expr.outline⟩
    last := p.last.map Expr.outline }

theorem settle_outline (p : Progress) : p.outline.settle = p.settle.outline := by
  obtain ⟨flags, groups, names, numbered, outer, level, last⟩ := p
  cases last with
  | none => rfl
  | some e => cases e <;> rfl

theorem push_outline (p : Progress) (e : Expr) : p.outline.push e.outline = (p.push e).outline := by
  rw [push, settle_outline]
  rfl

theorem branch_outline (p : Progress) : p.outline.branch = p.branch.outline := by
  rw [branch, settle_outline]
  simp [branch, outline, Expr.outline_ofSeq, List.map_reverse]

theorem repeatable_outline (e : Expr) : repeatable e.outline = repeatable e := by
  cases e with
  | _ => rfl

theorem repeated_outline (flags : Flags) (e : Expr) (lo : Nat) (hi : Option Nat) (cs : List Char) :
    repeated { flags with ignoreCase := false } e.outline lo hi cs =
      ((repeated flags e lo hi cs).1.outline, (repeated flags e lo hi cs).2) := by
  unfold repeated possession
  dsimp only
  split <;> rfl

theorem quantify_outline (p : Progress) (lo : Nat) (hi : Option Nat) (cs : List Char) :
    p.outline.quantify lo hi cs =
      (p.quantify lo hi cs).map fun found => (found.1.outline, found.2) := by
  have hlast : p.outline.last = p.last.map Expr.outline := rfl
  have hblank (cs : List Char) : skipBlank p.outline.flags cs = skipBlank p.flags cs := rfl
  simp only [quantify_eq, hlast, hblank]
  cases p.last with
  | none => rfl
  | some e =>
    simp only [Option.map_some, repeatable_outline]
    split
    · rfl
    · cases skipBlank p.flags cs with
      | none => rfl
      | some cs =>
        dsimp only
        rw [outline, repeated_outline]
        rfl

theorem outline_outline (p : Progress) : p.outline.outline = p.outline := by
  have hcomp : Expr.outline ∘ Expr.outline = Expr.outline := funext Expr.outline_outline
  simp [outline, hcomp]

/-- A progress with the text after it, without which characters the expressions accept. -/
def outlined (found : Progress × List Char) : Progress × List Char := (found.1.outline, found.2)

theorem outline_push_outline (p : Progress) {e e' : Expr} (he : e'.outline = e.outline) :
    (p.outline.push e').outline = (p.push e).outline := by
  rw [← push_outline, ← push_outline, outline_outline, he]

theorem escaped_outline (p : Progress) {found found' : Escape}
    (h : found'.outline = found.outline) (hrefers : found.refers = false) :
    (p.outline.escaped found').map outline = (p.escaped found).map outline := by
  have hpush {e e' : Expr} (he : e'.outline = e.outline) :
      (Except.ok (p.outline.push e') : Except SyntaxError Progress).map outline =
        (Except.ok (p.push e)).map outline := congrArg Except.ok (p.outline_push_outline he)
  cases found with
  | groupNumber n | groupName name => cases hrefers
  | char c folds | set s | brackets s | anchor a | keepOut =>
    cases found' <;> cases h
    exact hpush rfl

theorem readEscape_outline (p : Progress) {c : Char} {rest : List Char}
    (hdigit : c.isDigit = false) (hname : c ≠ 'k') :
    (p.outline.readEscape (c :: rest)).map outlined =
      (p.readEscape (c :: rest)).map outlined := by
  have hread := Escape.read_outline false p.flags.ignoreCase (c :: rest)
  have hflag : p.outline.flags.ignoreCase = false := rfl
  rw [readEscape_eq, readEscape_eq, hflag]
  cases h : Escape.read false p.flags.ignoreCase (c :: rest) with
  | error e =>
    rw [error_of_map_eq hread h]
    rfl
  | ok found =>
    obtain ⟨found', h', heq⟩ := ok_of_map_eq hread h
    obtain ⟨hfound, hrest⟩ := Prod.mk.inj heq
    have hescaped := p.escaped_outline hfound (Escape.refers_of_read h hdigit hname)
    rw [h']
    show ((p.outline.escaped found'.1).map (·, found'.2)).map outlined =
      ((p.escaped found.1).map (·, found.2)).map outlined
    rw [hrest]
    have hmap (x : Except SyntaxError Progress) :
        (x.map (·, found.2)).map outlined = (x.map outline).map (·, found.2) := by
      cases x with
      | error e => rfl
      | ok q => rfl
    rw [hmap, hmap, hescaped]

/-- A step with neither a parenthesis nor a reference is made with and without case alike. -/
theorem step_outline (p : Progress) {c : Char} {rest : List Char} (hopen : c ≠ '(')
    (hclose : c ≠ ')')
    (hescape : c = '\\' → ∃ d tail, rest = d :: tail ∧ d.isDigit = false ∧ d ≠ 'k') :
    (p.outline.step c rest).map outlined = (p.step c rest).map outlined := by
  have hpush {e e' : Expr} (he : e'.outline = e.outline) (rest : List Char) :
      (Except.ok (p.outline.push e', rest) : Except SyntaxError _).map outlined =
        (Except.ok (p.push e, rest)).map outlined :=
    congrArg (fun q => Except.ok (q, rest)) (p.outline_push_outline he)
  have hquantify (lo : Nat) (hi : Option Nat) (rest : List Char) :
      (p.outline.quantify lo hi rest).map outlined = (p.quantify lo hi rest).map outlined := by
    rw [quantify_outline]
    cases p.quantify lo hi rest with
    | error e => rfl
    | ok found => exact congrArg (fun q => Except.ok (q, found.2)) (outline_outline _)
  unfold step
  split
  case h_4 =>
    rw [branch_outline]
    exact congrArg (fun q => Except.ok (q, rest)) (outline_outline _)
  case h_5 => exact absurd rfl hopen
  case h_6 => exact absurd rfl hclose
  case h_7 =>
    obtain ⟨d, tail, rfl, hdigit, hname⟩ := hescape rfl
    exact readEscape_outline p hdigit hname
  case h_8 =>
    have hread := Brackets.read_outline p.flags.ignoreCase rest
    have hflag : p.outline.flags.ignoreCase = false := rfl
    rw [hflag]
    cases h : Brackets.read p.flags.ignoreCase rest with
    | error e =>
      rw [error_of_map_eq hread h]
      rfl
    | ok found =>
      obtain ⟨⟨s, left⟩, h', heq⟩ := ok_of_map_eq hread h
      obtain rfl : left = found.2 := heq
      rw [h']
      exact hpush rfl _
  case h_9 | h_10 | h_11 => exact hquantify _ _ _
  case h_12 =>
    have hlast : p.outline.last = p.last.map Expr.outline := rfl
    have hcounts : readCounts p.outline.flags rest = readCounts p.flags rest := rfl
    rw [hlast, hcounts]
    cases p.last with
    | none => exact hpush rfl _
    | some e =>
      cases readCounts p.flags rest with
      | none => exact hpush rfl _
      | some counts => exact hquantify _ _ _
  all_goals exact hpush rfl _

/-! ## The way through an enclosed text -/

theorem calm_of_outline {p p' : Progress} (h : p'.outline = p.outline) (hp : p.Calm) :
    p'.Calm := by
  have hflags : p'.outline.flags.ignoreSpace = p.outline.flags.ignoreSpace := by rw [h]
  have houter : p'.outline.outer = p.outline.outer := by rw [h]
  have hnames : p'.outline.names = p.outline.names := by rw [h]
  exact ⟨hflags.trans hp.flags, houter ▸ hp.outer, hnames ▸ hp.names⟩

/-- What passes through an enclosed text passes through it whatever case is. -/
theorem Passes.recase {p p' q : Progress} {cs : List Char} (h : Passes p cs q) (hp : p.Calm)
    (houtline : p'.outline = p.outline) : ∃ q', Passes p' cs q' ∧ q'.outline = q.outline := by
  induction h generalizing p' with
  | done p => exact ⟨p', .done p', houtline⟩
  | @step p q r c cs left hcs hstep hlength _ ih =>
    obtain ⟨hopen, hclose⟩ := Zone.ne_of_isEnclosed hcs
    have halike (rest : List Char) : (p'.step c (cs ++ ')' :: rest)).map outlined =
        (p.step c (cs ++ ')' :: rest)).map outlined := by
      have hescape := escape_of_isEnclosed hcs rest
      rw [← step_outline p hopen hclose hescape, ← step_outline p' hopen hclose hescape, houtline]
    rcases step_staysWithin (calm_of_outline houtline hp).flags hcs with
      hfails | ⟨q', left', hstep'⟩
    · obtain ⟨e, he⟩ := hfails []
      have hthere := error_of_map_eq (halike []) he
      rw [hstep []] at hthere
      cases hthere
    · have hthere := halike []
      rw [hstep, hstep'] at hthere
      obtain ⟨hq, hleft⟩ := Prod.mk.inj (Except.ok.inj hthere)
      obtain rfl : left' = left := List.append_cancel_right hleft
      obtain ⟨r', hpasses, hr⟩ := ih ((Stays.step hopen (hstep [])).calm hp) hq
      exact ⟨r', .step hcs hstep' hlength hpasses, hr⟩

theorem calm_beginning (ic : Bool) : (beginning ic).Calm :=
  ⟨rfl, by simp [beginning], by simp [beginning]⟩

/-- The alternatives that an enclosed text is read as have the same outline whatever case is. -/
theorem Passes.recase_beginning {ic : Bool} {cs : List Char} {q : Progress}
    (h : Passes (beginning ic) cs q) (ic' : Bool) :
    ∃ q', Passes (beginning ic') cs q' ∧
      (Expr.ofAlt q'.settle.level.alternatives).outline =
        (Expr.ofAlt q.settle.level.alternatives).outline := by
  have houtline : (beginning ic').outline = (beginning ic).outline := rfl
  obtain ⟨q', hpasses, hq⟩ := h.recase (calm_beginning ic) houtline
  have halts (q : Progress) : (Expr.ofAlt q.settle.level.alternatives).outline =
      .ofAlt q.outline.settle.level.alternatives := by
    rw [settle_outline]
    simp [Level.alternatives, outline, Expr.outline_ofAlt, Expr.outline_ofSeq]
  exact ⟨q', hpasses, by rw [halts, halts, hq]⟩

end Progress

end MockHttp.Regex
