import MockHttp.Json.Reader
import MockHttp.Proofs.Members
import MockHttp.Proofs.Text.Digits

/-!
# Reading what was written

A value whose numbers are integers is read back from its text, unless its arrays and objects are
nested too deeply. Values are read where they stand: what comes after one matters only if it could
continue a number.

Results:
1. `stringBody_quote`: any text is read back from its literal.
2. `number_natText`: an integer is read back from its digits.
3. `items_compactItems`, `members_compactMembers`: items and members are read back up to the end.
4. `isReadBack_of_isIntegral`: a value is read back wherever it stands, or refused for its depth.
5. `parse?_compact`: the same for a document.
-/

namespace MockHttp.Json

/-! ## Strings -/

/-- The code of a control character is read back. -/
theorem hex4?_hexDigit {n : Nat} (hn : n < 0x20) :
    hex4? '0' '0' (hexDigit (n / 16)) (hexDigit (n % 16)) = some n := by
  have hall : ∀ n < 0x20, hex4? '0' '0' (hexDigit (n / 16)) (hexDigit (n % 16)) = some n := by
    decide
  exact hall n hn

/-- A backslash and a letter write a character. -/
theorem stringBody_pair {letter c : Char} (hne : letter ≠ 'u') (h : unescape? letter = some c)
    (cs : List Char) : stringBody ('\\' :: letter :: cs) =
      (stringBody cs).map fun (body, rest) => (c :: body, rest) := by
  rw [stringBody, h]
  · cases stringBody cs <;> rfl
  · simp [hne]

theorem stringBody_control {c : Char} (hc : c.toNat < 0x20) (cs : List Char) :
    stringBody (['\\', 'u', '0', '0', hexDigit (c.toNat / 16), hexDigit (c.toNat % 16)] ++ cs) =
      (stringBody cs).map fun (body, rest) => (c :: body, rest) := by
  show stringBody ('\\' :: 'u' :: '0' :: '0' :: hexDigit (c.toNat / 16) ::
    hexDigit (c.toNat % 16) :: cs) = _
  rw [stringBody, hex4?_hexDigit hc]
  simp only [bind, Option.bind]
  rw [if_neg (by omega), if_neg (by omega), Char.ofNat_toNat]
  cases stringBody cs <;> rfl

/-- A character is read back from how it is written inside a literal. -/
theorem stringBody_escapeChar (c : Char) (cs : List Char) :
    stringBody (escapeChar c ++ cs) =
      (stringBody cs).map fun (body, rest) => (c :: body, rest) := by
  unfold escapeChar
  split
  · exact stringBody_pair (by decide) rfl cs
  · exact stringBody_pair (by decide) rfl cs
  · exact stringBody_pair (by decide) rfl cs
  · exact stringBody_pair (by decide) rfl cs
  · exact stringBody_pair (by decide) rfl cs
  · exact stringBody_pair (by decide) rfl cs
  · exact stringBody_pair (by decide) rfl cs
  · next hquote hbackslash _ _ _ _ _ =>
    split
    · next hcontrol => exact stringBody_control hcontrol cs
    · next hplain =>
      have hc : ¬(decide (c.toNat < 0x20) || decide (c = '\\')) = true := by
        simpa using ⟨Nat.le_of_not_lt hplain, hbackslash⟩
      rw [List.singleton_append, stringBody, if_neg hc]
      · exact hquote
      · exact fun _ _ _ _ _ heq _ => hbackslash heq
      · exact fun _ _ heq _ => hbackslash heq

/-- A text is read back from its literal. -/
theorem stringBody_quote (cs rest : List Char) :
    stringBody (cs.flatMap escapeChar ++ '"' :: rest) = some (cs, rest) := by
  induction cs with
  | nil => rw [List.flatMap_nil, List.nil_append, stringBody]
  | cons c cs ih =>
    rw [List.flatMap_cons, List.append_assoc, stringBody_escapeChar, ih]
    rfl

/-! ## Numbers -/

/-- What begins with a digit is read as a number. -/
theorem value_digit {c : Char} (hc : c.isDigit = true) (most : Nat) (cs : List Char) :
    value most (c :: cs) = number false (c :: cs) := by
  have hne : ∀ d ∈ ['n', 't', 'f', '"', '-', '[', '\x7B'], c ≠ d := by
    have hall : ∀ d ∈ ['n', 't', 'f', '"', '-', '[', '\x7B'], d.isDigit = false := by
      simp
    rintro d hd rfl
    rw [hall c hd] at hc
    cases hc
  rw [value]
  all_goals exact fun _ heq => hne _ (by decide) (List.cons.inj heq).1

/-- What comes after a number does not continue it. -/
def EndsNumber (rest : List Char) : Prop :=
  ∀ c, rest.head? = some c → c.isDigit = false ∧ c ≠ '.' ∧ c ≠ 'e' ∧ c ≠ 'E'

theorem takeDigits_eq {cs rest : List Char} (hdigits : ∀ c ∈ cs, c.isDigit = true)
    (hrest : EndsNumber rest) {n taken : Nat} (h : Nat.ofDigitChars 10 cs n < Nat.pow 2 64) :
    takeDigits n taken (cs ++ rest) = (Nat.ofDigitChars 10 cs n, taken + cs.length, rest) := by
  induction cs generalizing n taken with
  | nil =>
    cases rest with
    | nil => rfl
    | cons c rest =>
      have hc : c.isDigit = false := (hrest c rfl).1
      rw [List.nil_append, takeDigits, if_neg (by simp [hc])]
      rfl
  | cons c cs ih =>
    have hc := hdigits c List.mem_cons_self
    rw [Nat.ofDigitChars_cons] at h ⊢
    have hle := Text.le_ofDigitChars cs (10 * n + (c.toNat - '0'.toNat))
    have hstep : n * 10 + digitValue c = 10 * n + (c.toNat - '0'.toNat) := by
      rw [Nat.mul_comm]
      rfl
    have hfits : (c.isDigit && decide (10 * n + (c.toNat - '0'.toNat) < Nat.pow 2 64)) = true := by
      rw [hc, decide_eq_true (Nat.lt_of_le_of_lt hle h)]
      rfl
    rw [List.cons_append, takeDigits, hstep, if_pos hfits,
      ih (fun d hd => hdigits d (List.mem_cons_of_mem c hd)) h, List.length_cons,
      Nat.add_right_comm, Nat.add_assoc]

theorem isDigit_of_mem_natText {n : Nat} {c : Char} (hc : c ∈ natText n) : c.isDigit = true :=
  Nat.isDigit_of_mem_toDigits (by decide) (by decide) hc

theorem natText_eq_cons (n : Nat) : ∃ c cs, natText n = c :: cs ∧ c.isDigit = true := by
  obtain ⟨c, cs, hcs⟩ := List.exists_cons_of_ne_nil (@Nat.toDigits_ne_nil n 10)
  exact ⟨c, cs, hcs, isDigit_of_mem_natText (hcs ▸ List.mem_cons_self)⟩

/-- A number is read back from its digits as an integer. -/
theorem number_natText (negative : Bool) {n : Nat} (hn : n < Nat.pow 2 64) {rest : List Char}
    (hrest : EndsNumber rest) :
    number negative (natText n ++ rest) = number.integer negative n rest := by
  have hvalue : Nat.ofDigitChars 10 (natText n) 0 = n := Nat.ofDigitChars_ten_toDigits
  have htaken : takeDigits 0 0 (natText n ++ rest) = (n, (natText n).length, rest) := by
    rw [takeDigits_eq (fun c hc => isDigit_of_mem_natText hc) hrest (by rw [hvalue]; exact hn),
      hvalue, Nat.zero_add]
  have hproper : ¬((natText n).length = 0 ∨
      (natText n ++ rest).head? = some '0' ∧ 1 < (natText n).length) := by
    rintro (hnone | ⟨hzero, hmore⟩)
    · exact Nat.toDigits_ne_nil (List.length_eq_zero_iff.mp hnone)
    · -- only zero is written with a zero in front, and that is its only digit
      rw [natText, List.head?_append_of_ne_nil _ Nat.toDigits_ne_nil] at hzero
      obtain rfl : n = 0 := by
        by_contra hpos
        exact Text.head?_toDigits (Nat.pos_of_ne_zero hpos) hzero
      exact absurd hmore (by decide)
  rw [number, htaken]
  simp only
  rw [if_neg hproper]
  split
  · exact absurd rfl (hrest '.' rfl).2.1
  · exact absurd rfl (hrest 'e' rfl).2.2.1
  · exact absurd rfl (hrest 'E' rfl).2.2.2
  · next c _ _ _ _ =>
    rw [if_neg (by simp [(hrest c rfl).1])]
  · rfl

/-! ## Integral values -/

/-- Every number in the value is an integer of 64 bits, with or without a sign, and the members of
every object are in order. -/
inductive IsIntegral : Json → Prop
  | null : IsIntegral .null
  | bool (b : Bool) : IsIntegral (.bool b)
  | int {n : Int} : -Nat.pow 2 63 ≤ n → n < Nat.pow 2 64 → IsIntegral (.int n)
  | string (s : String) : IsIntegral (.string s)
  | array {items : List Json} : (∀ v ∈ items, IsIntegral v) → IsIntegral (.array items)
  | object {members : List (String × Json)} : IsSorted members →
    (∀ member ∈ members, IsIntegral member.2) → IsIntegral (.object members)

mutual

/-- How deeply arrays and objects are nested in a value. -/
def depth : Json → Nat
  | array items => itemsDepth items + 1
  | object members => membersDepth members + 1
  | null | bool _ | int _ | real _ | string _ => 0

def itemsDepth : List Json → Nat
  | [] => 0
  | v :: vs => max (depth v) (itemsDepth vs)

def membersDepth : List (String × Json) → Nat
  | [] => 0
  | (_, v) :: rest => max (depth v) (membersDepth rest)

end

/-! ## Values -/

/-- The characters that the text of an integral value can begin with. -/
def firstChars : List Char :=
  ['n', 't', 'f', '"', '-', '[', '\x7B', '0', '1', '2', '3', '4', '5', '6', '7', '8', '9']

theorem mem_firstChars_of_isDigit {c : Char} (h : c.isDigit = true) : c ∈ firstChars := by
  obtain ⟨hlo, hhi⟩ : 48 ≤ c.toNat ∧ c.toNat ≤ 57 := by
    simpa [Char.isDigit, UInt32.le_iff_toNat_le] using h
  have hall : ∀ n ≤ 57, 48 ≤ n → Char.ofNat n ∈ firstChars := by decide
  exact Char.ofNat_toNat c ▸ hall c.toNat hhi hlo

theorem compactText_eq_cons {v : Json} (hv : IsIntegral v) :
    ∃ c cs, compactText v = c :: cs ∧ c ∈ firstChars := by
  cases hv with
  | null => exact ⟨'n', _, rfl, by decide⟩
  | bool b =>
    cases b with
    | true => exact ⟨'t', _, rfl, by decide⟩
    | false => exact ⟨'f', _, rfl, by decide⟩
  | @int n _ _ =>
    cases n with
    | ofNat n =>
      obtain ⟨c, cs, hcs, hc⟩ := natText_eq_cons n
      exact ⟨c, cs, hcs, mem_firstChars_of_isDigit hc⟩
    | negSucc n => exact ⟨'-', _, rfl, by decide⟩
  | string s => exact ⟨'"', _, rfl, by decide⟩
  | array _ => exact ⟨'[', _, rfl, by decide⟩
  | object _ _ => exact ⟨'\x7B', _, rfl, by decide⟩

theorem skipBlank_cons {c : Char} (hc : c ∈ firstChars) (cs : List Char) :
    skipBlank (c :: cs) = c :: cs := by
  have hall : ∀ c ∈ firstChars, ¬(c = ' ' ∨ c = '\n' ∨ c = '\t' ∨ c = '\r') := by
    simp [firstChars]
  rw [skipBlank, if_neg (hall c hc)]

/-- The text of a value does not begin with a blank. -/
theorem skipBlank_compactText {v : Json} (hv : IsIntegral v) (rest : List Char) :
    skipBlank (compactText v ++ rest) = compactText v ++ rest := by
  obtain ⟨c, cs, hcs, hc⟩ := compactText_eq_cons hv
  rw [hcs, List.cons_append, skipBlank_cons hc]

/-- What can stand after a value inside of an array or an object. -/
theorem endsNumber_cons {c : Char} (hc : c ∈ [']', '\x7D', ',']) (rest : List Char) :
    EndsNumber (c :: rest) := by
  have hall : ∀ c ∈ [']', '\x7D', ','], c.isDigit = false ∧ c ≠ '.' ∧ c ≠ 'e' ∧ c ≠ 'E' := by
    simp
  rintro d ⟨⟩
  exact hall c hc

/-- The value is read back wherever it stands, or is refused because it is nested too deeply. -/
def IsReadBack (v : Json) : Prop :=
  ∀ (most : Nat) (rest : List Char), EndsNumber rest →
    value most (compactText v ++ rest) = if v.depth ≤ most then some (v, rest) else none

theorem isReadBack_int {n : Int} (hlo : -Nat.pow 2 63 ≤ n) (hhi : n < Nat.pow 2 64) :
    IsReadBack (.int n) := by
  intro most rest hrest
  rw [depth, if_pos (Nat.zero_le most)]
  cases n with
  | ofNat n =>
    obtain ⟨c, cs, hcs, hc⟩ := natText_eq_cons n
    have htext : natText n ++ rest = c :: (cs ++ rest) := by rw [hcs, List.cons_append]
    have hn : n < Nat.pow 2 64 := Int.ofNat_lt.mp hhi
    show value most (natText n ++ rest) = _
    rw [htext, value_digit hc, ← htext, number_natText false hn hrest]
    rfl
  | negSucc n =>
    have hn : n + 1 ≤ Nat.pow 2 63 := by omega
    have hin : ¬(n + 1 = 0 ∨ Nat.pow 2 63 < n + 1) := by omega
    show value most ('-' :: (natText (n + 1) ++ rest)) = _
    rw [value, number_natText true (Nat.lt_of_le_of_lt hn (by decide)) hrest, number.integer,
      if_neg (by decide), if_neg hin]
    rfl

theorem isReadBack_string (s : String) : IsReadBack (.string s) := by
  intro most rest _
  have htext : quote s ++ rest = '"' :: (s.toList.flatMap escapeChar ++ '"' :: rest) := by
    rw [quote, List.cons_append, List.cons_append, List.append_assoc, List.singleton_append]
  show value most (quote s ++ rest) = _
  rw [depth, if_pos (Nat.zero_le most), htext, value, stringBody_quote]
  show some (Json.string (String.ofList s.toList), rest) = _
  rw [String.ofList_toList]

/-! ## Arrays -/

/-- The texts begin with the first of them. -/
theorem commaSeparated_cons (text : List Char) (texts : List (List Char)) :
    ∃ tail, commaSeparated (text :: texts) = text ++ tail := by
  cases texts with
  | nil => exact ⟨[], (List.append_nil text).symm⟩
  | cons other texts => exact ⟨_, rfl⟩

theorem compactItems_eq_cons {v : Json} (hv : IsIntegral v) (vs : List Json) :
    ∃ c cs, commaSeparated (compactItems (v :: vs)) = c :: cs ∧ c ∈ firstChars := by
  obtain ⟨tail, htail⟩ := commaSeparated_cons (compactText v) (compactItems vs)
  obtain ⟨c, cs, hcs, hc⟩ := compactText_eq_cons hv
  exact ⟨c, cs ++ tail, htail.trans (by rw [hcs, List.cons_append]), hc⟩

theorem skipBlank_compactItems {v : Json} (hv : IsIntegral v) (vs : List Json) (rest : List Char) :
    skipBlank (commaSeparated (compactItems (v :: vs)) ++ rest) =
      commaSeparated (compactItems (v :: vs)) ++ rest := by
  obtain ⟨c, cs, hcs, hc⟩ := compactItems_eq_cons hv vs
  rw [hcs, List.cons_append, skipBlank_cons hc]

theorem items_last {v : Json} (hv : IsReadBack v) (most : Nat) (rest : List Char) :
    items most (compactText v ++ ']' :: rest) =
      if v.depth ≤ most then some ([v], rest) else none := by
  have hskip : skipBlank (']' :: rest) = ']' :: rest := rfl
  rw [items, hv most _ (endsNumber_cons (by decide) rest)]
  by_cases hdepth : v.depth ≤ most
  · rw [if_pos hdepth, if_pos hdepth]
    simp only [hskip]
  · rw [if_neg hdepth, if_neg hdepth]

theorem items_more {v : Json} (hv : IsReadBack v) (most : Nat) {cs : List Char}
    (hcs : skipBlank cs = cs) : items most (compactText v ++ ',' :: cs) =
      if v.depth ≤ most then (items most cs).map fun (vs, rest) => (v :: vs, rest) else none := by
  have hskip : skipBlank (',' :: cs) = ',' :: cs := rfl
  have hlength : cs.length < (compactText v ++ ',' :: cs).length := by
    rw [List.length_append, List.length_cons]
    omega
  rw [items, hv most _ (endsNumber_cons (by decide) cs)]
  by_cases hdepth : v.depth ≤ most
  · rw [if_pos hdepth, if_pos hdepth]
    simp only [hskip, hcs, dif_pos hlength]
  · rw [if_neg hdepth, if_neg hdepth]

/-- Items are read back up to the bracket if each of them is. -/
theorem items_compactItems {v : Json} {vs : List Json} (hint : ∀ w ∈ v :: vs, IsIntegral w)
    (hread : ∀ w ∈ v :: vs, IsReadBack w) (most : Nat) (rest : List Char) :
    items most (commaSeparated (compactItems (v :: vs)) ++ ']' :: rest) =
      if itemsDepth (v :: vs) ≤ most then some (v :: vs, rest) else none := by
  induction vs generalizing v with
  | nil => exact (items_last (hread v List.mem_cons_self) most rest).trans (by simp [itemsDepth])
  | cons w vs ih =>
    have htail := skipBlank_compactItems (hint w (by simp)) vs (']' :: rest)
    have htext : commaSeparated (compactItems (v :: w :: vs)) ++ ']' :: rest =
        compactText v ++ ',' :: (commaSeparated (compactItems (w :: vs)) ++ ']' :: rest) := by
      rw [← List.cons_append, ← List.append_assoc]
      rfl
    rw [htext, items_more (hread v List.mem_cons_self) most htail,
      ih (fun x hx => hint x (List.mem_cons_of_mem v hx))
        fun x hx => hread x (List.mem_cons_of_mem v hx)]
    simp only [itemsDepth, Nat.max_le]
    by_cases hdepth : v.depth ≤ most <;> simp [hdepth, apply_ite]

theorem isReadBack_array {vs : List Json} (hint : ∀ w ∈ vs, IsIntegral w)
    (hread : ∀ w ∈ vs, IsReadBack w) : IsReadBack (.array vs) := by
  intro most rest _
  have htext : compactText (.array vs) ++ rest =
      '[' :: (commaSeparated (compactItems vs) ++ ']' :: rest) :=
    congrArg ('[' :: ·) (List.append_assoc _ [']'] rest)
  rw [htext, depth]
  cases most with
  | zero => rw [value, if_neg (by omega)]
  | succ most =>
    rw [value]
    cases vs with
    | nil => rfl
    | cons v vs =>
      rw [skipBlank_compactItems (hint v List.mem_cons_self)]
      split
      · -- no item begins with the bracket that ends an empty array
        next heq =>
        obtain ⟨c, cs, hcs, hc⟩ := compactItems_eq_cons (hint v List.mem_cons_self) vs
        rw [hcs] at heq
        obtain rfl := (List.cons.inj heq).1
        exact absurd hc (by decide)
      · rw [items_compactItems hint hread, apply_ite (Option.map _)]
        simp only [Option.map_some, Option.map_none, Nat.add_le_add_iff_right]

/-! ## Objects -/

theorem memberName?_quote (name : String) {cs : List Char} (hcs : skipBlank cs = cs) :
    memberName? (quote name ++ ':' :: cs) = some (name, cs) := by
  have hskip : skipBlank (':' :: cs) = ':' :: cs := rfl
  rw [quote, List.cons_append, List.cons_append, List.append_assoc, List.singleton_append,
    memberName?, stringBody_quote]
  simp only [hskip, hcs, String.ofList_toList]

/-- The members of an object begin with a quotation mark. -/
theorem compactMembers_eq_cons (member : String × Json) (ms : List (String × Json)) :
    ∃ cs, commaSeparated (compactMembers (member :: ms)) = '"' :: cs := by
  obtain ⟨tail, htail⟩ :=
    commaSeparated_cons (quote member.1 ++ ':' :: compactText member.2) (compactMembers ms)
  exact ⟨_, htail⟩

theorem skipBlank_compactMembers (member : String × Json) (ms : List (String × Json))
    (rest : List Char) : skipBlank (commaSeparated (compactMembers (member :: ms)) ++ rest) =
      commaSeparated (compactMembers (member :: ms)) ++ rest := by
  obtain ⟨cs, hcs⟩ := compactMembers_eq_cons member ms
  rw [hcs]
  rfl

theorem members_last (name : String) {v : Json} (hint : IsIntegral v) (hv : IsReadBack v)
    (most : Nat) (rest : List Char) :
    members most (quote name ++ ':' :: (compactText v ++ '\x7D' :: rest)) =
      if v.depth ≤ most then some ([(name, v)], rest) else none := by
  have hskip : skipBlank ('\x7D' :: rest) = '\x7D' :: rest := rfl
  have hlength : (compactText v ++ '\x7D' :: rest).length <
      (quote name ++ ':' :: (compactText v ++ '\x7D' :: rest)).length := by
    simp only [List.length_append, List.length_cons]
    omega
  rw [members, memberName?_quote name (skipBlank_compactText hint _)]
  simp only [dif_pos hlength]
  rw [hv most _ (endsNumber_cons (by decide) rest)]
  by_cases hdepth : v.depth ≤ most
  · rw [if_pos hdepth, if_pos hdepth]
    simp only [hskip]
  · rw [if_neg hdepth, if_neg hdepth]

theorem members_more (name : String) {v : Json} (hint : IsIntegral v) (hv : IsReadBack v)
    (most : Nat) {cs : List Char} (hcs : skipBlank cs = cs) :
    members most (quote name ++ ':' :: (compactText v ++ ',' :: cs)) =
      if v.depth ≤ most then (members most cs).map fun (ms, rest) => ((name, v) :: ms, rest)
      else none := by
  have hskip : skipBlank (',' :: cs) = ',' :: cs := rfl
  have hlength : (compactText v ++ ',' :: cs).length <
      (quote name ++ ':' :: (compactText v ++ ',' :: cs)).length := by
    simp only [List.length_append, List.length_cons]
    omega
  have hshorter : cs.length < (quote name ++ ':' :: (compactText v ++ ',' :: cs)).length := by
    simp only [List.length_append, List.length_cons]
    omega
  rw [members, memberName?_quote name (skipBlank_compactText hint _)]
  simp only [dif_pos hlength]
  rw [hv most _ (endsNumber_cons (by decide) cs)]
  by_cases hdepth : v.depth ≤ most
  · rw [if_pos hdepth, if_pos hdepth]
    simp only [hskip, hcs, dif_pos hshorter]
  · rw [if_neg hdepth, if_neg hdepth]

/-- Members are read back up to the brace if the value of each of them is. -/
theorem members_compactMembers {member : String × Json} {ms : List (String × Json)}
    (hint : ∀ n ∈ member :: ms, IsIntegral n.2) (hread : ∀ n ∈ member :: ms, IsReadBack n.2)
    (most : Nat) (rest : List Char) :
    members most (commaSeparated (compactMembers (member :: ms)) ++ '\x7D' :: rest) =
      if membersDepth (member :: ms) ≤ most then some (member :: ms, rest) else none := by
  induction ms generalizing member with
  | nil =>
    obtain ⟨name, v⟩ := member
    have hlast :=
      members_last name (hint _ List.mem_cons_self) (hread _ List.mem_cons_self) most rest
    rw [← List.cons_append, ← List.append_assoc] at hlast
    exact hlast.trans (by simp [membersDepth])
  | cons next ms ih =>
    obtain ⟨name, v⟩ := member
    have htail := skipBlank_compactMembers next ms ('\x7D' :: rest)
    have htext : commaSeparated (compactMembers ((name, v) :: next :: ms)) ++ '\x7D' :: rest =
        quote name ++ ':' :: (compactText v ++
          ',' :: (commaSeparated (compactMembers (next :: ms)) ++ '\x7D' :: rest)) := by
      rw [← List.cons_append, ← List.cons_append, ← List.append_assoc, ← List.append_assoc]
      rfl
    rw [htext,
      members_more name (hint _ List.mem_cons_self) (hread _ List.mem_cons_self) most htail,
      ih (fun x hx => hint x (List.mem_cons_of_mem _ hx))
        fun x hx => hread x (List.mem_cons_of_mem _ hx)]
    simp only [membersDepth, Nat.max_le]
    by_cases hdepth : v.depth ≤ most <;> simp [hdepth, apply_ite]

/-- An object is read back with its members put in order. -/
theorem value_compactMembers {ms : List (String × Json)} (hint : ∀ m ∈ ms, IsIntegral m.2)
    (hread : ∀ m ∈ ms, IsReadBack m.2) (most : Nat) (rest : List Char) :
    value most ('\x7B' :: (commaSeparated (compactMembers ms) ++ '\x7D' :: rest)) =
      if membersDepth ms + 1 ≤ most then some (ofMembers ms, rest) else none := by
  cases most with
  | zero => rw [value, if_neg (by omega)]
  | succ most =>
    rw [value]
    cases ms with
    | nil => rfl
    | cons member ms =>
      rw [skipBlank_compactMembers]
      split
      · -- no member begins with the brace that ends an empty object
        next heq =>
        obtain ⟨cs, hcs⟩ := compactMembers_eq_cons member ms
        rw [hcs] at heq
        exact absurd (List.cons.inj heq).1 (by decide)
      · rw [members_compactMembers hint hread, apply_ite (Option.map _)]
        simp only [Option.map_some, Option.map_none, Nat.add_le_add_iff_right]

theorem isReadBack_object {ms : List (String × Json)} (hsorted : IsSorted ms)
    (hint : ∀ m ∈ ms, IsIntegral m.2) (hread : ∀ m ∈ ms, IsReadBack m.2) :
    IsReadBack (.object ms) := by
  intro most rest _
  have htext : compactText (.object ms) ++ rest =
      '\x7B' :: (commaSeparated (compactMembers ms) ++ '\x7D' :: rest) :=
    congrArg ('\x7B' :: ·) (List.append_assoc _ ['\x7D'] rest)
  rw [htext, depth, value_compactMembers hint hread, ofMembers, sortMembers_eq hsorted]

/-! ## Documents -/

/-- Every integral value is read back, or refused because it is nested too deeply. The induction is
on what makes it integral; that it may stand anywhere is what carries the items of an array over the
commas. -/
theorem isReadBack_of_isIntegral {v : Json} (hv : IsIntegral v) : IsReadBack v := by
  induction hv with
  | null =>
    intro most rest _
    show value most ('n' :: 'u' :: 'l' :: 'l' :: rest) = _
    rw [value]
    rfl
  | bool b =>
    intro most rest _
    cases b with
    | true =>
      show value most ('t' :: 'r' :: 'u' :: 'e' :: rest) = _
      rw [value]
      rfl
    | false =>
      show value most ('f' :: 'a' :: 'l' :: 's' :: 'e' :: rest) = _
      rw [value]
      rfl
  | int hlo hhi => exact isReadBack_int hlo hhi
  | string s => exact isReadBack_string s
  | array hint ih => exact isReadBack_array hint ih
  | object hsorted hint ih => exact isReadBack_object hsorted hint ih

/-- A document is read back, or refused because its value is nested too deeply. -/
theorem parse?_compact {v : Json} (hv : IsIntegral v) :
    parse? v.compact = if v.depth ≤ maxDepth then some v else none := by
  have hskip : skipBlank (compactText v) = compactText v := by
    simpa using skipBlank_compactText hv []
  have hread : value maxDepth (compactText v) =
      if v.depth ≤ maxDepth then some (v, []) else none := by
    simpa using isReadBack_of_isIntegral hv maxDepth [] nofun
  rw [parse?, compact, String.toList_ofList, hskip, hread]
  by_cases hdepth : v.depth ≤ maxDepth
  · rw [if_pos hdepth, if_pos hdepth]
    rfl
  · rw [if_neg hdepth, if_neg hdepth]

end MockHttp.Json
