import Mathlib.Data.List.Basic
import Mathlib.Data.List.TakeWhile
import MockHttp.Proofs.Http.Headers
import MockHttp.Server.Draft

/-!
# Content types that announce JSON

Results:
1. `trimChars_append`: what taking white space away leaves.
2. `announcesJson_iff`: which content types announce JSON.
-/

namespace MockHttp

/-! ## Media types -/

namespace Text

/-- White space is no letter from A to Z. -/
theorem isUpper_of_isBlank {c : Char} (h : isBlank c = true) : c.isUpper = false := by
  rw [Bool.eq_false_iff]
  intro hupper
  obtain ⟨hlo, hhi⟩ : 65 ≤ c.toNat ∧ c.toNat ≤ 90 := by
    simpa [UInt32.le_iff_toNat_le] using isUpper_iff.mp hupper
  simp only [isBlank, Unicode.whiteSpace, Unicode.Ranges.contains] at h
  split at h <;> simp at h
  omega

/-- The characters, and white space before and after them that has been taken away. -/
theorem exists_trimChars (cs : List Char) :
    ∃ left right, cs = left ++ trimChars cs ++ right ∧ ∀ c ∈ left ++ right, isBlank c = true := by
  let behind := (cs.dropWhile isBlank).reverse
  have hcs : cs = cs.takeWhile isBlank ++ trimChars cs ++ (behind.takeWhile isBlank).reverse := by
    have hbehind : trimChars cs ++ (behind.takeWhile isBlank).reverse = cs.dropWhile isBlank := by
      rw [trimChars, ← List.reverse_append, List.takeWhile_append_dropWhile, List.reverse_reverse]
    rw [List.append_assoc, hbehind, List.takeWhile_append_dropWhile]
  refine ⟨_, _, hcs, fun c hc => ?_⟩
  rcases List.mem_append.mp hc with hc | hc
  · exact List.mem_takeWhile_imp hc
  · exact List.mem_takeWhile_imp (List.mem_reverse.mp hc)

theorem dropWhile_blank_append {left cs : List Char} (hleft : ∀ c ∈ left, isBlank c = true)
    (hcs : ∀ c, cs.head? = some c → isBlank c = false) :
    (left ++ cs).dropWhile isBlank = cs := by
  rw [List.dropWhile_append_of_pos hleft]
  cases cs with
  | nil => rfl
  | cons c cs => exact List.dropWhile_cons_of_neg (by simp [hcs c rfl])

/-- Characters that neither begin nor end with white space are what is left of them with white space
around. -/
theorem trimChars_append {left cs right : List Char} (hleft : ∀ c ∈ left, isBlank c = true)
    (hright : ∀ c ∈ right, isBlank c = true) (hne : cs ≠ [])
    (hhead : ∀ c, cs.head? = some c → isBlank c = false)
    (hlast : ∀ c, cs.getLast? = some c → isBlank c = false) :
    trimChars (left ++ cs ++ right) = cs := by
  have hfront : ∀ c, (cs ++ right).head? = some c → isBlank c = false := by
    intro c hc
    rw [List.head?_append_of_ne_nil _ hne] at hc
    exact hhead c hc
  have hback : ∀ c, cs.reverse.head? = some c → isBlank c = false := by
    intro c hc
    rw [List.head?_reverse] at hc
    exact hlast c hc
  rw [trimChars, List.append_assoc, dropWhile_blank_append hleft hfront, List.reverse_append,
    dropWhile_blank_append (fun c hc => hright c (List.mem_reverse.mp hc)) hback,
    List.reverse_reverse]

end Text

namespace Server

open Text

/-- What stands before the first semicolon is the media type of JSON in whatever case, perhaps with
white space around it. -/
def IsJsonType (text : String) : Prop :=
  ∃ left media right rest : List Char, text.toList = left ++ media ++ right ++ rest ∧
    ';' ∉ left ++ media ++ right ∧ (∀ c, rest.head? = some c → c = ';') ∧
    (∀ c ∈ left ++ right, isBlank c = true) ∧ asciiLower (String.ofList media) = jsonMedia

/-- A text that is the media type of JSON up to case neither begins nor ends with white space. -/
theorem isBlank_jsonMedia {media : List Char} (h : media.map Char.toLower = jsonMedia.toList) :
    media ≠ [] ∧ (∀ c, media.head? = some c → isBlank c = false) ∧
      ∀ c, media.getLast? = some c → isBlank c = false := by
  -- a blank would be the lower case of itself, and so a letter
  have hblank {c d : Char} (hc : c.toLower = d) (hd : isBlank d = false) : isBlank c = false := by
    rw [Bool.eq_false_iff]
    intro hcblank
    have hlower : c.toLower = c := toLower_of_isUpper_eq_false (isUpper_of_isBlank hcblank)
    rw [← hc, hlower, hcblank] at hd
    exact absurd hd (by simp)
  refine ⟨?_, fun c hc => ?_, fun c hc => ?_⟩
  · rintro rfl
    exact absurd h (by decide)
  · have hhead : (media.map Char.toLower).head? = some c.toLower := by
      rw [List.head?_map, hc, Option.map_some]
    rw [h] at hhead
    exact hblank (d := 'a') (Option.some_inj.mp (hhead.symm.trans (by decide))) (by decide)
  · have hlast : (media.map Char.toLower).getLast? = some c.toLower := by
      rw [List.getLast?_map, hc, Option.map_some]
    rw [h] at hlast
    exact hblank (d := 'n') (Option.some_inj.mp (hlast.symm.trans (by decide))) (by decide)

theorem sameName_jsonMedia {text : String} :
    sameName text jsonMedia = true ↔ asciiLower text = jsonMedia := by
  rw [sameName, beq_iff_eq]
  exact Iff.of_eq (congrArg (asciiLower text = ·) (by decide))

/-- A content type announces JSON if it says so before its first semicolon. -/
theorem announcesJson_iff (text : String) : announcesJson text = true ↔ IsJsonType text := by
  rw [announcesJson, sameName_jsonMedia]
  constructor
  · intro h
    obtain ⟨left, right, hcut, hblank⟩ := exists_trimChars (text.toList.takeWhile (· != ';'))
    refine ⟨left, trimChars (text.toList.takeWhile (· != ';')), right,
      text.toList.dropWhile (· != ';'), ?_, ?_, ?_, hblank, h⟩
    · rw [← hcut, List.takeWhile_append_dropWhile]
    · rw [← hcut]
      intro hmem
      exact absurd (List.mem_takeWhile_imp hmem) (by simp)
    · intro c hc
      have hstop := List.head?_dropWhile_not (· != ';') text.toList
      rw [hc] at hstop
      simpa using hstop
  · rintro ⟨left, media, right, rest, htext, hfree, hrest, hblank, hmedia⟩
    have hbefore : text.toList.takeWhile (· != ';') = left ++ media ++ right := by
      have hno : ∀ c ∈ left ++ media ++ right, (c != ';') = true := by
        intro c hc
        rw [bne_iff_ne]
        rintro rfl
        exact hfree hc
      rw [htext, List.takeWhile_append_of_pos hno]
      cases rest with
      | nil => simp
      | cons c rest =>
        obtain rfl := hrest c rfl
        simp
    have hmap : media.map Char.toLower = jsonMedia.toList := by
      rw [← hmedia, asciiLower, String.toList_ofList, String.toList_ofList]
    obtain ⟨hne, hhead, hlast⟩ := isBlank_jsonMedia hmap
    rw [hbefore, trimChars_append (fun c hc => hblank c (List.mem_append_left _ hc))
      (fun c hc => hblank c (List.mem_append_right _ hc)) hne hhead hlast, hmedia]

end Server

end MockHttp
