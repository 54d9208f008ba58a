/-
# White space around a text

The characters with the Unicode property White_Space, and a text without those
at its ends. The zero-width space and the byte order mark are none of them.

What is left of a text is said without the way it is found: the text is white
space, what is left and white space again, and what is left neither begins nor
ends with any (`trimBlanks_eq_iff`).

Key definitions: `isBlank`, `trimBlanks`, `IsWhiteSpace`, `IsTrimmed`.
Key theorems: `isBlank_iff`, `dropWhile_isBlank_eq_iff`, `trimBlanks_eq_iff`.
-/
import HotReload.Text.CodePoints

namespace HotReload

/-- The white space characters of Unicode. -/
def CodePoints.blank : CodePoints := ⟨
  [0x9, 0xe, 0x20, 0x21, 0x85, 0x86, 0xa0, 0xa1, 0x1680, 0x1681, 0x2000, 0x200b, 0x2028, 0x202a,
   0x202f, 0x2030, 0x205f, 0x2060, 0x3000, 0x3001]⟩

/-- Whether the character is white space. -/
def isBlank (c : Char) : Bool := CodePoints.blank.contains c.toNat

/-- The text without the white space at its ends. -/
def trimBlanks (text : List Char) : List Char :=
  ((text.dropWhile isBlank).reverse.dropWhile isBlank).reverse

/-- The character is a control character that moves the cursor, a line or paragraph
separator, the space, or one of the spaces of another width. -/
def IsWhiteSpace (c : Char) : Prop :=
  (0x9 ≤ c.toNat ∧ c.toNat ≤ 0xd) ∨ c.toNat = 0x20 ∨ c.toNat = 0x85 ∨ c.toNat = 0xa0 ∨
    c.toNat = 0x1680 ∨ (0x2000 ≤ c.toNat ∧ c.toNat ≤ 0x200a) ∨ c.toNat = 0x2028 ∨
    c.toNat = 0x2029 ∨ c.toNat = 0x202f ∨ c.toNat = 0x205f ∨ c.toNat = 0x3000

theorem isBlank_iff {c : Char} : isBlank c = true ↔ IsWhiteSpace c := by
  unfold isBlank CodePoints.blank IsWhiteSpace
  generalize c.toNat = n
  repeat rw [CodePoints.contains_cons_cons (by decide)]
  simp only [CodePoints.contains_nil, Bool.or_false, Bool.or_eq_true, decide_eq_true_eq]
  omega

/-- The text `whole` is `text` with white space around it, and `text` neither begins
nor ends with white space. -/
structure IsTrimmed (whole text : List Char) : Prop where
  around : ∃ before behind, (∀ c ∈ before, IsWhiteSpace c) ∧ (∀ c ∈ behind, IsWhiteSpace c) ∧
    whole = before ++ (text ++ behind)
  first : ∀ c, text.head? = some c → ¬ IsWhiteSpace c
  last : ∀ c, text.getLast? = some c → ¬ IsWhiteSpace c

variable {whole text : List Char}

/-- What is left once the white space in front is gone. -/
theorem dropWhile_isBlank_eq_iff : whole.dropWhile isBlank = text ↔
    (∃ before, (∀ c ∈ before, IsWhiteSpace c) ∧ whole = before ++ text) ∧
      ∀ c, text.head? = some c → ¬ IsWhiteSpace c := by
  simp only [← isBlank_iff, Bool.not_eq_true]
  constructor
  · rintro rfl
    refine ⟨⟨whole.takeWhile isBlank, ?_, List.takeWhile_append_dropWhile.symm⟩, fun c hc => ?_⟩
    · exact List.all_eq_true.mp List.all_takeWhile
    · have hfirst := List.head?_dropWhile_not isBlank whole
      rw [hc] at hfirst
      exact hfirst
  · rintro ⟨⟨before, hbefore, rfl⟩, hfirst⟩
    rw [List.dropWhile_append_of_pos hbefore]
    cases text with
    | nil => rfl
    | cons c text => exact List.dropWhile_cons_of_neg (by simp [hfirst c rfl])

/-- **What trimming leaves.** -/
theorem trimBlanks_eq_iff : trimBlanks whole = text ↔ IsTrimmed whole text := by
  rw [trimBlanks, List.reverse_eq_iff, dropWhile_isBlank_eq_iff, List.head?_reverse]
  constructor
  · rintro ⟨⟨behind, hbehind, hback⟩, hlast⟩
    have hfront : whole.dropWhile isBlank = text ++ behind.reverse := by
      rw [← List.reverse_inj, hback, List.reverse_append, List.reverse_reverse]
    obtain ⟨⟨before, hbefore, hwhole⟩, hfirst⟩ := dropWhile_isBlank_eq_iff.mp hfront
    refine ⟨⟨before, behind.reverse, hbefore, fun c hc => ?_, hwhole⟩, fun c hc => ?_, hlast⟩
    · exact hbehind c (List.mem_reverse.mp hc)
    · apply hfirst c
      rw [List.head?_append, hc]
      rfl
  · rintro ⟨⟨before, behind, hbefore, hbehind, hwhole⟩, hfirst, hlast⟩
    refine ⟨?_, hlast⟩
    by_cases htext : text = []
    · -- then all of it is white space, and nothing is left for the end
      have hfront : whole.dropWhile isBlank = [] := by
        refine dropWhile_isBlank_eq_iff.mpr ⟨⟨whole, fun c hc => ?_, by simp⟩, by simp⟩
        rw [hwhole, htext, List.nil_append] at hc
        exact (List.mem_append.mp hc).elim (hbefore c) (hbehind c)
      exact ⟨[], by simp, by simp [hfront, htext]⟩
    · have hfront : whole.dropWhile isBlank = text ++ behind := by
        refine dropWhile_isBlank_eq_iff.mpr ⟨⟨before, hbefore, hwhole⟩, fun c hc => hfirst c ?_⟩
        obtain ⟨d, rest, rfl⟩ := List.exists_cons_of_ne_nil htext
        exact hc
      refine ⟨behind.reverse, fun c hc => hbehind c (List.mem_reverse.mp hc), ?_⟩
      rw [hfront, List.reverse_append]

end HotReload
