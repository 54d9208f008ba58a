/-
# Words, strings and numbers of JSON text

What may stand between two quotation marks, and which characters it stands for.
A string that is read is spelled strictly: its surrogates come in pairs. One
that is passed over may hold any four hexadecimal digits after a `u`. A number
that is passed over has any number of digits; it ends where the text goes on
with nothing that could belong to it.

Key definitions: `Json.IsSpace`, `Json.Spells`, `Json.IsStringBody`,
`Json.IsMagnitude`, `Json.IsScalar`, `Json.Delimits`.
Key theorems: `Json.readString_eq_ok_iff`, `Json.skipString_eq_ok_iff`,
`Json.exists_of_skipScalar`, `Json.IsScalar.skip`.
-/
import Mathlib.Data.List.TakeWhile
import HotReload.Json.Skip

namespace HotReload

namespace Json

variable {text rest : List Char}

/-! ### Readers one after the other -/

theorem bind_eq_ok_iff {α β : Type} {x : Except Fault α} {f : α → Except Fault β} {b : β} :
    x.bind f = .ok b ↔ ∃ a, x = .ok a ∧ f a = .ok b := by
  cases x with
  | error fault => simp [Except.bind]
  | ok a => simp [Except.bind]

theorem map_eq_ok_iff {α β : Type} {x : Except Fault α} {f : α → β} {b : β} :
    x.map f = .ok b ↔ ∃ a, x = .ok a ∧ f a = b := by
  cases x with
  | error fault => simp [Except.map]
  | ok a => simp [Except.map]

/-! ### Space between the tokens -/

/-- Whether the character may stand between two tokens. -/
def isSpace (c : Char) : Bool := c == ' ' || c == '\t' || c == '\n' || c == '\r'

/-- A text of space only. -/
def IsSpace (gap : List Char) : Prop := ∀ c ∈ gap, isSpace c = true

theorem skipBlanks_eq (text : List Char) : skipBlanks text = text.dropWhile isSpace := rfl

theorem skipBlanks_append {gap : List Char} (h : IsSpace gap) (text : List Char) :
    skipBlanks (gap ++ text) = skipBlanks text :=
  List.dropWhile_append_of_pos h

theorem skipBlanks_cons {c : Char} (h : isSpace c = false) (text : List Char) :
    skipBlanks (c :: text) = c :: text := by
  rw [skipBlanks_eq, List.dropWhile_cons_of_neg (by rw [h]; exact Bool.false_ne_true)]

theorem skipBlanks_eq_nil_iff : skipBlanks text = [] ↔ IsSpace text :=
  List.dropWhile_eq_nil_iff

/-- A text is space and what is left of it without. -/
theorem exists_space (text : List Char) : ∃ gap, IsSpace gap ∧ text = gap ++ skipBlanks text :=
  ⟨text.takeWhile isSpace, fun _ h => List.mem_takeWhile_imp h,
    List.takeWhile_append_dropWhile.symm⟩

/-! ### Words -/

theorem readWord_eq_ok_iff (word : List Char) :
    readWord word text = .ok rest ↔ text = word ++ rest := by
  fun_induction readWord word text
  case case1 text => simp
  case case2 w word => simp
  case case3 word c text ih => simpa using ih
  case case4 w word c text hc => simp [hc]

/-! ### Strings that are read -/

/-- The text between two quotation marks spells the characters. -/
inductive Spells : List Char → List Char → Prop
  | nil : Spells [] []
  | plain {c : Char} {body s : List Char} (hquote : c ≠ '\x22') (hescape : c ≠ '\x5c')
      (hcontrol : ¬ c.toNat < 0x20) (h : Spells body s) : Spells (c :: body) (c :: s)
  | escape {c e : Char} {body s : List Char} (hc : simpleEscape? c = some e) (h : Spells body s) :
      Spells ('\x5c' :: c :: body) (e :: s)
  | unicode {a b c d : Char} {n : Nat} {body s : List Char} (hn : hexValue? a b c d = some n)
      (hlow : isLowSurrogate n = false) (hhigh : isHighSurrogate n = false) (h : Spells body s) :
      Spells ('\x5c' :: 'u' :: a :: b :: c :: d :: body) (Char.ofNat n :: s)
  | pair {a b c d a' b' c' d' : Char} {n m : Nat} {body s : List Char}
      (hn : hexValue? a b c d = some n) (hhigh : isHighSurrogate n = true)
      (hm : hexValue? a' b' c' d' = some m) (hlow : isLowSurrogate m = true) (h : Spells body s) :
      Spells ('\x5c' :: 'u' :: a :: b :: c :: d :: '\x5c' :: 'u' :: a' :: b' :: c' :: d' :: body)
        (joinSurrogates n m :: s)

theorem prepend_eq_ok_iff {c : Char} {r : Reading (List Char)} {s : List Char} :
    prepend c r = .ok (s, rest) ↔ ∃ s', s = c :: s' ∧ r = .ok (s', rest) := by
  rw [prepend, map_eq_ok_iff]
  constructor
  · rintro ⟨⟨s', rest'⟩, hread, heq⟩
    cases heq
    exact ⟨s', rfl, hread⟩
  · rintro ⟨s', rfl, hread⟩
    exact ⟨(s', rest), hread, rfl⟩

theorem isLowSurrogate_of_isHighSurrogate {n : Nat} (h : isHighSurrogate n = true) :
    isLowSurrogate n = false := by
  simp only [isHighSurrogate, isLowSurrogate, Bool.and_eq_true, decide_eq_true_eq,
    Bool.and_eq_false_iff, decide_eq_false_iff_not] at h ⊢
  omega

/-- The letter that begins a hexadecimal escape is no escape of one letter. -/
theorem ne_u_of_simpleEscape {c e : Char} (h : simpleEscape? c = some e) : c ≠ 'u' := by
  rintro rfl
  cases h

theorem exists_of_readString {s : List Char} (h : readString text = .ok (s, rest)) :
    ∃ body, Spells body s ∧ text = body ++ '\x22' :: rest := by
  fun_induction readString text generalizing s
  case case2 =>
    cases h
    exact ⟨[], .nil, rfl⟩
  case case9 hn _ hhigh _ _ _ _ _ _ hm hlow ih =>
    obtain ⟨s, rfl, htail⟩ := prepend_eq_ok_iff.mp h
    obtain ⟨body, hbody, rfl⟩ := ih htail
    exact ⟨_, .pair hn hhigh hm hlow hbody, rfl⟩
  case case14 hn hlow hhigh ih =>
    obtain ⟨s, rfl, htail⟩ := prepend_eq_ok_iff.mp h
    obtain ⟨body, hbody, rfl⟩ := ih htail
    exact ⟨_, .unicode hn (eq_false_of_ne_true hlow) (eq_false_of_ne_true hhigh) hbody, rfl⟩
  case case16 hc ih =>
    obtain ⟨s, rfl, htail⟩ := prepend_eq_ok_iff.mp h
    obtain ⟨body, hbody, rfl⟩ := ih htail
    exact ⟨_, .escape hc hbody, rfl⟩
  case case19 hquote hescape hcontrol ih =>
    obtain ⟨s, rfl, htail⟩ := prepend_eq_ok_iff.mp h
    obtain ⟨body, hbody, rfl⟩ := ih htail
    exact ⟨_, .plain hquote hescape hcontrol hbody, rfl⟩
  -- the other branches are faults
  all_goals cases h

theorem Spells.read {body s : List Char} (h : Spells body s) (rest : List Char) :
    readString (body ++ '\x22' :: rest) = .ok (s, rest) := by
  induction h with
  | nil => rw [List.nil_append, readString]
  | plain hquote hescape hcontrol h ih =>
    rw [List.cons_append, readString, if_neg hcontrol, ih]
    · rfl
    · exact hquote
    · exact hescape
  | escape hc h ih =>
    simp only [List.cons_append]
    rw [readString]
    · simp only [hc, ih]
      rfl
    · exact ne_u_of_simpleEscape hc
  | unicode hn hlow hhigh h ih =>
    simp only [List.cons_append]
    rw [readString]
    simp only [hn, hlow, hhigh, ih]
    rfl
  | pair hn hhigh hm hlow h ih =>
    simp only [List.cons_append]
    rw [readString]
    simp only [hn, hhigh, isLowSurrogate_of_isHighSurrogate hhigh, hm, hlow, ih]
    rfl

/-- Whether the character has no meaning of its own in a string. -/
def isPlain (c : Char) : Bool := c != '\x22' && c != '\x5c' && !(c.toNat < 0x20)

/-- Characters without a meaning of their own spell themselves. -/
theorem spells_self {s : List Char} (h : s.all isPlain = true) : Spells s s := by
  induction s with
  | nil => exact .nil
  | cons c s ih =>
    rw [List.all_cons, Bool.and_eq_true] at h
    obtain ⟨hc, hs⟩ := h
    simp only [isPlain, Bool.and_eq_true, bne_iff_ne, Bool.not_eq_true', decide_eq_false_iff_not]
      at hc
    exact .plain hc.1.1 hc.1.2 hc.2 (ih hs)

/-- A string is read exactly if its body spells what is read. -/
theorem readString_eq_ok_iff {s : List Char} :
    readString text = .ok (s, rest) ↔ ∃ body, Spells body s ∧ text = body ++ '\x22' :: rest := by
  constructor
  · exact exists_of_readString
  · rintro ⟨body, hbody, rfl⟩
    exact hbody.read rest

/-! ### Strings that are passed over -/

/-- The text may stand between two quotation marks. -/
inductive IsStringBody : List Char → Prop
  | nil : IsStringBody []
  | plain {c : Char} {body : List Char} (hquote : c ≠ '\x22') (hescape : c ≠ '\x5c')
      (hcontrol : ¬ c.toNat < 0x20) (h : IsStringBody body) : IsStringBody (c :: body)
  | escape {c e : Char} {body : List Char} (hc : simpleEscape? c = some e)
      (h : IsStringBody body) : IsStringBody ('\x5c' :: c :: body)
  | unicode {a b c d : Char} {n : Nat} {body : List Char} (hn : hexValue? a b c d = some n)
      (h : IsStringBody body) : IsStringBody ('\x5c' :: 'u' :: a :: b :: c :: d :: body)

/-- What spells characters may stand between quotation marks. -/
theorem Spells.isStringBody {body s : List Char} (h : Spells body s) : IsStringBody body := by
  induction h with
  | nil => exact .nil
  | plain hquote hescape hcontrol _ ih => exact .plain hquote hescape hcontrol ih
  | escape hc _ ih => exact .escape hc ih
  | unicode hn _ _ _ ih => exact .unicode hn ih
  | pair hn _ hm _ _ ih => exact .unicode hn (.unicode hm ih)

theorem exists_of_skipString (h : skipString text = .ok rest) :
    ∃ body, IsStringBody body ∧ text = body ++ '\x22' :: rest := by
  fun_induction skipString text
  case case2 =>
    cases h
    exact ⟨[], .nil, rfl⟩
  case case5 hn ih =>
    obtain ⟨body, hbody, rfl⟩ := ih h
    exact ⟨_, .unicode hn hbody, rfl⟩
  case case7 hc ih =>
    obtain ⟨body, hbody, rfl⟩ := ih h
    exact ⟨_, .escape hc hbody, rfl⟩
  case case10 hquote hescape hcontrol ih =>
    obtain ⟨body, hbody, rfl⟩ := ih h
    exact ⟨_, .plain hquote hescape hcontrol hbody, rfl⟩
  -- the other branches are faults
  all_goals cases h

theorem IsStringBody.skip {body : List Char} (h : IsStringBody body) (rest : List Char) :
    skipString (body ++ '\x22' :: rest) = .ok rest := by
  induction h with
  | nil => rw [List.nil_append, skipString]
  | plain hquote hescape hcontrol h ih =>
    rw [List.cons_append, skipString, if_neg hcontrol, ih]
    · exact hquote
    · exact hescape
  | escape hc h ih =>
    simp only [List.cons_append]
    rw [skipString]
    · simp only [hc, ih]
    · exact ne_u_of_simpleEscape hc
  | unicode hn h ih =>
    simp only [List.cons_append]
    rw [skipString]
    simp only [hn, ih]

/-- A string is passed over exactly if its body may stand between quotation
marks. -/
theorem skipString_eq_ok_iff :
    skipString text = .ok rest ↔ ∃ body, IsStringBody body ∧ text = body ++ '\x22' :: rest := by
  constructor
  · exact exists_of_skipString
  · rintro ⟨body, hbody, rfl⟩
    exact hbody.skip rest

/-! ### Numbers that are passed over -/

/-- At least one digit, and nothing else. -/
def IsDigits (digits : List Char) : Prop := digits ≠ [] ∧ ∀ c ∈ digits, c.isDigit = true

/-- The digits before the decimal point: no other digit follows a zero at the
front. -/
def IsWhole (digits : List Char) : Prop :=
  IsDigits digits ∧ (digits.head? = some '0' → digits = ['0'])

/-- The part of a number from its decimal point on, up to the exponent. -/
inductive IsFraction : List Char → Prop
  | none : IsFraction []
  | point {digits : List Char} (h : IsDigits digits) : IsFraction ('.' :: digits)

/-- The exponent of a number. -/
inductive IsExponent : List Char → Prop
  | none : IsExponent []
  | letter {e : Char} {sign digits : List Char} (he : e = 'e' ∨ e = 'E')
      (hsign : sign = [] ∨ sign = ['+'] ∨ sign = ['-']) (h : IsDigits digits) :
      IsExponent (e :: (sign ++ digits))

/-- A number without its sign. -/
inductive IsMagnitude : List Char → Prop
  | parts {whole fraction exponent : List Char} (hwhole : IsWhole whole)
      (hfraction : IsFraction fraction) (hexponent : IsExponent exponent) :
      IsMagnitude (whole ++ fraction ++ exponent)

/-- The text does not go on with a digit. -/
def StopsDigits (rest : List Char) : Prop := ∀ c ∈ rest.head?, c.isDigit = false

/-- The text goes on with nothing that could belong to a number. -/
def Delimits (rest : List Char) : Prop :=
  ∀ c ∈ rest.head?, c.isDigit = false ∧ c ≠ '.' ∧ c ≠ 'e' ∧ c ≠ 'E'

theorem Delimits.stopsDigits (h : Delimits rest) : StopsDigits rest := fun c hc => (h c hc).1

theorem Delimits.ne {c : Char} {tail : List Char} (h : Delimits rest)
    (hc : c = '.' ∨ c = 'e' ∨ c = 'E') : rest ≠ c :: tail := by
  rintro rfl
  obtain ⟨-, hpoint, he, hE⟩ := h c rfl
  rcases hc with rfl | rfl | rfl
  · exact hpoint rfl
  · exact he rfl
  · exact hE rfl

theorem digitsOf_append {digits : List Char} (h : IsDigits digits) (hrest : StopsDigits rest) :
    digitsOf (digits ++ rest) = digits := by
  rw [digitsOf, List.takeWhile_append_of_pos h.2]
  cases rest with
  | nil => simp
  | cons c tail => simp [hrest c rfl]

theorem afterDigits_append {digits : List Char} (h : IsDigits digits) (hrest : StopsDigits rest) :
    afterDigits (digits ++ rest) = rest := by
  rw [afterDigits, List.dropWhile_append_of_pos h.2]
  cases rest with
  | nil => rfl
  | cons c tail => simp [hrest c rfl]

theorem digitsOf_append_afterDigits (text : List Char) :
    digitsOf text ++ afterDigits text = text :=
  List.takeWhile_append_dropWhile

theorem isDigits_digitsOf (h : (digitsOf text).isEmpty = false) : IsDigits (digitsOf text) :=
  ⟨by simpa using h, fun _ hc => List.mem_takeWhile_imp hc⟩

theorem IsDigits.isEmpty {digits : List Char} (h : IsDigits digits) : digits.isEmpty = false := by
  simpa using h.1

/-- The digits at the front of a text are taken off if there is one. -/
theorem exists_of_afterDigits {fault : Fault}
    (h : (if (digitsOf text).isEmpty then Except.error fault else Except.ok (afterDigits text)) =
      Except.ok rest) : ∃ digits, IsDigits digits ∧ text = digits ++ rest := by
  split at h
  · cases h
  · rename_i hempty
    cases h
    have hdigits : IsDigits (digitsOf text) := isDigits_digitsOf (eq_false_of_ne_true hempty)
    exact ⟨_, hdigits, (digitsOf_append_afterDigits text).symm⟩

theorem exists_of_skipExponent (h : skipExponent text = .ok rest) :
    ∃ sign digits, (sign = [] ∨ sign = ['+'] ∨ sign = ['-']) ∧ IsDigits digits ∧
      text = sign ++ digits ++ rest := by
  unfold skipExponent at h
  split at h
  · obtain ⟨digits, hdigits, rfl⟩ := exists_of_afterDigits h
    exact ⟨['+'], digits, .inr (.inl rfl), hdigits, rfl⟩
  · obtain ⟨digits, hdigits, rfl⟩ := exists_of_afterDigits h
    exact ⟨['-'], digits, .inr (.inr rfl), hdigits, rfl⟩
  · obtain ⟨digits, hdigits, rfl⟩ := exists_of_afterDigits h
    exact ⟨[], digits, .inl rfl, hdigits, rfl⟩

theorem skipExponent_append {sign digits : List Char}
    (hsign : sign = [] ∨ sign = ['+'] ∨ sign = ['-']) (h : IsDigits digits)
    (hrest : StopsDigits rest) : skipExponent (sign ++ digits ++ rest) = .ok rest := by
  have hempty := h.isEmpty
  rcases hsign with rfl | rfl | rfl
  · -- a digit is no sign
    obtain ⟨c, digits, rfl⟩ := List.exists_cons_of_ne_nil h.1
    have hc : c.isDigit = true := h.2 c List.mem_cons_self
    have hplus : c ≠ '+' := by
      rintro rfl
      cases hc
    have hminus : c ≠ '-' := by
      rintro rfl
      cases hc
    unfold skipExponent
    split
    · rename_i heq
      exact absurd (List.cons.inj heq).1 hplus
    · rename_i heq
      exact absurd (List.cons.inj heq).1 hminus
    · show (if _ then _ else _) = _
      rw [List.nil_append, digitsOf_append h hrest, afterDigits_append h hrest, hempty]
      rfl
  · simp only [List.cons_append, List.nil_append, skipExponent]
    rw [digitsOf_append h hrest, afterDigits_append h hrest, hempty]
    rfl
  · simp only [List.cons_append, List.nil_append, skipExponent]
    rw [digitsOf_append h hrest, afterDigits_append h hrest, hempty]
    rfl

theorem exists_of_skipOptionalExponent (h : skipOptionalExponent text = .ok rest) :
    ∃ exponent, IsExponent exponent ∧ text = exponent ++ rest := by
  unfold skipOptionalExponent at h
  split at h
  · obtain ⟨sign, digits, hsign, hdigits, rfl⟩ := exists_of_skipExponent h
    exact ⟨_, .letter (.inl rfl) hsign hdigits, rfl⟩
  · obtain ⟨sign, digits, hsign, hdigits, rfl⟩ := exists_of_skipExponent h
    exact ⟨_, .letter (.inr rfl) hsign hdigits, rfl⟩
  · cases h
    exact ⟨[], .none, rfl⟩

theorem IsExponent.skip {exponent : List Char} (h : IsExponent exponent) (hrest : Delimits rest) :
    skipOptionalExponent (exponent ++ rest) = .ok rest := by
  cases h with
  | none =>
    rw [List.nil_append, skipOptionalExponent]
    · exact fun tail => hrest.ne (.inr (.inl rfl))
    · exact fun tail => hrest.ne (.inr (.inr rfl))
  | letter he hsign hdigits =>
    rcases he with rfl | rfl
    · exact skipExponent_append hsign hdigits hrest.stopsDigits
    · exact skipExponent_append hsign hdigits hrest.stopsDigits

/-- An exponent, and what may follow a number, does not go on with a digit. -/
theorem IsExponent.stopsDigits {exponent : List Char} (h : IsExponent exponent)
    (hrest : Delimits rest) : StopsDigits (exponent ++ rest) := by
  cases h with
  | none => exact hrest.stopsDigits
  | letter he =>
    intro c hc
    cases hc
    rcases he with rfl | rfl <;> rfl

/-- Passes over what may follow the digits before the decimal point. -/
def skipFraction : List Char → Except Fault (List Char)
  | '.' :: text =>
    if (digitsOf text).isEmpty then .error (Problem.invalidNumber.next text)
    else skipOptionalExponent (afterDigits text)
  | text => skipOptionalExponent text

theorem exists_of_skipFraction (h : skipFraction text = .ok rest) :
    ∃ fraction exponent, IsFraction fraction ∧ IsExponent exponent ∧
      text = fraction ++ exponent ++ rest := by
  unfold skipFraction at h
  split at h
  · rename_i tail
    split at h
    · cases h
    · rename_i hempty
      obtain ⟨exponent, hexponent, hrest⟩ := exists_of_skipOptionalExponent h
      refine ⟨_, exponent, .point (isDigits_digitsOf (eq_false_of_ne_true hempty)), hexponent, ?_⟩
      rw [List.append_assoc, ← hrest, List.cons_append, digitsOf_append_afterDigits]
  · obtain ⟨exponent, hexponent, rfl⟩ := exists_of_skipOptionalExponent h
    exact ⟨[], exponent, .none, hexponent, rfl⟩

theorem skipFraction_append {fraction exponent : List Char} (hfraction : IsFraction fraction)
    (hexponent : IsExponent exponent) (hrest : Delimits rest) :
    skipFraction (fraction ++ exponent ++ rest) = .ok rest := by
  rw [List.append_assoc]
  cases hfraction with
  | none =>
    rw [List.nil_append, skipFraction, hexponent.skip hrest]
    intro tail
    cases hexponent with
    | none => exact hrest.ne (.inl rfl)
    | letter he => rcases he with rfl | rfl <;> simp
  | point h =>
    rw [List.cons_append, skipFraction, digitsOf_append h (hexponent.stopsDigits hrest),
      afterDigits_append h (hexponent.stopsDigits hrest), h.isEmpty, hexponent.skip hrest]
    rfl

/-- A fraction and an exponent do not go on with a digit. -/
theorem IsFraction.stopsDigits {fraction exponent : List Char} (hfraction : IsFraction fraction)
    (hexponent : IsExponent exponent) (hrest : Delimits rest) :
    StopsDigits (fraction ++ exponent ++ rest) := by
  rw [List.append_assoc]
  cases hfraction with
  | none => exact hexponent.stopsDigits hrest
  | point =>
    intro c hc
    cases hc
    rfl

/-- Digits are passed over as the part before the decimal point exactly if a
zero at their front stands alone. -/
theorem skipMagnitude_eq (text : List Char) :
    skipMagnitude text = .ok rest ↔
      IsWhole (digitsOf text) ∧ skipFraction (afterDigits text) = .ok rest := by
  rcases text with _ | ⟨c, tail⟩
  · simp [skipMagnitude, digitsOf, IsWhole, IsDigits]
  · by_cases hc : c.isDigit = true
    · have hdigits : digitsOf (c :: tail) = c :: digitsOf tail := List.takeWhile_cons_of_pos hc
      have hall : IsDigits (digitsOf (c :: tail)) := isDigits_digitsOf (by rw [hdigits]; rfl)
      have hwhole : IsWhole (digitsOf (c :: tail)) ↔ ¬ (c = '0' ∧ (digitsOf tail).length ≠ 0) := by
        rw [IsWhole, and_iff_right hall, hdigits, List.head?_cons, Option.some_inj, List.cons.injEq,
          not_and, not_not, List.length_eq_zero_iff]
        exact ⟨fun h hzero => (h hzero).2, fun h hzero => ⟨hzero, h hzero⟩⟩
      rw [hwhole]
      by_cases hzero : c = '0' ∧ (digitsOf tail).length ≠ 0
      · simp [skipMagnitude, hzero]
      · have hnot : (!c.isDigit) ≠ true := by simp [hc]
        have heq : skipMagnitude (c :: tail) = skipFraction (afterDigits (c :: tail)) := by
          rw [skipMagnitude, if_neg hnot, if_neg hzero]
          rfl
        rw [heq, and_iff_right hzero]
    · simp [skipMagnitude, hc, digitsOf, IsWhole, IsDigits]

theorem exists_of_skipMagnitude (h : skipMagnitude text = .ok rest) :
    ∃ number, IsMagnitude number ∧ text = number ++ rest := by
  obtain ⟨hwhole, htail⟩ := (skipMagnitude_eq text).mp h
  obtain ⟨fraction, exponent, hfraction, hexponent, hrest⟩ := exists_of_skipFraction htail
  refine ⟨_, .parts hwhole hfraction hexponent, ?_⟩
  rw [List.append_assoc, List.append_assoc, ← List.append_assoc fraction, ← hrest,
    digitsOf_append_afterDigits]

theorem IsMagnitude.skip {number : List Char} (h : IsMagnitude number) (hrest : Delimits rest) :
    skipMagnitude (number ++ rest) = .ok rest := by
  obtain ⟨hwhole, hfraction, hexponent⟩ := h
  rw [skipMagnitude_eq, List.append_assoc, List.append_assoc, ← List.append_assoc _ _ rest,
    digitsOf_append hwhole.1 (hfraction.stopsDigits hexponent hrest),
    afterDigits_append hwhole.1 (hfraction.stopsDigits hexponent hrest)]
  exact ⟨hwhole, skipFraction_append hfraction hexponent hrest⟩

theorem IsMagnitude.starts {number : List Char} (h : IsMagnitude number) :
    ∃ c tail, number = c :: tail ∧ c.isDigit = true := by
  obtain ⟨hwhole, -, -⟩ := h
  obtain ⟨c, digits, rfl⟩ := List.exists_cons_of_ne_nil hwhole.1.1
  exact ⟨c, _, rfl, hwhole.1.2 c List.mem_cons_self⟩

/-! ### Values that hold no others -/

/-- The word for a boolean. -/
def booleanWord (value : Bool) : List Char :=
  if value then ['t', 'r', 'u', 'e'] else ['f', 'a', 'l', 's', 'e']

/-- A value that holds no others. -/
inductive IsScalar : List Char → Prop
  | null : IsScalar ['n', 'u', 'l', 'l']
  | boolean (value : Bool) : IsScalar (booleanWord value)
  | string {body : List Char} (h : IsStringBody body) : IsScalar ('\x22' :: (body ++ ['\x22']))
  | positive {number : List Char} (h : IsMagnitude number) : IsScalar number
  | negative {number : List Char} (h : IsMagnitude number) : IsScalar ('-' :: number)

/-- Whether a value that holds no others may begin with the character. -/
def startsScalar (c : Char) : Bool :=
  c == 'n' || c == 't' || c == 'f' || c == '\x22' || c == '-' || c.isDigit

theorem startsScalar_of_isDigit {c : Char} (h : c.isDigit = true) : startsScalar c = true := by
  simp [startsScalar, h]

theorem ne_of_startsScalar {c d : Char} (hc : startsScalar c = true) (hd : startsScalar d = false) :
    c ≠ d := by
  rintro rfl
  rw [hc] at hd
  cases hd

theorem IsScalar.starts {v : List Char} (h : IsScalar v) :
    ∃ c tail, v = c :: tail ∧ startsScalar c = true := by
  cases h with
  | null => exact ⟨_, _, rfl, rfl⟩
  | boolean value => cases value <;> exact ⟨_, _, rfl, rfl⟩
  | string h => exact ⟨_, _, rfl, rfl⟩
  | positive h =>
    obtain ⟨c, tail, rfl, hc⟩ := h.starts
    exact ⟨c, tail, rfl, startsScalar_of_isDigit hc⟩
  | negative h => exact ⟨_, _, rfl, rfl⟩

theorem exists_of_skipScalar (h : skipScalar text = .ok rest) :
    ∃ v, IsScalar v ∧ text = v ++ rest := by
  unfold skipScalar at h
  split at h
  · cases h
  · obtain rfl := (readWord_eq_ok_iff _).mp h
    exact ⟨_, .null, rfl⟩
  · obtain rfl := (readWord_eq_ok_iff _).mp h
    exact ⟨_, .boolean true, rfl⟩
  · obtain rfl := (readWord_eq_ok_iff _).mp h
    exact ⟨_, .boolean false, rfl⟩
  · obtain ⟨body, hbody, rfl⟩ := skipString_eq_ok_iff.mp h
    exact ⟨_, .string hbody, by simp⟩
  · obtain ⟨number, hnumber, rfl⟩ := exists_of_skipMagnitude h
    exact ⟨_, .negative hnumber, rfl⟩
  · split at h
    · obtain ⟨number, hnumber, hrest⟩ := exists_of_skipMagnitude h
      exact ⟨number, .positive hnumber, hrest⟩
    · cases h

theorem skipScalar_boolean (value : Bool) (rest : List Char) :
    skipScalar (booleanWord value ++ rest) = .ok rest := by
  cases value <;> rfl

theorem skipScalar_string {body : List Char} (h : IsStringBody body) (rest : List Char) :
    skipScalar ('\x22' :: (body ++ ['\x22']) ++ rest) = .ok rest := by
  rw [List.cons_append, List.append_assoc, skipScalar]
  exact h.skip rest

theorem skipScalar_of_isDigit {c : Char} (hc : c.isDigit = true) (text : List Char) :
    skipScalar (c :: text) = skipMagnitude (c :: text) := by
  have hne : ∀ d : Char, d.isDigit = false → c ≠ d := by
    rintro d hd rfl
    rw [hc] at hd
    cases hd
  rw [skipScalar, if_pos hc]
  · exact hne _ rfl
  · exact hne _ rfl
  · exact hne _ rfl
  · exact hne _ rfl
  · exact hne _ rfl

theorem IsScalar.skip {v : List Char} (h : IsScalar v) (hrest : Delimits rest) :
    skipScalar (v ++ rest) = .ok rest := by
  cases h with
  | null => rfl
  | boolean value => exact skipScalar_boolean value rest
  | string h => exact skipScalar_string h rest
  | positive h =>
    obtain ⟨c, tail, rfl, hc⟩ := h.starts
    rw [List.cons_append, skipScalar_of_isDigit hc]
    exact h.skip hrest
  | negative h => exact h.skip hrest

/-! ### Numbers that are read -/

/-- Whatever is read is a number. -/
inductive ReadsNumber : Reading Found → Prop
  | fault (f : Fault) : ReadsNumber (.error f)
  | integer (value : Int) (rest : List Char) : ReadsNumber (.ok (.integer value, rest))
  | floating (negative : Bool) (magnitude : Binary64) (rest : List Char) :
      ReadsNumber (.ok (.floating negative magnitude, rest))

theorem readsNumber_floatOf (negative : Bool) (digits : Nat) (exponent : Int) (rest : List Char) :
    ReadsNumber (floatOf negative digits exponent rest) := by
  unfold floatOf
  split
  · exact .floating ..
  · exact .fault _

theorem readsNumber_readExponentDigits (negative : Bool) (digits : Nat) (start : Int)
    (positive : Bool) (e : Nat) (text : List Char) :
    ReadsNumber (readExponentDigits negative digits start positive e text) := by
  induction text generalizing e with
  | nil => exact readsNumber_floatOf ..
  | cons c text ih =>
    rw [readExponentDigits]
    split
    · split
      · split
        · exact .fault _
        · exact .floating ..
      · exact ih _
    · exact readsNumber_floatOf ..

theorem readsNumber_readExponent (negative : Bool) (digits : Nat) (start : Int)
    (text : List Char) : ReadsNumber (readExponent negative digits start text) := by
  unfold readExponent
  dsimp only
  split
  · exact .fault _
  · split
    · exact readsNumber_readExponentDigits ..
    · exact .fault _

theorem readsNumber_readFraction (negative : Bool) (digits : Nat) (start : Int)
    (text : List Char) : ReadsNumber (readFraction negative digits start text) := by
  unfold readFraction
  dsimp only
  split
  · exact .fault _
  · unfold readOptionalExponent
    split
    · exact readsNumber_readExponent ..
    · exact readsNumber_readExponent ..
    · exact readsNumber_floatOf ..

theorem readsNumber_readMagnitude (negative : Bool) (text : List Char) :
    ReadsNumber (readMagnitude negative text) := by
  unfold readMagnitude integerOf
  dsimp only
  repeat' split
  all_goals
    first
    | exact .fault _
    | exact readsNumber_readFraction ..
    | exact readsNumber_readExponent ..
    | exact .integer ..
    | exact readsNumber_floatOf ..

theorem readsNumber_readNumber (text : List Char) : ReadsNumber (readNumber text) := by
  unfold readNumber
  split <;> exact readsNumber_readMagnitude ..

/-! ### Booleans and strings that are read -/

/-- The text writes the boolean or the string. -/
inductive Writes : Found → List Char → Prop
  | boolean (value : Bool) : Writes (.boolean value) (booleanWord value)
  | string {body s : List Char} (h : Spells body s) :
      Writes (.string (String.ofList s)) ('\x22' :: (body ++ ['\x22']))

variable {found : Found} {v : List Char}

theorem Writes.isScalar (h : Writes found v) : IsScalar v := by
  cases h with
  | boolean value => exact .boolean value
  | string h => exact .string h.isStringBody

/-- Where a word or a string ends does not depend on what follows. -/
theorem Writes.skip (h : Writes found v) (rest : List Char) :
    skipScalar (v ++ rest) = .ok rest := by
  cases h with
  | boolean value => exact skipScalar_boolean value rest
  | string h => exact skipScalar_string h.isStringBody rest

end Json

end HotReload
