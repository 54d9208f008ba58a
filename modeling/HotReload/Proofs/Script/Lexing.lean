/-
# Texts that are read as tokens whatever follows

The tokens of a text are found from left to right, and what a character means
depends on the tokens before it. A piece of text lexes to tokens if the lexer,
standing in a known situation, reads exactly these tokens off the piece and
stands in another known situation after it, whatever text follows. Pieces with
this property can be put together, so the tokens of a long text are those of its
pieces.

Key definitions: `Situation`, `Lexes`, `isVariableName`, `Token.Names`,
`nameToken`.
Key theorems: `Lexes.append`, `Lexes.tokenize_append`, `lexes_variable`,
`lexes_literal`, `lexemes_unterminated`.
-/
import HotReload.Proofs.Script.Strings
import HotReload.Script.Reader

namespace HotReload

namespace Script

/-- Where the lexer stands: what it expects, and whether a line has ended since
the last token. -/
structure Situation where
  expected : Expectation
  lineEnd : Bool
deriving DecidableEq

/-- The tokens of a text that is read in the given situation. -/
def lexemesFrom (fuel : Nat) (s : Situation) (text : List Char) : List Lexeme :=
  lexemes fuel s.expected s.lineEnd text

section Step

variable {e : Expectation} {lineEnd afterLineEnd : Bool} {text rest rest' : List Char} {c : Char}

/-- One token is read outside of templates. -/
theorem lexemes_token (fuel : Nat) {t : Token} (hopen : e.innermost ≠ .template)
    (hskip : skipTrivia .code lineEnd text = .ok (c :: rest, afterLineEnd))
    (htoken : readToken e.operand c rest = .ok (t, rest')) :
    lexemes (fuel + 1) e lineEnd text =
      ⟨t, afterLineEnd⟩ :: lexemes fuel (e.after t afterLineEnd) false rest' := by
  rw [lexemes, if_neg hopen, hskip]
  · simp only [htoken]
  · rintro rfl
    cases hskip

/-- A text that cannot be read any further ends in its fault. -/
theorem lexemes_fault (fuel : Nat) {f : Fault} (hopen : e.innermost ≠ .template)
    (hskip : skipTrivia .code lineEnd text = .ok (c :: rest, afterLineEnd))
    (htoken : readToken e.operand c rest = .error f) :
    lexemes (fuel + 1) e lineEnd text = [⟨.invalid f, afterLineEnd⟩] := by
  rw [lexemes, if_neg hopen, hskip]
  · simp only [htoken]
  · rintro rfl
    cases hskip

end Step

/-- The text is read as the tokens, from the situation `s` to the situation
`s'`, whatever follows it. -/
structure Lexes (s : Situation) (text : List Char) (tokens : List Lexeme) (s' : Situation) :
    Prop where
  reads : ∀ fuel rest, lexemesFrom (fuel + tokens.length) s (text ++ rest) =
    tokens ++ lexemesFrom fuel s' rest
  short : tokens.length ≤ text.length

namespace Lexes

variable {s s' s'' : Situation} {text text' : List Char} {tokens tokens' : List Lexeme}

/-- A text without tokens, from a situation to the same. -/
theorem nil (s : Situation) : Lexes s [] [] s := ⟨fun _ _ => rfl, by simp⟩

/-- Pieces are read one after the other. -/
theorem append (h : Lexes s text tokens s') (h' : Lexes s' text' tokens' s'') :
    Lexes s (text ++ text') (tokens ++ tokens') s'' := by
  refine ⟨fun fuel rest => ?_, ?_⟩
  · have hfuel : fuel + (tokens ++ tokens').length = fuel + tokens'.length + tokens.length := by
      rw [List.length_append]
      omega
    rw [hfuel, List.append_assoc, h.reads, h'.reads, List.append_assoc]
  · have := h.short
    have := h'.short
    simp only [List.length_append]
    omega

/-- The tokens of a text that begins with a known piece. -/
theorem tokenize_append (h : Lexes ⟨.start, true⟩ text tokens s) (rest : List Char) :
    ∃ fuel, rest.length < fuel ∧
      tokenize (text ++ rest) = tokens ++ lexemesFrom fuel s rest := by
  have hshort := h.short
  refine ⟨(text ++ rest).length + 1 - tokens.length, ?_, ?_⟩
  · rw [List.length_append]
    omega
  · rw [← h.reads]
    have hfuel : (text ++ rest).length + 1 - tokens.length + tokens.length =
        (text ++ rest).length + 1 := by
      rw [List.length_append]
      omega
    rw [hfuel]
    rfl

end Lexes

/-! ### Names -/

/-- Whether the text is a name that a variable can have outside strict code. -/
def isVariableName (name : String) : Bool :=
  name.toList.head?.any isNameStart && name.toList.all isNamePart &&
    (Word.ofText? name).all (!·.reserved)

/-- The token is that of a variable. The word `await` is a variable only where no
operand follows and is left out. -/
inductive Token.Names : Token → String → Prop where
  | name (text : String) : Token.Names (.name text) text
  | word (w : Word) (h : w.reserved = false) (hawait : w ≠ .awaitWord) :
    Token.Names (.word w) w.text

theorem Token.Names.ne_mark {t : Token} {name : String} (h : t.Names name) (m : Mark) :
    t ≠ .mark m := by
  cases h <;> exact fun h => by cases h

/-- The characters of a name up to a dot. -/
theorem nameBody_name (name rest : List Char) (h : name.all isNamePart = true) :
    nameBody .plain (name ++ '.' :: rest) = .ok (name, false, '.' :: rest) := by
  induction name with
  | nil => rfl
  | cons c name ih =>
    rw [List.all_cons, Bool.and_eq_true] at h
    rw [List.cons_append, nameBody, if_pos h.1, ih h.2]
    rfl

/-- The numbers of the characters that are blank or end a line. -/
def blankNumbers : List Nat :=
  [0x20, 0x9, 0xb, 0xc, 0xa, 0xd, 0xa0, 0xfeff, 0x1680, 0x2000, 0x2001, 0x2002, 0x2003, 0x2004,
   0x2005, 0x2006, 0x2007, 0x2008, 0x2009, 0x200a, 0x2028, 0x2029, 0x202f, 0x205f, 0x3000]

theorem mem_blankNumbers {c : Char} (h : isSpace c = true ∨ isLineEnd c = true) :
    c.toNat ∈ blankNumbers := by
  have hnumber : ∀ d : Char, c = d ↔ c.toNat = d.toNat := fun d => Char.toNat_inj.symm
  simp only [isSpace, isLineEnd, Bool.or_eq_true, Bool.and_eq_true, beq_iff_eq,
    decide_eq_true_eq, hnumber] at h
  simp only [blankNumbers, List.mem_cons, List.not_mem_nil, or_false]
  generalize c.toNat = n at h
  simp only [Char.reduceToNat] at h
  omega

/-- No name starts with a character that is blank or ends a line. -/
theorem not_isNameStart_of_blank {c : Char} (h : isSpace c = true ∨ isLineEnd c = true) :
    isNameStart c = false := by
  have hall : ∀ n ∈ blankNumbers, isNameStart (Char.ofNat n) = false := by decide +kernel
  have hc := hall c.toNat (mem_blankNumbers h)
  rwa [Char.ofNat_toNat] at hc

/-- A name does not start with a character that no name starts with. -/
theorem ne_of_isNameStart {c d : Char} (hc : isNameStart c = true) (hd : isNameStart d = false) :
    c ≠ d := by
  rintro rfl
  rw [hd] at hc
  cases hc

theorem isDigit_of_isNameStart {c : Char} (hc : isNameStart c = true) : c.isDigit = false := by
  have hall : ∀ n ∈ List.range' 48 10, isNameStart (Char.ofNat n) = false := by decide
  cases h : c.isDigit with
  | false => rfl
  | true =>
    have hmem : c.toNat ∈ List.range' 48 10 := by
      simp only [Char.isDigit, Bool.and_eq_true, decide_eq_true_eq, ge_iff_le,
        UInt32.le_iff_toNat_le] at h
      have hlow : 48 ≤ c.toNat := h.1
      have hhigh : c.toNat ≤ 57 := h.2
      rw [List.mem_range'_1]
      omega
    have := hall c.toNat hmem
    rw [Char.ofNat_toNat] at this
    exact absurd rfl (ne_of_isNameStart hc this)

/-- Nothing is skipped before a name. -/
theorem skipTrivia_name {c : Char} (hc : isNameStart c = true) (lineEnd : Bool) (text : List Char) :
    skipTrivia .code lineEnd (c :: text) = .ok (c :: text, lineEnd) := by
  have hspace : isSpace c = false := by
    cases h : isSpace c with
    | false => rfl
    | true => rw [not_isNameStart_of_blank (Or.inl h)] at hc; cases hc
  have hend : isLineEnd c = false := by
    cases h : isLineEnd c with
    | false => rfl
    | true => rw [not_isNameStart_of_blank (Or.inr h)] at hc; cases hc
  rw [skipTrivia, hend, hspace]
  · rfl
  · exact fun _ h => absurd h (ne_of_isNameStart hc (by decide))
  · exact fun _ h => absurd h (ne_of_isNameStart hc (by decide))
  · exact fun _ h => absurd h (ne_of_isNameStart hc (by decide))
  · exact fun _ _ h => absurd h (ne_of_isNameStart hc (by decide))

/-- Blanks before a name are skipped. -/
theorem skipTrivia_indent {c : Char} (hc : isNameStart c = true) (indent : Nat) (lineEnd : Bool)
    (text : List Char) :
    skipTrivia .code lineEnd (List.replicate indent ' ' ++ c :: text) = .ok (c :: text, lineEnd) := by
  induction indent with
  | zero => exact skipTrivia_name hc lineEnd text
  | succ indent ih => exact ih

/-- The token of a name. -/
def nameToken (name : String) : Token :=
  match Word.ofText? name with
  | some w => .word w
  | none => .name name

/-- A name is read as its token. -/
theorem readToken_name {c : Char} {name : List Char} (hc : isNameStart c = true)
    (hname : (c :: name).all isNamePart = true) (operand : Bool) (rest : List Char) :
    readToken operand c (name ++ '.' :: rest) =
      .ok (nameToken (String.ofList (c :: name)), '.' :: rest) := by
  have hread : readName (c :: (name ++ '.' :: rest)) =
      .ok (String.ofList (c :: name), false, '.' :: rest) := by
    unfold readName
    rw [← List.cons_append, nameBody_name _ rest hname]
    show (if (some c).any isNameStart then _ else _) = _
    rw [Option.any_some, hc]
    rfl
  have hdot : c ≠ '.' := ne_of_isNameStart hc (by decide)
  have hquote : ¬ (c = '\x22' ∨ c = '\x27') := fun h =>
    h.elim (ne_of_isNameStart hc (by decide)) (ne_of_isNameStart hc (by decide))
  unfold readToken
  rw [isDigit_of_isNameStart hc, hc, beq_eq_false_iff_ne.mpr hdot, if_neg (by simp), if_neg hquote,
    if_pos (by simp)]
  unfold readWord nameToken
  rw [hread]
  show (match Word.ofText? (String.ofList (c :: name)) with | some w => _ | none => _) = _
  cases Word.ofText? (String.ofList (c :: name)) <;> rfl

/-- A dot before a name is read as a dot. -/
theorem readToken_dot {d : Char} (hd : isNameStart d = true) (operand : Bool) (rest : List Char) :
    readToken operand '.' (d :: rest) = .ok (.mark .dot, d :: rest) := by
  have hdots : List.isPrefixOf ['.', '.'] (d :: rest) = false := by
    have : ('.' == d) = false := beq_eq_false_iff_ne.mpr (ne_of_isNameStart hd (by decide)).symm
    rw [List.isPrefixOf, this]
    rfl
  have hmark : readMark '.' (d :: rest) = .ok (.mark .dot, d :: rest) := by
    have hfind : (Mark.startingWith '.').find? (·.1.isPrefixOf (d :: rest)) = some ([], .dot) := by
      simp only [Mark.startingWith, List.find?, hdots]
      rfl
    unfold readMark
    rw [hfind]
    rfl
  have hdigit : (d :: rest).head?.any Char.isDigit = false := isDigit_of_isNameStart hd
  unfold readToken
  rw [hdigit, if_neg (by decide), if_neg (by decide), if_neg (by decide), if_neg (by simp),
    if_neg (by simp), hmark]

/-- What is open does not change at the token of a variable. -/
theorem Token.Names.innermost {t : Token} {name : String} (h : t.Names name) (e : Expectation)
    (lineEnd : Bool) : (e.after t lineEnd).innermost = e.innermost := by
  cases h with
  | name => rfl
  | word w h =>
    cases w
    all_goals first | rfl | cases h

/-- What is expected after the token of a variable and a dot. -/
theorem Token.Names.after_dot {t : Token} {name : String} (h : t.Names name) (e : Expectation)
    (lineEnd : Bool) :
    (e.after t lineEnd).after (.mark .dot) false = ⟨e.nesting, false, some (.mark .dot)⟩ := by
  cases h with
  | name => rfl
  | word w h =>
    cases w
    all_goals first | rfl | cases h

/-- The token of the name of a variable is one of a variable. -/
theorem nameToken_names {name : String} (hname : isVariableName name = true)
    (hawait : name ≠ "await") : (nameToken name).Names name := by
  unfold nameToken
  cases h : Word.ofText? name with
  | none => exact .name name
  | some w =>
    have htext : w.text = name := by simpa using List.find?_some h
    have hw : w.reserved = false := by
      simp only [isVariableName, h, Option.all_some, Bool.and_eq_true, Bool.not_eq_true'] at hname
      exact hname.2
    rw [← htext] at hawait ⊢
    exact .word w hw fun h => hawait (by rw [h]; rfl)

/-- The name of a variable is read as its token if a dot and another name follow
in the piece. -/
theorem lexes_variable {name : String} (hname : isVariableName name = true)
    (hawait : name ≠ "await") (indent : Nat) {e : Expectation} (hopen : e.innermost ≠ .template)
    (lineEnd : Bool) {d : Char} {more : List Char} {tokens : List Lexeme} {s : Situation}
    (hd : isNameStart d = true)
    (hmore : Lexes ⟨⟨e.nesting, false, some (.mark .dot)⟩, false⟩ (d :: more) tokens s) :
    Lexes ⟨e, lineEnd⟩ (List.replicate indent ' ' ++ name.toList ++ '.' :: d :: more)
      (⟨nameToken name, lineEnd⟩ :: ⟨.mark .dot, false⟩ :: tokens) s := by
  have hnames := nameToken_names hname hawait
  simp only [isVariableName, Bool.and_eq_true] at hname
  obtain ⟨⟨hstart, hparts⟩, -⟩ := hname
  obtain ⟨c, cs, hcs⟩ : ∃ c cs, name.toList = c :: cs := by
    cases h : name.toList with
    | nil => rw [h] at hstart; cases hstart
    | cons c cs => exact ⟨c, cs, rfl⟩
  have hname : String.ofList (c :: cs) = name := by rw [← hcs, String.ofList_toList]
  rw [hcs] at hstart hparts ⊢
  refine ⟨fun fuel rest => ?_, ?_⟩
  · have htext : List.replicate indent ' ' ++ c :: cs ++ '.' :: d :: more ++ rest =
        List.replicate indent ' ' ++ c :: (cs ++ '.' :: d :: (more ++ rest)) := by simp
    have hinner : (e.after (nameToken name) lineEnd).innermost ≠ .template := by
      rwa [hnames.innermost]
    show lexemes (fuel + tokens.length + 1 + 1) e lineEnd _ = _
    rw [htext, lexemes_token _ hopen (skipTrivia_indent hstart indent lineEnd _)
        (readToken_name hstart hparts _ _), hname,
      lexemes_token _ hinner rfl (readToken_dot hd _ _), hnames.after_dot]
    exact congrArg (fun ts => _ :: _ :: ts) (hmore.reads fuel rest)
  · have := hmore.short
    simp only [List.length_cons, List.length_append] at this ⊢
    omega

/-! ### Strings -/

/-- A text between quotation marks is read as the literal that it stands for. -/
theorem lexes_literal {slot : String} {literal : Literal} (h : ReadsAs slot literal)
    {e : Expectation} (hopen : e.innermost ≠ .template) :
    Lexes ⟨e, false⟩ ('\x27' :: slot.toList ++ ['\x27']) [⟨literal.token, false⟩]
      ⟨⟨e.nesting, false, some literal.token⟩, false⟩ := by
  refine ⟨fun fuel rest => ?_, by simp⟩
  have htext : '\x27' :: slot.toList ++ ['\x27'] ++ rest =
      '\x27' :: (slot.toList ++ '\x27' :: rest) := by simp
  have htoken : readToken e.operand '\x27' (slot.toList ++ '\x27' :: rest) =
      .ok (literal.token, rest) := h rest
  show lexemes (fuel + 1) e false _ = _
  rw [htext, lexemes_token fuel hopen rfl htoken]
  rfl

/-- A text in which a line ends leaves its string open, and nothing after it is
read. -/
theorem lexemes_unterminated {slot : List Char} (h : slot.all isUnescaped = true)
    (hline : slot.all isPlain = false) {e : Expectation} (hopen : e.innermost ≠ .template)
    (fuel : Nat) (rest : List Char) :
    lexemesFrom (fuel + 1) ⟨e, false⟩ ('\x27' :: (slot ++ rest)) =
      [⟨.invalid .unterminatedString, false⟩] := by
  have hread : readToken e.operand '\x27' (slot ++ rest) = .error .unterminatedString := by
    show readString '\x27' (slot ++ rest) = _
    unfold readString
    rw [stringBody_unterminated slot rest h hline]
    rfl
  exact lexemes_fault fuel hopen rfl hread

end Script

end HotReload
