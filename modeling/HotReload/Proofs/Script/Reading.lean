/-
# Reading statements from known tokens

What the readers of the language do with the tokens of a statement does not
depend on what comes after the statement. Statements with this property are
called phrases: a list of phrases is read phrase by phrase, as the statements of
a block or of a function. The names of variables are treated here once and for
all: a word that is no reserved word is read like any other name where a member
of it begins a statement.

Key definitions: `Reads`, `AllRead`, `EndsExpression`, `selfInvocation`.
Key theorems: `block_phrases`, `functionBody_phrases`, `functionBody_fault`,
`commaExpression_operand`, `statement_method`, `statement_method_fault`,
`readTokens_selfInvocation`.
-/
import HotReload.Proofs.Script.Lexing
import HotReload.Proofs.Script.Nodes

namespace HotReload

namespace Script

/-- The place inside a function of a script, or inside a method. -/
def functionPlace (method : Bool) : Place :=
  { Place.script.function false false with superMember := method }

/-! ### Statements one after the other -/

/-- Whether the token goes on with a statement that could end before it. -/
def Token.continuesStatement : Token → Bool
  | .word .elseWord | .word .finallyWord => true
  | _ => false

theorem Token.Names.continuesStatement {t : Token} {name : String} (h : t.Names name) :
    t.continuesStatement = false := by
  cases h with
  | name => rfl
  | word w hw => cases w <;> first | rfl | cases hw

/-- The token of a variable closes no bracket and opens none. -/
theorem Token.Names.afterBracket {t : Token} {name : String} (h : t.Names name) (depth : Nat)
    (b : Bool) (ts : List Lexeme) :
    Script.afterBracket (depth + 1) (⟨t, b⟩ :: ts) = Script.afterBracket (depth + 1) ts := by
  cases h <;> rfl

/-- The tokens are read as the statement, whatever follows but a word that goes on
with it. -/
structure Reads (k : Nat) (p : Place) (tokens : List Lexeme) (s : Tree Node) : Prop where
  begins : ∃ l ts, tokens = l :: ts ∧ l.token ≠ .mark .rightBrace ∧
    l.token.continuesStatement = false
  reads : ∀ l rest, l.token.continuesStatement = false →
    grammar k .statement p (tokens ++ l :: rest) = .ok (s, l :: rest)
  notDirective : directive? s = none
  balanced : ∀ depth rest, afterBracket (depth + 1) (tokens ++ rest) = afterBracket (depth + 1) rest

variable {k : Nat} {p : Place}

/-- A reader that succeeds hands its result on. -/
theorem bind_of_ok {α β : Type} {x : Parse α} {f : α → Parse β} {ts ts' : List Lexeme} {a : α}
    (h : x ts = .ok (a, ts')) : (x >>= f) ts = f a ts' := by
  show Except.bind (x ts) _ = _
  rw [h]
  rfl

/-- A reader that fails ends the reading. -/
theorem bind_of_error {α β : Type} {x : Parse α} {f : α → Parse β} {ts : List Lexeme} {fault : Fault}
    (h : x ts = .error fault) : (x >>= f) ts = .error fault := by
  show Except.bind (x ts) _ = _
  rw [h]
  rfl

theorem peek_cons (l : Lexeme) (ts : List Lexeme) : peek (l :: ts) = .ok (some l.token, l :: ts) :=
  rfl

theorem bind_get {α : Type} (f : List Lexeme → Parse α) (ts : List Lexeme) :
    (get >>= f) ts = f ts ts := rfl

theorem bind_nextIsWord {α : Type} (w : Word) (f : Bool → Parse α) (l : Lexeme)
    (ts : List Lexeme) :
    (nextIsWord w >>= f) (l :: ts) = f (some l.token == some (.word w)) (l :: ts) := rfl

theorem accept_self (m : Mark) (b : Bool) (ts : List Lexeme) :
    accept m (⟨.mark m, b⟩ :: ts) = .ok (true, ts) := by
  unfold accept nextIs
  show (if (some (Token.mark m) == some (Token.mark m)) = true then _ else _ : Parse Bool) _ = _
  rw [beq_self_eq_true]
  rfl

theorem accept_ne {m : Mark} {l : Lexeme} (h : l.token ≠ .mark m) (ts : List Lexeme) :
    accept m (l :: ts) = .ok (false, l :: ts) := by
  have hne : (some l.token == some (Token.mark m)) = false := by simpa using h
  unfold accept nextIs
  show (if (some l.token == some (Token.mark m)) = true then _ else _ : Parse Bool) _ = _
  rw [hne]
  rfl

theorem acceptWord_ne {w : Word} {l : Lexeme} (h : l.token ≠ .word w) (ts : List Lexeme) :
    acceptWord w (l :: ts) = .ok (false, l :: ts) := by
  have hne : (some l.token == some (Token.word w)) = false := by simpa using h
  unfold acceptWord nextIsWord
  show (if (some l.token == some (Token.word w)) = true then _ else _ : Parse Bool) _ = _
  rw [hne]
  rfl

/-- The tokens of phrases, which are tokens with the statement that they are read
as. -/
def tokensOf (phrases : List (List Lexeme × Tree Node)) : List Lexeme := phrases.flatMap (·.1)

/-- The statements of phrases. -/
def statementsOf (phrases : List (List Lexeme × Tree Node)) : List (Tree Node) := phrases.map (·.2)

/-- Every phrase is read as its statement. -/
def AllRead (k : Nat) (p : Place) (phrases : List (List Lexeme × Tree Node)) : Prop :=
  ∀ phrase ∈ phrases, Reads k p phrase.1 phrase.2

theorem AllRead.nil : AllRead k p [] := by
  intro phrase h
  cases h

theorem AllRead.cons {tokens : List Lexeme} {s : Tree Node} {phrases : List (List Lexeme × Tree Node)}
    (h : Reads k p tokens s) (h' : AllRead k p phrases) : AllRead k p ((tokens, s) :: phrases) := by
  intro phrase hphrase
  rcases List.mem_cons.mp hphrase with rfl | hphrase
  · exact h
  · exact h' phrase hphrase

section Lists

variable {phrases : List (List Lexeme × Tree Node)} (h : AllRead k p phrases)

include h

theorem AllRead.balanced (depth : Nat) (rest : List Lexeme) :
    afterBracket (depth + 1) (tokensOf phrases ++ rest) = afterBracket (depth + 1) rest := by
  induction phrases with
  | nil => rfl
  | cons phrase phrases ih =>
    have hphrase := (h phrase (by simp)).balanced depth (tokensOf phrases ++ rest)
    have hothers := ih fun x hx => h x (by simp [hx])
    rw [← List.append_assoc] at hphrase
    exact hphrase.trans hothers

theorem AllRead.length_le : phrases.length ≤ (tokensOf phrases).length := by
  induction phrases with
  | nil => exact Nat.zero_le _
  | cons phrase phrases ih =>
    obtain ⟨l, ts, hts, -⟩ := (h phrase (by simp)).begins
    have := ih fun x hx => h x (by simp [hx])
    simp only [tokensOf, List.flatMap_cons, hts, List.length_cons, List.length_append] at this ⊢
    omega

/-- No phrase goes on with the one before. -/
theorem AllRead.exists_next {l : Lexeme} (hl : l.token.continuesStatement = false) (rest : List Lexeme) :
    ∃ l' rest', tokensOf phrases ++ l :: rest = l' :: rest' ∧ l'.token.continuesStatement = false := by
  cases phrases with
  | nil => exact ⟨l, rest, rfl, hl⟩
  | cons phrase phrases =>
    obtain ⟨l', ts, hts, -, helse⟩ := (h phrase (by simp)).begins
    refine ⟨l', ts ++ (tokensOf phrases ++ l :: rest), ?_, helse⟩
    simp [tokensOf, hts]

omit h in
/-- The first phrase is read before the others. -/
theorem AllRead.first {phrase : List Lexeme × Tree Node} (h : AllRead k p (phrase :: phrases))
    {l : Lexeme} (hl : l.token.continuesStatement = false) (rest : List Lexeme) :
    ∃ l' rest', tokensOf (phrase :: phrases) ++ l :: rest = l' :: rest' ∧
      l'.token ≠ .mark .rightBrace ∧
      grammar k .statement p (l' :: rest') = .ok (phrase.2, tokensOf phrases ++ l :: rest) := by
  have hothers : AllRead k p phrases := fun x hx => h x (by simp [hx])
  have hphrase := h phrase (by simp)
  obtain ⟨first, ts, hts, hbrace, -⟩ := hphrase.begins
  obtain ⟨next, more, hnext, helse⟩ := hothers.exists_next hl rest
  have hread := hphrase.reads next more helse
  refine ⟨first, ts ++ next :: more, ?_, hbrace, ?_⟩
  · rw [← hnext]
    simp [tokensOf, hts]
  · rw [hnext, ← hread, hts]
    rfl

/-- The statements of a block are read phrase by phrase. -/
theorem untilMark_phrases {l : Lexeme} (hl : l.token.continuesStatement = false) (fuel : Nat)
    (rest : List Lexeme) :
    untilMark .rightBrace (grammar k .statement p) (fuel + phrases.length)
        (tokensOf phrases ++ l :: rest) =
      (untilMark .rightBrace (grammar k .statement p) fuel (l :: rest)).map
        fun r => (statementsOf phrases ++ r.1, r.2) := by
  induction phrases with
  | nil =>
    show _ = Except.map id _
    rw [Except.map_id]
    rfl
  | cons phrase phrases ih =>
    obtain ⟨l', rest', htokens, hbrace, hread⟩ := h.first hl rest
    rw [htokens]
    show untilMark _ _ (fuel + phrases.length + 1) (l' :: rest') = _
    rw [untilMark, bind_of_ok (accept_ne hbrace _)]
    show (grammar k .statement p >>= _) (l' :: rest') = _
    rw [bind_of_ok hread]
    show Except.bind (untilMark _ _ _ _) _ = _
    rw [ih fun x hx => h x (by simp [hx])]
    cases untilMark .rightBrace (grammar k .statement p) fuel (l :: rest) <;> rfl

/-- The statements of a function are read phrase by phrase. -/
theorem bodyStatements_phrases {l : Lexeme} (hl : l.token.continuesStatement = false) (fuel : Nat)
    (leading : Bool) (rest : List Lexeme) :
    bodyStatements (grammar k) (some .rightBrace) true (fuel + phrases.length) leading p
        (tokensOf phrases ++ l :: rest) =
      (bodyStatements (grammar k) (some .rightBrace) true fuel (leading && phrases.isEmpty) p
        (l :: rest)).map fun r => (statementsOf phrases ++ r.1, r.2) := by
  induction phrases generalizing leading with
  | nil =>
    rw [List.isEmpty_nil, Bool.and_true]
    show _ = Except.map id _
    rw [Except.map_id]
    rfl
  | cons phrase phrases ih =>
    obtain ⟨l', rest', htokens, hbrace, hread⟩ := h.first hl rest
    have hdirective : (if leading = true then directive? phrase.2 else none) = none := by
      rw [(h phrase (by simp)).notDirective, ite_self]
    rw [htokens]
    show bodyStatements _ _ _ (fuel + phrases.length + 1) _ _ (l' :: rest') = _
    rw [bodyStatements, bind_of_ok (accept_ne hbrace _)]
    show (grammar k .statement p >>= _) (l' :: rest') = _
    rw [bind_of_ok hread, hdirective]
    show Except.bind (bodyStatements _ _ _ (fuel + phrases.length) false p _) _ = _
    rw [ih (fun x hx => h x (by simp [hx])) false, Bool.false_and, List.isEmpty_cons,
      Bool.and_false]
    cases bodyStatements (grammar k) (some .rightBrace) true fuel false p (l :: rest) <;> rfl

theorem AllRead.exists_fuel (l : Lexeme) (rest : List Lexeme) :
    ∃ fuel, (tokensOf phrases ++ l :: rest).length + 1 = fuel + 1 + phrases.length := by
  have hle := h.length_le
  refine ⟨(tokensOf phrases ++ l :: rest).length - phrases.length, ?_⟩
  rw [List.length_append]
  omega

/-- A block of phrases is read as the block of their statements. -/
theorem block_phrases (b b' : Bool) (rest : List Lexeme) :
    block (grammar k) p
        (⟨.mark .leftBrace, b⟩ :: (tokensOf phrases ++ ⟨.mark .rightBrace, b'⟩ :: rest)) =
      .ok (blockNode (statementsOf phrases), rest) := by
  obtain ⟨fuel, hfuel⟩ := h.exists_fuel ⟨.mark .rightBrace, b'⟩ rest
  show Except.bind (untilMark .rightBrace (grammar k .statement p)
    ((tokensOf phrases ++ ⟨.mark .rightBrace, b'⟩ :: rest).length + 1)
    (tokensOf phrases ++ ⟨.mark .rightBrace, b'⟩ :: rest)) _ = _
  rw [hfuel, untilMark_phrases h rfl, untilMark, bind_of_ok (accept_self ..)]
  show Except.ok (blockNode (statementsOf phrases ++ []), rest) = _
  rw [List.append_nil]

/-- The body of a function is read as the block of its statements. -/
theorem functionBody_phrases (b b' : Bool) (rest : List Lexeme) :
    functionBody (grammar k) p true
        (⟨.mark .leftBrace, b⟩ :: (tokensOf phrases ++ ⟨.mark .rightBrace, b'⟩ :: rest)) =
      .ok (blockNode (statementsOf phrases), rest) := by
  obtain ⟨fuel, hfuel⟩ := h.exists_fuel ⟨.mark .rightBrace, b'⟩ rest
  show Except.bind (bodyStatements (grammar k) (some .rightBrace) true
    ((tokensOf phrases ++ ⟨.mark .rightBrace, b'⟩ :: rest).length + 1) true p
    (tokensOf phrases ++ ⟨.mark .rightBrace, b'⟩ :: rest)) _ = _
  rw [hfuel, bodyStatements_phrases h rfl, bodyStatements, bind_of_ok (accept_self ..)]
  show Except.ok (blockNode (statementsOf phrases ++ []), rest) = _
  rw [List.append_nil]

/-- A fault in a statement of a function is one of its body. -/
theorem functionBody_fault {l : Lexeme} (hbrace : l.token ≠ .mark .rightBrace)
    (helse : l.token.continuesStatement = false) {rest : List Lexeme} {f : Fault}
    (hread : grammar k .statement p (l :: rest) = .error f) (b : Bool) :
    functionBody (grammar k) p true (⟨.mark .leftBrace, b⟩ :: (tokensOf phrases ++ l :: rest)) =
      .error f := by
  obtain ⟨fuel, hfuel⟩ := h.exists_fuel l rest
  show Except.bind (bodyStatements (grammar k) (some .rightBrace) true
    ((tokensOf phrases ++ l :: rest).length + 1) true p (tokensOf phrases ++ l :: rest)) _ = _
  rw [hfuel, bodyStatements_phrases h helse, bodyStatements, bind_of_ok (accept_ne hbrace rest)]
  show Except.bind (Except.map _ ((grammar k .statement p >>= _) (l :: rest))) _ = _
  rw [bind_of_error hread]
  rfl

end Lists

/-! ### Expressions that are one operand -/

/-- What is read ends before a mark that ends expressions and separates none, or
with the text, if reading succeeds. -/
inductive EndsExpression {α : Type} : Except Fault (α × List Lexeme) → Prop where
  | rightParen (a : α) (b : Bool) (ts : List Lexeme) :
    EndsExpression (.ok (a, ⟨.mark .rightParen, b⟩ :: ts))
  | semicolon (a : α) (b : Bool) (ts : List Lexeme) :
    EndsExpression (.ok (a, ⟨.mark .semicolon, b⟩ :: ts))
  | done (a : α) : EndsExpression (.ok (a, []))
  | error (f : Fault) : EndsExpression (.error f)

/-- A token that an operand begins with: that of a variable, or what begins a
function, a parenthesis or an object. -/
inductive Token.BeginsOperand : Token → Prop where
  | name {t : Token} {name : String} (h : t.Names name) : Token.BeginsOperand t
  | function : Token.BeginsOperand (.word .functionWord)
  | parenthesis : Token.BeginsOperand (.mark .leftParen)
  | brace : Token.BeginsOperand (.mark .leftBrace)

section Operands

variable {nested : Nested} {l : Lexeme} {ts : List Lexeme} {inMethod : Bool}

theorem unaryExpression_operand (hl : l.token.BeginsOperand)
    (h : EndsExpression (leftHandSide nested p (l :: ts))) :
    unaryExpression nested p (l :: ts) = leftHandSide nested p (l :: ts) := by
  obtain ⟨t, b⟩ := l
  cases hl
  case' name hname => cases hname
  case' name.word w hw hawait => cases w
  all_goals
    first
    | exact absurd hw (by decide)
    | exact absurd rfl hawait
    | show Except.bind (leftHandSide nested p (⟨_, b⟩ :: ts)) _ = _
      generalize leftHandSide nested p _ = r at h
      cases h with
      | rightParen a b' | semicolon a b' => cases b' <;> rfl
      | done | error => rfl

theorem binaryExpression_operand (hl : l.token.BeginsOperand)
    (h : EndsExpression (leftHandSide nested p (l :: ts))) :
    binaryExpression nested p (l :: ts) = leftHandSide nested p (l :: ts) := by
  have hunary := unaryExpression_operand hl h
  have hbind : binaryExpression nested p (l :: ts) =
      Except.bind (unaryExpression nested p (l :: ts)) fun r =>
        binaryRest p (unaryExpression nested p) (r.2.length + 1) 0 r.1 r.2 := by
    obtain ⟨t, b⟩ := l
    cases hl
    case' name hname => cases hname
    all_goals rfl
  rw [hbind, hunary]
  generalize leftHandSide nested p (l :: ts) = r at h
  cases h <;> rfl

theorem conditional_operand (hl : l.token.BeginsOperand)
    (h : EndsExpression (leftHandSide nested p (l :: ts))) :
    conditional nested p (l :: ts) = leftHandSide nested p (l :: ts) := by
  have hbinary := binaryExpression_operand hl h
  show Except.bind (binaryExpression nested p (l :: ts)) _ = _
  rw [hbinary]
  generalize leftHandSide nested p (l :: ts) = r at h
  cases h <;> rfl

theorem assignmentExpression_arrow (hp : p.generator = false) {async : Bool}
    (harrow : arrowAhead? p (l :: ts) = some async) :
    assignmentExpression nested p (l :: ts) = arrowFunction nested p async (l :: ts) := by
  unfold assignmentExpression
  rw [hp, bind_nextIsWord]
  simp only [Bool.false_and, Bool.false_eq_true, if_false, bind_get, harrow]

theorem assignmentExpression_operand (hl : l.token.BeginsOperand)
    (hp : p.generator = false) (harrow : arrowAhead? p (l :: ts) = none)
    (hpattern : startsPattern (· == .mark .assign) (l :: ts) = false)
    (h : EndsExpression (leftHandSide nested p (l :: ts))) :
    assignmentExpression nested p (l :: ts) = leftHandSide nested p (l :: ts) := by
  have hcond := conditional_operand hl h
  unfold assignmentExpression
  rw [hp, bind_nextIsWord]
  simp only [Bool.false_and, Bool.false_eq_true, if_false, bind_get, harrow, hpattern]
  show Except.bind (conditional nested p (l :: ts)) _ = _
  rw [hcond]
  generalize leftHandSide nested p (l :: ts) = r at h
  cases h <;> rfl

/-- An expression that begins with an operand and ends after it is that operand. -/
theorem commaExpression_operand (hl : l.token.BeginsOperand)
    (hp : p.generator = false) (harrow : arrowAhead? p (l :: ts) = none)
    (hpattern : startsPattern (· == .mark .assign) (l :: ts) = false)
    (h : EndsExpression (leftHandSide nested p (l :: ts))) :
    commaExpression nested p (l :: ts) = leftHandSide nested p (l :: ts) := by
  show Except.bind (assignmentExpression nested p (l :: ts)) _ = _
  rw [assignmentExpression_operand hl hp harrow hpattern h]
  generalize leftHandSide nested p (l :: ts) = r at h
  cases h <;> rfl

/-- A statement that begins with a variable and a dot, or with a function in
parentheses, is an expression. -/
theorem listedStatement_operand {l' : Lexeme}
    (hl : (∃ name, l.token.Names name ∧ l'.token = .mark .dot) ∨
      l.token = .mark .leftParen ∧ l'.token = .word .functionWord) :
    listedStatement nested p (l :: l' :: ts) =
      Except.bind (nested .expression p.withIn (l :: l' :: ts)) fun r =>
        (semicolon r.2).map fun q => (statementNode r.1, q.2) := by
  obtain ⟨t, b⟩ := l
  obtain ⟨t', b'⟩ := l'
  rcases hl with ⟨name, hname, rfl⟩ | ⟨rfl, rfl⟩
  · cases hname
    case' word w hw hawait => cases w
    all_goals
      first
      | exact absurd hw (by decide)
      | exact absurd rfl hawait
      | show Except.bind (nested .expression p.withIn (⟨_, b⟩ :: ⟨.mark .dot, b'⟩ :: ts)) _ = _
        rfl
  · rfl

/-- No arrow function begins with a variable and a dot. -/
theorem arrowAhead?_member {t : Token} {name : String} (ht : t.Names name) (b b' : Bool) :
    arrowAhead? (functionPlace inMethod) (⟨t, b⟩ :: ⟨.mark .dot, b'⟩ :: ts) = none := by
  cases ht with
  | name => rfl
  | word w hw hawait =>
    cases w
    all_goals
      first
      | exact absurd hw (by decide)
      | exact absurd rfl hawait
      | rfl
      | cases b' <;> rfl

/-- The last argument of a call is read as soon as its expression is. -/
theorem listUntil_argument (fuel : Nat) (hclose : l.token ≠ .mark .rightParen)
    (hspread : l.token ≠ .mark .ellipsis) {e : Tree Node} {b : Bool} {rest : List Lexeme}
    (h : nested .assignment (functionPlace inMethod) (l :: ts) =
      .ok (e, ⟨.mark .rightParen, b⟩ :: rest)) :
    listUntil .rightParen (argumentNode nested (functionPlace inMethod)) (fuel + 1) (l :: ts) =
      .ok ([plainArgument e], rest) := by
  have hargument : argumentNode nested (functionPlace inMethod) (l :: ts) =
      .ok (plainArgument e, ⟨.mark .rightParen, b⟩ :: rest) := by
    unfold argumentNode
    rw [bind_of_ok (accept_ne hspread ts)]
    show (nested .assignment (functionPlace inMethod) >>= _) (l :: ts) = _
    rw [bind_of_ok h]
    rfl
  rw [listUntil, bind_of_ok (accept_ne hclose ts)]
  show (argumentNode nested (functionPlace inMethod) >>= _) (l :: ts) = _
  rw [bind_of_ok hargument]
  rfl

/-- The only argument of a call is read as soon as its expression is. -/
theorem callArguments_argument (hclose : l.token ≠ .mark .rightParen)
    (hspread : l.token ≠ .mark .ellipsis) {e : Tree Node} {b : Bool} {rest : List Lexeme}
    (h : nested .assignment (functionPlace inMethod) (l :: ts) =
      .ok (e, ⟨.mark .rightParen, b⟩ :: rest)) :
    callArguments nested (functionPlace inMethod) (l :: ts) =
      .ok (childrenOf [plainArgument e] .arguments, rest) := by
  show Except.bind (listUntil .rightParen (argumentNode nested (functionPlace inMethod))
    ((l :: ts).length + 1) (l :: ts)) _ = _
  rw [listUntil_argument _ hclose hspread h]
  rfl

/-- A fault in the first argument is one of the arguments. -/
theorem callArguments_fault (hclose : l.token ≠ .mark .rightParen)
    (hspread : l.token ≠ .mark .ellipsis) {f : Fault}
    (h : nested .assignment (functionPlace inMethod) (l :: ts) = .error f) :
    callArguments nested (functionPlace inMethod) (l :: ts) = .error f := by
  have hargument : argumentNode nested (functionPlace inMethod) (l :: ts) = .error f := by
    unfold argumentNode
    rw [bind_of_ok (accept_ne hspread ts)]
    exact bind_of_error h
  show Except.bind (listUntil .rightParen (argumentNode nested (functionPlace inMethod))
    ((l :: ts).length + 1) (l :: ts)) _ = _
  rw [listUntil, bind_of_ok (accept_ne hclose ts)]
  show Except.bind ((argumentNode nested (functionPlace inMethod) >>= _) (l :: ts)) _ = _
  rw [bind_of_error hargument]
  rfl

/-- A call of a method of a variable, after its opening parenthesis. -/
theorem leftHandSide_method (nested : Nested) (inMethod : Bool) (ts : List Lexeme) {t : Token} {name : String}
    (ht : t.Names name) (method : String) (b₁ b₂ b₃ b₄ : Bool) :
    leftHandSide nested (functionPlace inMethod)
        (⟨t, b₁⟩ :: ⟨.mark .dot, b₂⟩ :: ⟨.name method, b₃⟩ :: ⟨.mark .leftParen, b₄⟩ :: ts) =
      Except.bind (callArguments nested (functionPlace inMethod) ts) fun r =>
        suffixes nested (functionPlace inMethod) true (ts.length + 2) false
          (callNode false (propertyNode (identifierNode name) method) r.1) r.2 := by
  cases ht with
  | name => rfl
  | word w hw hawait =>
    cases w
    all_goals
      first
      | exact absurd hw (by decide)
      | exact absurd rfl hawait
      | rfl

/-- A statement that begins with a member of a variable is an operand and the end
of the statement. -/
theorem statement_member {t : Token} {name : String} (ht : t.Names name) (b b' : Bool)
    (h : EndsExpression (leftHandSide (grammar k) (functionPlace inMethod)
      (⟨t, b⟩ :: ⟨.mark .dot, b'⟩ :: ts))) :
    grammar (k + 2) .statement (functionPlace inMethod) (⟨t, b⟩ :: ⟨.mark .dot, b'⟩ :: ts) =
      Except.bind (leftHandSide (grammar k) (functionPlace inMethod) (⟨t, b⟩ :: ⟨.mark .dot, b'⟩ :: ts))
        fun r => (semicolon r.2).map fun q => (statementNode r.1, q.2) := by
  have hpattern : startsPattern (· == .mark .assign) (⟨t, b⟩ :: ⟨.mark .dot, b'⟩ :: ts) = false := by
    cases ht <;> rfl
  have hexpression := commaExpression_operand (.name ht) rfl (arrowAhead?_member ht b b') hpattern h
  show listedStatement (grammar (k + 1)) (functionPlace inMethod) _ = _
  rw [listedStatement_operand (Or.inl ⟨name, ht, rfl⟩)]
  show Except.bind (commaExpression (grammar k) (functionPlace inMethod) _) _ = _
  rw [hexpression]

/-- A statement that calls a method of a variable is read as soon as the arguments
are. -/
theorem statement_method {t : Token} {name : String} (ht : t.Names name) (method : String)
    (b₁ b₂ b₃ b₄ b₅ : Bool) {arguments : List (Tree Node)} {rest : List Lexeme}
    (h : callArguments (grammar k) (functionPlace inMethod) ts = .ok (arguments, ⟨.mark .semicolon, b₅⟩ :: rest)) :
    grammar (k + 2) .statement (functionPlace inMethod)
        (⟨t, b₁⟩ :: ⟨.mark .dot, b₂⟩ :: ⟨.name method, b₃⟩ :: ⟨.mark .leftParen, b₄⟩ :: ts) =
      .ok (statementNode (callNode false (propertyNode (identifierNode name) method) arguments),
        rest) := by
  have hread := leftHandSide_method (grammar k) inMethod ts ht method b₁ b₂ b₃ b₄
  rw [h] at hread
  have hends : EndsExpression (leftHandSide (grammar k) (functionPlace inMethod)
      (⟨t, b₁⟩ :: ⟨.mark .dot, b₂⟩ :: ⟨.name method, b₃⟩ :: ⟨.mark .leftParen, b₄⟩ :: ts)) := by
    rw [hread]
    exact EndsExpression.semicolon ..
  rw [statement_member ht b₁ b₂ hends, hread]
  rfl

/-- A fault in the arguments is one of the statement. -/
theorem statement_method_fault {t : Token} {name : String} (ht : t.Names name) (method : String)
    (b₁ b₂ b₃ b₄ : Bool) {f : Fault}
    (h : callArguments (grammar k) (functionPlace inMethod) ts = .error f) :
    grammar (k + 2) .statement (functionPlace inMethod)
        (⟨t, b₁⟩ :: ⟨.mark .dot, b₂⟩ :: ⟨.name method, b₃⟩ :: ⟨.mark .leftParen, b₄⟩ :: ts) =
      .error f := by
  have hread := leftHandSide_method (grammar k) inMethod ts ht method b₁ b₂ b₃ b₄
  rw [h] at hread
  have hends : EndsExpression (leftHandSide (grammar k) (functionPlace inMethod)
      (⟨t, b₁⟩ :: ⟨.mark .dot, b₂⟩ :: ⟨.name method, b₃⟩ :: ⟨.mark .leftParen, b₄⟩ :: ts)) := by
    rw [hread]
    exact EndsExpression.error f
  rw [statement_member ht b₁ b₂ hends, hread]
  rfl

end Operands

/-! ### A function that is called at once -/

/-- The tokens before the statements of a function that is called at once. -/
def selfInvocation (b₁ b₂ b₃ b₄ b₅ : Bool) : List Lexeme :=
  [⟨.mark .leftParen, b₁⟩, ⟨.word .functionWord, b₂⟩, ⟨.mark .leftParen, b₃⟩,
    ⟨.mark .rightParen, b₄⟩, ⟨.mark .leftBrace, b₅⟩]

theorem leftHandSide_function (nested : Nested) (b₂ b₃ b₄ b₅ : Bool) (body : List Lexeme) :
    leftHandSide nested .script (⟨.word .functionWord, b₂⟩ :: ⟨.mark .leftParen, b₃⟩ ::
        ⟨.mark .rightParen, b₄⟩ :: ⟨.mark .leftBrace, b₅⟩ :: body) =
      Except.bind (functionBody nested (functionPlace false) true (⟨.mark .leftBrace, b₅⟩ :: body)) fun r =>
        suffixes nested .script true (r.2.length + 1) false (functionNode r.1) r.2 := by
  have hpart : functionPart nested (functionPlace false)
      (⟨.mark .leftParen, b₃⟩ :: ⟨.mark .rightParen, b₄⟩ :: ⟨.mark .leftBrace, b₅⟩ :: body) =
      Except.bind (functionBody nested (functionPlace false) true (⟨.mark .leftBrace, b₅⟩ :: body)) fun r =>
        .ok (.ofLabel (.functionPart false false) [r.1.fill .body], r.2) := rfl
  have hfunction : functionExpression nested .script false (⟨.word .functionWord, b₂⟩ ::
      ⟨.mark .leftParen, b₃⟩ :: ⟨.mark .rightParen, b₄⟩ :: ⟨.mark .leftBrace, b₅⟩ :: body) =
      Except.bind (functionPart nested (functionPlace false)
        (⟨.mark .leftParen, b₃⟩ :: ⟨.mark .rightParen, b₄⟩ :: ⟨.mark .leftBrace, b₅⟩ :: body))
        fun r => .ok (.ofLabel .functionExpression [r.1.fill .function], r.2) := rfl
  show Except.bind (functionExpression nested .script false (⟨.word .functionWord, b₂⟩ ::
    ⟨.mark .leftParen, b₃⟩ :: ⟨.mark .rightParen, b₄⟩ :: ⟨.mark .leftBrace, b₅⟩ :: body)) _ = _
  rw [hfunction, hpart]
  cases functionBody nested (functionPlace false) true (⟨.mark .leftBrace, b₅⟩ :: body) <;> rfl

theorem leftHandSide_parenthesis (nested : Nested) (b : Bool) (ts : List Lexeme) :
    leftHandSide nested .script (⟨.mark .leftParen, b⟩ :: ts) =
      Except.bind (nested .expression .script ts) fun r =>
        Except.bind (expect .rightParen r.2) fun q =>
          suffixes nested .script true (q.2.length + 1) false
            (.ofLabel .parenthesized [r.1.fill .expression]) q.2 := by
  have hprimary : primaryExpression nested .script (⟨.mark .leftParen, b⟩ :: ts) =
      Except.bind (nested .expression .script ts) fun r =>
        Except.bind (expect .rightParen r.2) fun q =>
          .ok (.ofLabel .parenthesized [r.1.fill .expression], q.2) := rfl
  show Except.bind (primaryExpression nested .script (⟨.mark .leftParen, b⟩ :: ts)) _ = _
  rw [hprimary]
  cases nested .expression .script ts with
  | error => rfl
  | ok r =>
    show Except.bind (Except.bind (expect .rightParen r.2) _) _ = Except.bind (expect .rightParen r.2) _
    cases expect .rightParen r.2 <;> rfl

/-- A script that begins with a function in parentheses is one expression if that
is all there is. -/
theorem readTokens_expression (b₁ b₂ : Bool) {ts : List Lexeme} {r : Except Fault (Tree Node)}
    (hdirective : ∀ e, r = .ok e → directive? (statementNode e) = none)
    (h : commaExpression (grammar (ts.length + 1)) .script
      (⟨.mark .leftParen, b₁⟩ :: ⟨.word .functionWord, b₂⟩ :: ts) = r.map fun e => (e, [])) :
    readTokens (⟨.mark .leftParen, b₁⟩ :: ⟨.word .functionWord, b₂⟩ :: ts) =
      r.map fun e => [statementNode e] := by
  have hstatement : grammar (ts.length + 3) .statement .script
      (⟨.mark .leftParen, b₁⟩ :: ⟨.word .functionWord, b₂⟩ :: ts) =
      r.map fun e => (statementNode e, []) := by
    show listedStatement (grammar (ts.length + 2)) .script
      (⟨.mark .leftParen, b₁⟩ :: ⟨.word .functionWord, b₂⟩ :: ts) = _
    rw [listedStatement_operand (Or.inr ⟨rfl, rfl⟩)]
    show Except.bind (commaExpression (grammar (ts.length + 1)) .script
      (⟨.mark .leftParen, b₁⟩ :: ⟨.word .functionWord, b₂⟩ :: ts)) _ = _
    rw [h]
    cases r <;> rfl
  have hdone : (pure (some (Token.mark .leftParen)).isNone : Parse Bool)
      (⟨.mark .leftParen, b₁⟩ :: ⟨.word .functionWord, b₂⟩ :: ts) =
      .ok (false, ⟨.mark .leftParen, b₁⟩ :: ⟨.word .functionWord, b₂⟩ :: ts) := rfl
  show Except.map _ (bodyStatements (grammar (ts.length + 3)) none true (ts.length + 3) true .script
    (⟨.mark .leftParen, b₁⟩ :: ⟨.word .functionWord, b₂⟩ :: ts)) = _
  rw [bodyStatements, bind_of_ok (peek_cons ..), bind_of_ok hdone]
  show Except.map _ ((grammar (ts.length + 3) .statement .script >>= _)
    (⟨.mark .leftParen, b₁⟩ :: ⟨.word .functionWord, b₂⟩ :: ts)) = _
  cases r with
  | ok e =>
    rw [bind_of_ok hstatement, hdirective e rfl]
    rfl
  | error f =>
    rw [bind_of_error hstatement]
    rfl

/-- What comes of the body of a function that is called at once at the end of a
text: its block and the marks after it, or a fault. -/
inductive EndsInvocation : Except Fault (Tree Node × List Lexeme) → Prop where
  | ok (block : Tree Node) (b b' b'' : Bool) :
    EndsInvocation
      (.ok (block, [⟨.mark .rightParen, b⟩, ⟨.mark .leftParen, b'⟩, ⟨.mark .rightParen, b''⟩]))
  | error (f : Fault) : EndsInvocation (.error f)

/-- A script that is a function called at once is read as soon as the body of the
function is. -/
theorem readTokens_selfInvocation (b₁ b₂ b₃ b₄ b₅ : Bool) {body : List Lexeme}
    (harrow : arrowNext (afterBracket 2 body) = false) {r : Except Fault (Tree Node × List Lexeme)}
    (hr : EndsInvocation r)
    (h : functionBody (grammar (body.length + 3)) (functionPlace false) true
      (⟨.mark .leftBrace, b₅⟩ :: body) = r) :
    readTokens (selfInvocation b₁ b₂ b₃ b₄ b₅ ++ body) =
      r.map fun q => [selfInvocationNode q.1] := by
  obtain ⟨function, hfunction⟩ : ∃ function, function = ⟨.word .functionWord, b₂⟩ ::
      ⟨.mark .leftParen, b₃⟩ :: ⟨.mark .rightParen, b₄⟩ :: ⟨.mark .leftBrace, b₅⟩ :: body :=
    ⟨_, rfl⟩
  have hinner := leftHandSide_function (grammar (body.length + 3)) b₂ b₃ b₄ b₅ body
  have hends : EndsExpression (leftHandSide (grammar (body.length + 3)) .script function) := by
    rw [hfunction, hinner, h]
    cases hr with
    | ok block b => exact EndsExpression.rightParen ..
    | error f => exact EndsExpression.error f
  have hexpression : commaExpression (grammar (body.length + 3)) .script function =
      leftHandSide (grammar (body.length + 3)) .script function := by
    rw [hfunction] at hends ⊢
    exact commaExpression_operand .function rfl rfl rfl hends
  have houter : leftHandSide (grammar (body.length + 4)) .script (⟨.mark .leftParen, b₁⟩ :: function) =
      r.map fun q => (callNode false (.ofLabel .parenthesized
        [(functionNode q.1).fill .expression]) [], []) := by
    rw [leftHandSide_parenthesis]
    show Except.bind (commaExpression (grammar (body.length + 3)) .script function) _ = _
    rw [hexpression, hfunction, hinner, h]
    cases hr <;> rfl
  have hends' : EndsExpression
      (leftHandSide (grammar (body.length + 4)) .script (⟨.mark .leftParen, b₁⟩ :: function)) := by
    rw [houter]
    cases hr with
    | ok block => exact EndsExpression.done _
    | error f => exact EndsExpression.error f
  have hpattern : arrowAhead? .script (⟨.mark .leftParen, b₁⟩ :: function) = none := by
    rw [hfunction]
    show (if arrowNext (afterBracket 2 body) = true then _ else _) = _
    rw [harrow]
    rfl
  have hread : readTokens (selfInvocation b₁ b₂ b₃ b₄ b₅ ++ body) =
      (r.map fun q => callNode false (.ofLabel .parenthesized
        [(functionNode q.1).fill .expression]) []).map fun e => [statementNode e] := by
    have hcomma : commaExpression (grammar (body.length + 4)) .script
        (⟨.mark .leftParen, b₁⟩ :: function) = _ :=
      commaExpression_operand .parenthesis rfl hpattern rfl hends'
    rw [houter, hfunction] at hcomma
    refine readTokens_expression b₁ b₂ (fun e he => ?_) (hcomma.trans ?_)
    · cases hr <;> cases he
      rfl
    · cases r <;> rfl
  rw [hread]
  cases r <;> rfl

/-- A script that is a function called at once fails as soon as the body of the
function does, if not before. -/
theorem readTokens_selfInvocation_fault (b₁ b₂ b₃ b₄ b₅ : Bool) {body : List Lexeme} {f : Fault}
    (h : functionBody (grammar (body.length + 3)) (functionPlace false) true
      (⟨.mark .leftBrace, b₅⟩ :: body) = .error f) :
    ∃ f', readTokens (selfInvocation b₁ b₂ b₃ b₄ b₅ ++ body) = .error f' := by
  cases harrow : arrowNext (afterBracket 2 body) with
  | false => exact ⟨f, readTokens_selfInvocation b₁ b₂ b₃ b₄ b₅ harrow (EndsInvocation.error f) h⟩
  | true =>
    -- as an arrow function, it has a parameter that is no pattern
    have hahead : arrowAhead? .script (selfInvocation b₁ b₂ b₃ b₄ b₅ ++ body) = some false := by
      show (if arrowNext (afterBracket 2 body) = true then _ else _) = _
      rw [harrow]
      rfl
    have hfault : commaExpression (grammar (body.length + 4)) .script
        (selfInvocation b₁ b₂ b₃ b₄ b₅ ++ body) =
        .error (.expected "identifier" (Token.word .functionWord).describe) := by
      exact bind_of_error (assignmentExpression_arrow rfl hahead)
    exact ⟨_, readTokens_expression b₁ b₂ (r := .error _) (fun e he => by cases he) hfault⟩

end Script

end HotReload
