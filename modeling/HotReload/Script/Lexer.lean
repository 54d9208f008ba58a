/-
# The tokens of a text

A slash divides or begins a regular expression, and a closing brace ends a
block or the expression inside a template. Which it is follows from the tokens
before: the lexer keeps a stack of what is open and whether an operand may
follow.

Key definitions: `Nesting`, `Expectation`, `Expectation.after`, `skipTrivia`,
`readToken`, `lexemes`, `tokenize`.
-/
import HotReload.Script.Literal

namespace HotReload

namespace Script

/-! ### Blanks and comments -/

/-- Whether the character is a blank that ends no line. -/
def isSpace (c : Char) : Bool :=
  c == ' ' || c == '\t' || c == '\x0b' || c == '\x0c' || c.toNat == 0xa0 || c.toNat == 0xfeff ||
    c.toNat == 0x1680 || (0x2000 ≤ c.toNat && c.toNat ≤ 0x200a) || c.toNat == 0x202f ||
    c.toNat == 0x205f || c.toNat == 0x3000

/-- Where a text between tokens is: outside of comments, in one that ends with
the line, or in one that ends with its own mark. -/
inductive TriviaMode where
  | code
  | line
  | block
deriving DecidableEq

/-- Skips blanks and comments; tells whether a line ended before the text that
is left. The comment marks of markup count: the closing one only where nothing
but comments stands before it on the line. -/
def skipTrivia : TriviaMode → Bool → List Char → Except Fault (List Char × Bool)
  | .code, lineEnd, '/' :: '/' :: cs => skipTrivia .line lineEnd cs
  | .code, lineEnd, '/' :: '*' :: cs => skipTrivia .block lineEnd cs
  | .code, lineEnd, '<' :: '!' :: '-' :: '-' :: cs => skipTrivia .line lineEnd cs
  | .code, true, '-' :: '-' :: '>' :: cs => skipTrivia .line true cs
  | .code, lineEnd, c :: cs =>
    if isLineEnd c then skipTrivia .code true cs
    else if isSpace c then skipTrivia .code lineEnd cs
    else .ok (c :: cs, lineEnd)
  | .line, lineEnd, c :: cs =>
    if isLineEnd c then skipTrivia .code true cs else skipTrivia .line lineEnd cs
  | .block, lineEnd, '*' :: '/' :: cs => skipTrivia .code lineEnd cs
  | .block, lineEnd, c :: cs => skipTrivia .block (lineEnd || isLineEnd c) cs
  | .block, _, [] => .error .unterminatedComment
  | _, lineEnd, [] => .ok ([], lineEnd)

/-! ### What may follow -/

/-- What is open around a token. -/
inductive Nesting where
  | statementBrace
  | expressionBrace
  | templateBrace
  | statementParen
  | expressionParen
  | template
  | functionStatement
  | functionExpression
deriving DecidableEq

namespace Nesting

/-- Whether what is open is an operand once it is closed. -/
def isOperand : Nesting → Bool
  | expressionBrace | expressionParen | template | functionExpression => true
  | _ => false

/-- Whether the body of a function or class is to be opened. -/
def isFunction : Nesting → Bool
  | functionStatement | functionExpression => true
  | _ => false

end Nesting

/-- Whether an operand may follow a token, whatever is open. -/
def Token.beforeOperand : Token → Bool
  | .mark m =>
    match m with
    | .rightParen | .rightBrace | .rightBracket | .dot | .optionalDot | .backquote | .increment
    | .decrement | .atSign => false
    | _ => true
  | .word w =>
    match w with
    | .caseWord | .defaultWord | .doWord | .elseWord | .returnWord | .throwWord | .newWord
    | .extendsWord | .inWord | .instanceofWord | .typeofWord | .voidWord | .deleteWord
    | .awaitWord | .yieldWord => true
    | _ => false
  | _ => false

/-- Whether a token is a name to the grammar of tokens. -/
def Token.isName : Token → Bool
  | .name _ => true
  | .word w => !w.reserved
  | _ => false

/-- What the tokens so far say about the next one: what is open, innermost
first, whether an operand may follow, and the last token. -/
structure Expectation where
  nesting : List Nesting
  operand : Bool
  last : Option Token
deriving DecidableEq

namespace Expectation

/-- What is expected at the start of a text. -/
def start : Expectation := ⟨[.statementBrace], true, none⟩

/-- The innermost thing that is open. -/
def innermost (e : Expectation) : Nesting := e.nesting.headD .statementBrace

/-- Whether an opening brace begins a block, and not an object. -/
def opensBlock (e : Expectation) (afterLineEnd : Bool) : Bool :=
  if e.innermost.isFunction then true
  else
    match e.last with
    | none => true
    | some (.mark .colon) =>
      match e.innermost with
      | .statementBrace => true
      | .expressionBrace => false
      | _ => !e.operand
    | some (.word .returnWord) => afterLineEnd
    | some (.word .elseWord) | some (.mark .semicolon) | some (.mark .rightParen)
    | some (.mark .arrow) => true
    | some (.mark .leftBrace) => e.innermost == .statementBrace
    | some (.word .varWord) | some (.word .constWord) => false
    | some t => if t.isName then e.operand && afterLineEnd else !e.operand

/-- Whether the word `function` or `class` begins an operand, and not a
declaration. -/
def opensFunctionExpression (e : Expectation) (afterLineEnd : Bool) : Bool :=
  match e.last with
  | none => false
  | some t =>
    t.beforeOperand &&
      match t with
      | .word .elseWord => false
      | .mark .semicolon => e.innermost == .statementParen
      | .word .returnWord => !afterLineEnd
      | .mark .colon | .mark .leftBrace => e.innermost != .statementBrace
      | _ => true

/-- What is open, and whether an operand may follow, after a closing parenthesis
or brace. -/
def close (e : Expectation) : List Nesting × Bool :=
  match e.nesting with
  | .statementBrace :: outer :: rest =>
    if outer.isFunction then (rest, !outer.isOperand) else (outer :: rest, true)
  | inner :: outer :: rest => (outer :: rest, !inner.isOperand)
  | nesting => (nesting, true)

/-- What is expected after one more token. -/
def after (e : Expectation) (t : Token) (afterLineEnd : Bool) : Expectation :=
  let afterDot := e.last == some (.mark .dot) || e.last == some (.mark .optionalDot)
  let (nesting, operand) :=
    match t with
    | .mark .rightParen | .mark .rightBrace => e.close
    | .mark .leftBrace =>
      ((if e.opensBlock afterLineEnd then Nesting.statementBrace else .expressionBrace) ::
        e.nesting, true)
    | .mark .templateBrace => (.templateBrace :: e.nesting, true)
    | .mark .leftParen =>
      let statement :=
        match e.last with
        | some (.word .ifWord) | some (.word .forWord) | some (.word .withWord)
        | some (.word .whileWord) => true
        | _ => false
      ((if statement then Nesting.statementParen else .expressionParen) :: e.nesting, true)
    | .mark .increment | .mark .decrement => (e.nesting, e.operand)
    | .mark .backquote =>
      (if e.innermost == .template then e.nesting.drop 1 else .template :: e.nesting, false)
    | .mark .colon => (if e.innermost.isFunction then e.nesting.drop 1 else e.nesting, true)
    | .word .functionWord | .word .classWord =>
      if afterDot then (e.nesting, false)
      else
        ((if e.opensFunctionExpression afterLineEnd then Nesting.functionExpression
          else .functionStatement) :: e.nesting, false)
    | .word .ofWord => (e.nesting, !afterDot && !e.operand)
    | .word w => (e.nesting, !afterDot && (Token.word w).beforeOperand)
    | t => (e.nesting, t.beforeOperand)
  ⟨nesting, operand, some t⟩

end Expectation

/-! ### Tokens -/

/-- Reads punctuation. A question mark and a dot before a digit are two marks'
worth of something else: a condition and a number. -/
def readMark (c : Char) (text : List Char) : Except Fault (Token × List Char) :=
  match (Mark.startingWith c).find? (·.1.isPrefixOf text) with
  | some (tail, m) =>
    if m = .optionalDot ∧ ((text.drop 1).head?).any Char.isDigit then
      .ok (.mark .question, text)
    else .ok (.mark m, text.drop tail.length)
  | none => .error (.unexpectedCharacter c)

/-- Reads a token where nothing but a part of a template can stand. -/
def readTemplatePart (text : List Char) : Except Fault (Token × List Char) :=
  match text with
  | '\x60' :: rest => .ok (.mark .backquote, rest)
  | '$' :: '\x7b' :: rest => .ok (.mark .templateBrace, rest)
  | text => readTemplateText text

/-- Reads the token at the front of a text that begins with the character `c`;
`operand` tells whether an operand may stand here. -/
def readToken (operand : Bool) (c : Char) (text : List Char) : Except Fault (Token × List Char) :=
  if c.isDigit || (c == '.' && text.head?.any Char.isDigit) then readNumber (c :: text)
  else if c = '\x22' ∨ c = '\x27' then readString c text
  else if isNameStart c || c == '\x5c' then readWord (c :: text)
  else if c = '#' ∧ text.head?.any isNameStart then
    (readName text).map fun (name, _, rest) => (.privateName name, rest)
  else if c = '/' ∧ operand then readRegExp text
  else readMark c text

/-- The tokens of a text, read with the given expectation; `lineEnd` tells
whether a line ends before the text. The first argument bounds their number:
every token has a character of its own. -/
def lexemes : Nat → Expectation → Bool → List Char → List Lexeme
  | 0, _, _, _ => []
  | fuel + 1, e, lineEnd, text =>
    if e.innermost = .template then
      match text with
      | [] => [⟨.invalid .unterminatedTemplate, false⟩]
      | text =>
        match readTemplatePart text with
        | .error f => [⟨.invalid f, false⟩]
        | .ok (t, rest) => ⟨t, false⟩ :: lexemes fuel (e.after t false) false rest
    else
      match skipTrivia .code lineEnd text with
      | .error f => [⟨.invalid f, false⟩]
      | .ok ([], _) => []
      | .ok (c :: text, afterLineEnd) =>
        match readToken e.operand c text with
        | .error f => [⟨.invalid f, afterLineEnd⟩]
        | .ok (t, rest) => ⟨t, afterLineEnd⟩ :: lexemes fuel (e.after t afterLineEnd) false rest

/-- The tokens of a text. If the text cannot be read to its end, the last one
holds the fault. -/
def tokenize (text : List Char) : List Lexeme := lexemes (text.length + 1) .start true text

end Script

end HotReload
