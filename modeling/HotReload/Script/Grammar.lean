/-
# Reading syntax from tokens

A reader of syntax consumes tokens and gives a tree, or the fault that it met.
The readers of the language call each other through `Nested`, which stands for
all of them one level further in; `Place` says what surrounds the text that is
read.

Key definitions: `Parse`, `Place`, `Goal`, `Nested`, `unexpected`, `accept`,
`expect`, `untilMark`, `listUntil`, `afterBracket`, `Token.identifier?`.
-/
import HotReload.Script.Lexer
import HotReload.Tree.Node

namespace HotReload

namespace Script

/-- Reads from a list of tokens. -/
abbrev Parse (α : Type) : Type := StateT (List Lexeme) (Except Fault) α

/-- What surrounds a piece of syntax: strict code; a function, a generator, an
async function; something that `break` or `continue` can leave; the labels in
force, with those of loops marked; whether `in` is an operator here; and where
`super` and `new.target` may stand. -/
structure Place where
  strict : Bool
  inFunction : Bool
  generator : Bool
  async : Bool
  breakable : Bool
  loop : Bool
  labels : List (String × Bool)
  allowIn : Bool
  superMember : Bool
  superCall : Bool
deriving DecidableEq

namespace Place

/-- The outermost place of a script. -/
def script : Place := ⟨false, false, false, false, false, false, [], true, false, false⟩

/-- Inside the function of the given kind. -/
def function (p : Place) (async generator : Bool) : Place :=
  ⟨p.strict, true, generator, async, false, false, [], true, false, false⟩

/-- Inside a method of the given kind. -/
def method (p : Place) (async generator superCall : Bool) : Place :=
  ⟨p.strict, true, generator, async, false, false, [], true, true, superCall⟩

/-- Inside an arrow function, which shares `super` with its surroundings. -/
def arrow (p : Place) (async : Bool) : Place :=
  ⟨p.strict, true, false, async, false, false, [], p.allowIn, p.superMember, p.superCall⟩

/-- Inside the body of a loop. -/
def loopBody (p : Place) : Place := { p with breakable := true, loop := true }

/-- Where `in` is an operator. -/
def withIn (p : Place) : Place := { p with allowIn := true }

/-- Where `in` is no operator. -/
def withoutIn (p : Place) : Place := { p with allowIn := false }

end Place

/-- The readers that others call: of a statement in a list, of the single
statement of a loop, of a branch (where a function may be declared), of an
expression, of one without commas, of an operand with and without its unary
operators, of a pattern that binds names, of one that assigns to targets, and of what `new`
constructs. -/
inductive Goal where
  | statement
  | substatement
  | branch
  | expression
  | assignment
  | unary
  | operand
  | binding
  | target
  | constructed
deriving DecidableEq

/-- The readers of all goals. -/
abbrev Nested : Type := Goal → Place → Parse (Tree Node)

/-! ### Tokens -/

/-- The next token, if there is one. -/
def peek : Parse (Option Token) := return (← get).head?.map (·.token)

/-- The token after the next one, if there is one. -/
def peekSecond : Parse (Option Token) := return ((← get).drop 1).head?.map (·.token)

/-- Consumes the next token. -/
def advance : Parse Unit := modify (·.drop 1)

/-- A bound on the number of items that the tokens left can hold. -/
def budget : Parse Nat := return (← get).length + 1

/-- Fails because of the next token. A token that holds a fault fails with that
fault. -/
def unexpected {α : Type} (what : String) : Parse α := do
  match ← peek with
  | some (.invalid fault) => throw fault
  | some t => throw (.expected what t.describe)
  | none => throw (.expected what "end of text")

/-- Whether the next token is the mark `m`. -/
def nextIs (m : Mark) : Parse Bool := return (← peek) == some (.mark m)

/-- Whether the next token is the word `w`. -/
def nextIsWord (w : Word) : Parse Bool := return (← peek) == some (.word w)

/-- Consumes the mark `m` if it is next, and tells whether it was. -/
def accept (m : Mark) : Parse Bool := do
  if ← nextIs m then
    advance
    return true
  return false

/-- Consumes the word `w` if it is next, and tells whether it was. -/
def acceptWord (w : Word) : Parse Bool := do
  if ← nextIsWord w then
    advance
    return true
  return false

/-- Consumes the mark `m`, which must be next. -/
def expect (m : Mark) : Parse Unit := do
  unless ← accept m do unexpected m.text

/-- Consumes the word `w`, which must be next. -/
def expectWord (w : Word) : Parse Unit := do
  unless ← acceptWord w do unexpected w.text

/-- Whether a line ends before the next token. -/
def lineEndsHere : Parse Bool := return ((← get).head?.map (·.afterLineEnd)).getD true

/-- Whether a line ends before the token after the next one. -/
def lineEndsNext : Parse Bool := return (((← get).drop 1).head?.map (·.afterLineEnd)).getD true

/-- Reads the end of a statement: a semicolon, which can be left out before a
closing brace, at the end of a line and at the end of the text. -/
def semicolon : Parse Unit := do
  unless ← accept .semicolon do
    unless (← nextIs .rightBrace) || (← lineEndsHere) do unexpected ";"

/-! ### Lists -/

/-- Reads items up to a closing mark. The number bounds how many there are. -/
def untilMark {α : Type} (close : Mark) (item : Parse α) : Nat → Parse (List α)
  | 0 => throw .tooDeep
  | fuel + 1 => do
    if ← accept close then return []
    let x ← item
    let xs ← untilMark close item fuel
    return x :: xs

/-- Reads items with commas between them up to a closing mark; one more comma
may stand before it. The number bounds how many there are. -/
def listUntil {α : Type} (close : Mark) (item : Parse α) : Nat → Parse (List α)
  | 0 => throw .tooDeep
  | fuel + 1 => do
    if ← accept close then return []
    let x ← item
    if ← accept close then return [x]
    expect .comma
    let xs ← listUntil close item fuel
    return x :: xs

/-! ### Looking ahead -/

/-- Whether the token opens a bracket. -/
def Token.opens : Token → Bool
  | .mark .leftParen | .mark .leftBrace | .mark .leftBracket | .mark .templateBrace => true
  | _ => false

/-- Whether the token closes a bracket. -/
def Token.closes : Token → Bool
  | .mark .rightParen | .mark .rightBrace | .mark .rightBracket => true
  | _ => false

/-- The tokens after the bracket that closes the one at the front; the number
counts the brackets that are open. -/
def afterBracket : Nat → List Lexeme → List Lexeme
  | _, [] => []
  | depth, l :: ls =>
    if l.token.opens then afterBracket (depth + 1) ls
    else if l.token.closes then if depth ≤ 1 then ls else afterBracket (depth - 1) ls
    else afterBracket depth ls

/-- Whether an arrow is next, on the same line. -/
def arrowNext : List Lexeme → Bool
  | ⟨.mark .arrow, false⟩ :: _ => true
  | _ => false

/-! ### Names -/

/-- The name that a token is where names of variables stand. -/
def Token.identifier? (p : Place) : Token → Option String
  | .name text => some text
  | .word w =>
    if w.contextual then if w = .awaitWord ∧ p.async then none else some w.text
    else if w.reservedInStrictCode then
      if p.strict ∨ (w = .yieldWord ∧ p.generator) then none else some w.text
    else none
  | _ => none

/-- The name that a token is where names of properties stand. -/
def Token.propertyName? : Token → Option String
  | .name text => some text
  | .word w => some w.text
  | _ => none

/-- Whether strict code may not define or assign the name. -/
def isRestricted (name : String) : Bool := name == "eval" || name == "arguments"

/-- A resolved identifier in no particular scope. -/
def identifierNode (name : String) : Tree Node := .ofLabel (.identifier name) []

/-- Reads the name of a variable. -/
def identifier (p : Place) : Parse String := do
  match (← peek).bind (Token.identifier? p) with
  | some name =>
    advance
    return name
  | none => unexpected "identifier"

/-- Reads the name of a variable that is defined or assigned. -/
def definedName (p : Place) : Parse String := do
  let name ← identifier p
  if p.strict && isRestricted name then throw (.reservedInStrictCode name)
  return name

/-- The trees of an optional child. -/
def optionalChild (t : Option (Tree Node)) (f : Field) : List (Tree Node) :=
  (t.map (·.fill f)).toList

/-- The trees of a list of children. -/
def childrenOf (ts : List (Tree Node)) (f : Field) : List (Tree Node) := ts.map (·.fill f)

end Script

end HotReload
