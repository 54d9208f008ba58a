/-
# Statements

Key definitions: `declarators`, `forStatement`, `switchCases`, `tryStatement`,
`labeledStatement`, `plainStatement`, `listedStatement`, `branchStatement`.
-/
import HotReload.Script.Expression

namespace HotReload

namespace Script

variable (nested : Nested)

/-! ### Declarations -/

/-- Reads a declarator. Constants and patterns need an initializer, except in the
head of a loop over a collection, which `head` tells. -/
def declarator (p : Place) (kind : VariableKind) (head : Bool) : Parse (Tree Node) := do
  if kind != .functionScoped && (← nextIsWord .letWord) then throw .lexicalLet
  let target ← bindingTarget nested p
  if ← accept .assign then
    let value ← nested .assignment p
    return .ofLabel .declarator [target.fill .pattern, value.fill .initializer]
  let inLoop := head && ((← nextIsWord .ofWord) || (← nextIsWord .inWord))
  unless inLoop do
    if kind == .constant || !(target.label matches .identifier _) then throw .missingInitializer
  return .ofLabel .declarator [target.fill .pattern]

/-- Reads further declarators after commas. The number bounds how many there
are. -/
def moreDeclarators (p : Place) (kind : VariableKind) : Nat → Parse (List (Tree Node))
  | 0 => throw .tooDeep
  | fuel + 1 => do
    if ← accept .comma then
      let d ← declarator nested p kind false
      let rest ← moreDeclarators p kind fuel
      return d :: rest
    return []

/-- Reads the declarators of a declaration after its keyword. -/
def declarators (p : Place) (kind : VariableKind) (head : Bool) : Parse (Tree Node) := do
  let first ← declarator nested p kind head
  let rest ← moreDeclarators nested p kind (← budget)
  return .ofLabel (.variableDeclaration kind) (childrenOf (first :: rest) .declarators)

/-- Whether the token after the word `let` makes it begin a declaration. -/
def Token.followsLet : Token → Bool
  | .mark .leftBracket | .mark .leftBrace | .name _ => true
  | .word w => !w.reserved
  | _ => false

/-- The kind of declaration that begins here, if one does. -/
def declarationKind? : Parse (Option VariableKind) := do
  match ← peek with
  | some (.word .varWord) => return some .functionScoped
  | some (.word .constWord) => return some .constant
  | some (.word .letWord) =>
    return if (← peekSecond).any Token.followsLet then some .blockScoped else none
  | _ => return none

/-! ### Blocks -/

/-- Reads a block. -/
def block (p : Place) : Parse (Tree Node) := do
  expect .leftBrace
  let body ← untilMark .rightBrace (nested .statement p) (← budget)
  return .ofLabel .block (childrenOf body .statements)

/-- Reads an expression in parentheses, as the test of a statement. -/
def test (p : Place) : Parse (Tree Node) := do
  expect .leftParen
  let e ← nested .expression p.withIn
  expect .rightParen
  return e

/-! ### Loops -/

/-- Reads the rest of a loop with three parts in its head, after the first. -/
def countingLoop (p : Place) (initializer : Option (Tree Node)) : Parse (Tree Node) := do
  expect .semicolon
  let condition ←
    if ← nextIs .semicolon then pure none else some <$> nested .expression p.withIn
  expect .semicolon
  let update ←
    if ← nextIs .rightParen then pure none else some <$> nested .expression p.withIn
  expect .rightParen
  let body ← nested .substatement p.loopBody
  return .ofLabel .forStatement
    (optionalChild initializer .initializer ++ optionalChild condition .test ++
      optionalChild update .update ++ [body.fill .statement])

/-- Reads the rest of a loop over a collection, after what is bound in each
turn. -/
def collectionLoop (p : Place) (left : Tree Node) (awaited : Bool) : Parse (Tree Node) := do
  if ← acceptWord .ofWord then
    let right ← nested .assignment p.withIn
    expect .rightParen
    let body ← nested .substatement p.loopBody
    return .ofLabel (.forOfStatement awaited)
      [left.fill .left, right.fill .right, body.fill .statement]
  if awaited then unexpected "of"
  expectWord .inWord
  let right ← nested .expression p.withIn
  expect .rightParen
  let body ← nested .substatement p.loopBody
  return .ofLabel .forInStatement [left.fill .left, right.fill .right, body.fill .statement]

/-- Whether `of` or `in` is next. -/
def overNext : Parse Bool := return (← nextIsWord .ofWord) || (← nextIsWord .inWord)

/-- Whether a declaration can be the left side of a loop over a collection: it
has one declarator, which has an initializer only if `initialized` allows it. -/
def isLoopHead (initialized : Bool) (declaration : Tree Node) : Bool :=
  match declaration.children.toList with
  | [d] => initialized || (d.child? .initializer).isNone
  | _ => false

/-- Whether the token follows a pattern that is the left side of a loop over a
collection. -/
def Token.followsLoopPattern : Token → Bool
  | .word .ofWord | .word .inWord => true
  | _ => false

/-- Reads a `for` loop after its keyword. -/
def forStatement (p : Place) : Parse (Tree Node) := do
  let awaited ← if p.async then acceptWord .awaitWord else pure false
  expect .leftParen
  if (← nextIs .semicolon) && !awaited then return ← countingLoop nested p none
  match ← declarationKind? with
  | some kind =>
    advance
    let d ← declarators nested p.withoutIn kind true
    if ← overNext then
      let initialized := !p.strict && (← nextIsWord .inWord)
      unless isLoopHead initialized d do throw .loopInitializer
      collectionLoop nested p d awaited
    else countingLoop nested p (some d)
  | none =>
    if startsPattern Token.followsLoopPattern (← get) then
      let left ← targetPattern nested p
      collectionLoop nested p left awaited
    else
      let e ← nested .expression p.withoutIn
      if ← overNext then
        unless isTarget p e do throw .invalidTarget
        collectionLoop nested p e awaited
      else countingLoop nested p (some e)

/-- Reads a `while` loop after its keyword. -/
def whileStatement (p : Place) : Parse (Tree Node) := do
  let condition ← test nested p
  let body ← nested .substatement p.loopBody
  return .ofLabel .whileStatement [condition.fill .test, body.fill .statement]

/-- Reads a loop with its test at the end, after its keyword. A semicolon can
always be left out after it. -/
def doWhileStatement (p : Place) : Parse (Tree Node) := do
  let body ← nested .substatement p.loopBody
  expectWord .whileWord
  let condition ← test nested p
  let _ ← accept .semicolon
  return .ofLabel .doWhileStatement [condition.fill .test, body.fill .statement]

/-! ### Branches -/

/-- Reads a condition after its keyword. -/
def ifStatement (p : Place) : Parse (Tree Node) := do
  let condition ← test nested p
  let thenBranch ← nested .branch p
  let elseBranch ←
    if ← acceptWord .elseWord then some <$> nested .branch p else pure none
  return .ofLabel .ifStatement
    ([condition.fill .test, thenBranch.fill .thenBranch] ++ optionalChild elseBranch .elseBranch)

/-- Reads the statements of a case. The number bounds how many there are. -/
def caseStatements (p : Place) : Nat → Parse (List (Tree Node))
  | 0 => throw .tooDeep
  | fuel + 1 => do
    if (← nextIsWord .caseWord) || (← nextIsWord .defaultWord) || (← nextIs .rightBrace) then
      return []
    let s ← nested .statement p
    let rest ← caseStatements p fuel
    return s :: rest

/-- Reads a case of a `switch`. -/
def switchCase (p : Place) : Parse (Tree Node) := do
  let value ←
    if ← acceptWord .caseWord then some <$> nested .expression p.withIn
    else do
      expectWord .defaultWord
      pure none
  expect .colon
  let body ← caseStatements nested p (← budget)
  return .ofLabel .switchCase (optionalChild value .test ++ childrenOf body .statements)

/-- Reads a `switch` after its keyword. -/
def switchStatement (p : Place) : Parse (Tree Node) := do
  let discriminant ← test nested p
  expect .leftBrace
  let cases ← untilMark .rightBrace (switchCase nested { p with breakable := true }) (← budget)
  if 1 < cases.countP (fun c => (c.child? .test).isNone) then throw .repeatedDefault
  return .ofLabel .switchStatement (discriminant.fill .discriminant :: childrenOf cases .cases)

/-! ### Leaving -/

/-- Reads the label that a jump names, if it names one on its line. -/
def jumpLabel (p : Place) : Parse (Option String) := do
  if ← lineEndsHere then return none
  match (← peek).bind (Token.identifier? p) with
  | some name =>
    advance
    return some name
  | none => return none

/-- The tree of a jump. -/
def jumpNode (label : Label) (target : Option String) : Tree Node :=
  .ofLabel label (optionalChild (target.map identifierNode) .labelName)

/-- Reads a `break` after its keyword. -/
def breakStatement (p : Place) : Parse (Tree Node) := do
  let target ← jumpLabel p
  match target with
  | some name => unless p.labels.any (·.1 == name) do throw (.unknownLabel name)
  | none => unless p.breakable do throw .misplacedBreak
  semicolon
  return jumpNode .breakStatement target

/-- Reads a `continue` after its keyword. -/
def continueStatement (p : Place) : Parse (Tree Node) := do
  let target ← jumpLabel p
  match target with
  | some name => unless p.labels.contains (name, true) do throw (.unknownLabel name)
  | none => unless p.loop do throw .misplacedContinue
  semicolon
  return jumpNode .continueStatement target

/-- Reads a `return` after its keyword. -/
def returnStatement (p : Place) : Parse (Tree Node) := do
  unless p.inFunction do throw .misplacedReturn
  if (← lineEndsHere) || (← nextIs .semicolon) || (← nextIs .rightBrace) then
    semicolon
    return .ofLabel .returnStatement []
  let e ← nested .expression p.withIn
  semicolon
  return .ofLabel .returnStatement [e.fill .argument]

/-- Reads a `throw` after its keyword. -/
def throwStatement (p : Place) : Parse (Tree Node) := do
  if ← lineEndsHere then unexpected "expression on the line of throw"
  let e ← nested .expression p.withIn
  semicolon
  return .ofLabel .throwStatement [e.fill .argument]

/-- Reads the handler of a `try` after its keyword. -/
def catchClause (p : Place) : Parse (Tree Node) := do
  let parameter ←
    if ← accept .leftParen then do
      let t ← bindingTarget nested p
      expect .rightParen
      pure (some t)
    else pure none
  let body ← block nested p
  return .ofLabel .catchClause (optionalChild parameter .parameter ++ [body.fill .body])

/-- Reads a `try` after its keyword; a handler, a finalizer or both follow. -/
def tryStatement (p : Place) : Parse (Tree Node) := do
  let body ← block nested p
  let handler ←
    if ← acceptWord .catchWord then some <$> catchClause nested p else pure none
  let finalizer ←
    if ← acceptWord .finallyWord then some <$> block nested p else pure none
  if handler.isNone && finalizer.isNone then unexpected "catch"
  return .ofLabel .tryStatement
    (body.fill .block :: (optionalChild handler .handler ++ optionalChild finalizer .finalizer))

/-! ### Other statements -/

/-- Reads a `with` after its keyword. -/
def withStatement (p : Place) : Parse (Tree Node) := do
  if p.strict then throw .withInStrictCode
  let object ← test nested p
  let body ← nested .substatement p
  return .ofLabel .withStatement [object.fill .object, body.fill .statement]

/-- Whether a loop is next, after any labels. -/
def loopNext (p : Place) : List Lexeme → Bool
  | ⟨.word .forWord, _⟩ :: _ | ⟨.word .whileWord, _⟩ :: _ | ⟨.word .doWord, _⟩ :: _ => true
  | l :: ⟨.mark .colon, _⟩ :: ls => (l.token.identifier? p).isSome && loopNext p ls
  | _ => false

/-- Reads a statement with a label. -/
def labeledStatement (p : Place) (name : String) : Parse (Tree Node) := do
  advance
  advance
  if p.labels.any (·.1 == name) then throw (.repeatedLabel name)
  let isLoop := loopNext p (← get)
  let body ← nested .branch { p with labels := (name, isLoop) :: p.labels }
  return .ofLabel .labeledStatement
    [(identifierNode name).fill .labelName, body.fill .statement]

/-- Reads a statement that begins with an expression: a label, or an expression
as a statement. -/
def expressionStatement (p : Place) : Parse (Tree Node) := do
  let label ←
    if (← peekSecond) == some (.mark .colon) then pure ((← peek).bind (Token.identifier? p))
    else pure none
  match label with
  | some name => labeledStatement nested p name
  | none =>
    let e ← nested .expression p.withIn
    semicolon
    return .ofLabel .expressionStatement [e.fill .expression]

/-- Whether an async function is next. -/
def asyncFunctionNext : Parse Bool :=
  return (← nextIsWord .asyncWord) && (← peekSecond) == some (.word .functionWord) &&
    !(← lineEndsNext)

/-- Reads a statement that declares nothing in the block it stands in, except
for `var`. -/
def plainStatement (p : Place) : Parse (Tree Node) := do
  match ← peek with
  | some (.mark .leftBrace) => block nested p
  | some (.mark .semicolon) =>
    advance
    return .ofLabel .emptyStatement []
  | some (.word w) =>
    match w with
    | .varWord =>
      advance
      let d ← declarators nested p.withIn .functionScoped false
      semicolon
      return d
    | .ifWord =>
      advance
      ifStatement nested p
    | .forWord =>
      advance
      forStatement nested p
    | .whileWord =>
      advance
      whileStatement nested p
    | .doWord =>
      advance
      doWhileStatement nested p
    | .continueWord =>
      advance
      continueStatement p
    | .breakWord =>
      advance
      breakStatement p
    | .returnWord =>
      advance
      returnStatement nested p
    | .withWord =>
      advance
      withStatement nested p
    | .switchWord =>
      advance
      switchStatement nested p
    | .throwWord =>
      advance
      throwStatement nested p
    | .tryWord =>
      advance
      tryStatement nested p
    | .debuggerWord =>
      advance
      semicolon
      return .ofLabel .debuggerStatement []
    | .exportWord => throw .misplacedImport
    | .importWord =>
      if (← peekSecond) == some (.mark .leftParen) then expressionStatement nested p
      else throw .misplacedImport
    | _ => expressionStatement nested p
  | _ => expressionStatement nested p

/-- Reads a statement of a list, declarations included. -/
def listedStatement (p : Place) : Parse (Tree Node) := do
  if ← nextIsWord .functionWord then return ← functionDeclaration nested p false
  if ← asyncFunctionNext then
    advance
    return ← functionDeclaration nested p true
  if ← acceptWord .classWord then
    let name ← definedName { p with strict := true }
    return ← classTail nested .classDeclaration (some (identifierNode name)) p
  match ← declarationKind? with
  | some kind =>
    advance
    let d ← declarators nested p.withIn kind false
    semicolon
    return d
  | none => plainStatement nested p

/-- Reads the single statement that a loop governs. -/
def substatement (p : Place) : Parse (Tree Node) := do
  if (← nextIsWord .functionWord) || (← nextIsWord .classWord) || (← nextIsWord .constWord) then
    throw .misplacedDeclaration
  if ← asyncFunctionNext then throw .misplacedDeclaration
  if (← nextIsWord .letWord) && (← peekSecond) == some (.mark .leftBracket) then
    throw .misplacedDeclaration
  plainStatement nested p

/-- Reads the single statement of a branch or after a label, where code that is
not strict may declare a function. -/
def branchStatement (p : Place) : Parse (Tree Node) := do
  if (← nextIsWord .functionWord) && !p.strict &&
      (← peekSecond) != some (.mark (.operator .mul)) then
    functionDeclaration nested p false
  else substatement nested p

end Script

end HotReload
