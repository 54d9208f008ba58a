/-
# Functions and classes

Key definitions: `bodyStatements`, `functionBody`, `parameterList`,
`functionPart`, `arrowAhead`, `arrowFunction`, `functionExpression`,
`functionDeclaration`, `classMembers`, `classTail`.
-/
import HotReload.Script.Pattern

namespace HotReload

namespace Script

variable (nested : Nested)

/-! ### Bodies -/

/-- The source text of a statement that is nothing but a string. -/
def directive? (t : Tree Node) : Option String :=
  if t.label = .expressionStatement then
    match (t.child? .expression).map Tree.label with
    | some (.string _ raw) => raw
    | _ => none
  else none

/-- Whether a directive makes code strict. It must not be written with
escapes. -/
def isStrictDirective (raw : String) : Bool :=
  raw == "'use strict'" || raw == "\"use strict\""

/-- Reads statements up to the closing mark, or to the end of the text if there
is none. Strings at the beginning are directives: `leading` tells that nothing
else came before, and `simple` that the parameters allow strict code. The number
bounds how many statements there are. -/
def bodyStatements (close : Option Mark) (simple : Bool) :
    Nat → Bool → Place → Parse (List (Tree Node))
  | 0, _, _ => throw .tooDeep
  | fuel + 1, leading, p => do
    let done ←
      match close with
      | some m => accept m
      | none => pure (← peek).isNone
    if done then return []
    let s ← nested .statement p
    let text := if leading then directive? s else none
    let makesStrict := text.any isStrictDirective
    if makesStrict && !simple then throw .strictWithParameters
    let rest ← bodyStatements close simple fuel text.isSome
      (if makesStrict then { p with strict := true } else p)
    return s :: rest

/-- Reads the body of a function, braces included. -/
def functionBody (p : Place) (simple : Bool) : Parse (Tree Node) := do
  expect .leftBrace
  let body ← bodyStatements nested (some .rightBrace) simple (← budget) true p
  return .ofLabel .block (childrenOf body .statements)

/-- Reads parameters up to the closing parenthesis; a rest parameter is the
last. The number bounds how many there are. -/
def parameterList (p : Place) : Nat → Parse (List (Tree Node))
  | 0 => throw .tooDeep
  | fuel + 1 => do
    if ← accept .rightParen then return []
    if ← accept .ellipsis then return [← restElement nested .binding p .rightParen]
    let e ← patternElement nested .binding p
    if ← accept .rightParen then return [e]
    expect .comma
    let rest ← parameterList p fuel
    return e :: rest

/-- Whether all parameters are plain names. -/
def areSimple (parameters : List (Tree Node)) : Bool :=
  parameters.all fun t => t.label matches .identifier _

/-- The parameter nodes of patterns. -/
def parameterNodes (patterns : List (Tree Node)) : List (Tree Node) :=
  patterns.map fun t => Tree.fill (.ofLabel .parameter [t.fill .pattern]) .parameters

/-- Reads the parameters and the body of a function; `p` is the place inside
it. -/
def functionPart (p : Place) : Parse (Tree Node) := do
  expect .leftParen
  let parameters ← parameterList nested p (← budget)
  let body ← functionBody nested p (areSimple parameters)
  return .ofLabel (.functionPart p.async p.generator)
    (parameterNodes parameters ++ [body.fill .body])

/-! ### Arrow functions -/

/-- Whether the tokens begin an arrow function that is not async. -/
def plainArrowAhead (p : Place) : List Lexeme → Bool
  | l :: ls =>
    if l.token = .mark .leftParen then arrowNext (afterBracket 0 (l :: ls))
    else (l.token.identifier? p).isSome && arrowNext ls
  | [] => false

/-- Whether the tokens begin an arrow function; tells whether it is async. -/
def arrowAhead? (p : Place) : List Lexeme → Option Bool
  | ⟨.word .asyncWord, lineEnd⟩ :: ls =>
    if plainArrowAhead p (⟨.word .asyncWord, lineEnd⟩ :: ls) then some false
    else
      match ls with
      | ⟨_, false⟩ :: _ => if plainArrowAhead { p with async := false } ls then some true else none
      | _ => none
  | ls => if plainArrowAhead p ls then some false else none

/-- Reads an arrow function. -/
def arrowFunction (p : Place) (async : Bool) : Parse (Tree Node) := do
  if async then advance
  let inner := p.arrow async
  let outside := { inner.withIn with generator := p.generator }
  let parameters ←
    if ← accept .leftParen then parameterList nested outside (← budget)
    else pure [identifierNode (← definedName outside)]
  expect .arrow
  let body ←
    if ← nextIs .leftBrace then functionBody nested inner.withIn (areSimple parameters)
    else nested .assignment inner
  return .ofLabel (.arrow async false) (childrenOf parameters .parameters ++ [body.fill .body])

/-! ### Functions -/

/-- Reads a function after the word `async` if it is async, with or without a
name. -/
def functionExpression (p : Place) (async : Bool) : Parse (Tree Node) := do
  expectWord .functionWord
  let generator ← accept (.operator .mul)
  let inner := p.function async generator
  let name ←
    if ← nextIs .leftParen then pure none
    else pure (some (identifierNode (← definedName inner)))
  let part ← functionPart nested inner
  return .ofLabel .functionExpression (optionalChild name .name ++ [part.fill .function])

/-- Reads a function declaration after the word `async` if it is async. -/
def functionDeclaration (p : Place) (async : Bool) : Parse (Tree Node) := do
  expectWord .functionWord
  let generator ← accept (.operator .mul)
  let name ← definedName p
  let part ← functionPart nested (p.function async generator)
  return .ofLabel .functionDeclaration
    [(identifierNode name).fill .name, part.fill .function]

/-- Reads the parameter and the body of a setter. -/
def setterPart (p : Place) : Parse (Tree Node × Tree Node) := do
  expect .leftParen
  if ← nextIs .rightParen then throw .accessorParameters
  if ← nextIs .ellipsis then throw .accessorParameters
  let parameter ← patternElement nested .binding p
  if ← nextIs .comma then throw .accessorParameters
  expect .rightParen
  let body ← functionBody nested p (areSimple [parameter])
  return (parameter, body)

/-- Reads the body of a getter, which has no parameters. -/
def getterPart (p : Place) : Parse (Tree Node) := do
  expect .leftParen
  unless ← nextIs .rightParen do throw .accessorParameters
  expect .rightParen
  functionBody nested p true

/-! ### Classes -/

/-- What stands before the key of a member, `static` apart. -/
structure Modifiers where
  async : Bool
  generator : Bool
  kind : MethodKind
deriving DecidableEq

/-- Whether the token can begin the key of a property. -/
def Token.startsKey : Token → Bool
  | .mark .leftBracket | .privateName _ | .string _ _ _ | .number _ _ _ | .bigInt _ _ => true
  | t => t.propertyName?.isSome

/-- Consumes the word `w` if it is next and a key follows it, so that the word is
not itself the key; `sameLine` asks for the key to stand on its line, and
`starred` lets a star stand before it. -/
def acceptModifier (w : Word) (sameLine starred : Bool) : Parse Bool := do
  let followed :=
    match ← peekSecond with
    | some t => t.startsKey || (starred && t == .mark (.operator .mul))
    | none => false
  if (← nextIsWord w) && followed && !(sameLine && (← lineEndsNext)) then
    advance
    return true
  return false

/-- Reads the modifiers of a member. -/
def modifiers : Parse Modifiers := do
  let async ← acceptModifier .asyncWord true true
  let generator ← accept (.operator .mul)
  if async || generator then return ⟨async, generator, .method⟩
  if ← acceptModifier .getWord false false then return ⟨false, false, .getter⟩
  if ← acceptModifier .setWord false false then return ⟨false, false, .setter⟩
  return ⟨false, false, .method⟩

/-- Reads the key of a member of a class; tells whether it is private. -/
def memberKey (p : Place) : Parse (Tree Node × Bool) := do
  match ← peek with
  | some (.privateName name) =>
    advance
    return (.ofLabel (.privateName name) [], true)
  | _ => return (← propertyKey nested p, false)

/-- Whether the key names the constructor. -/
def isConstructorKey (key : Tree Node) : Bool :=
  match key.label with
  | .propertyName name => name == "constructor"
  | .string value _ => value == "constructor"
  | _ => false

/-- Reads a method of a class after its key; an accessor is a function with the
parameters that its kind asks for. -/
def methodPart (p : Place) (m : Modifiers) : Parse (Tree Node) := do
  match m.kind with
  | .method => functionPart nested (p.method m.async m.generator false)
  | .getter =>
    let body ← getterPart nested (p.method false false false)
    return .ofLabel (.functionPart false false) [body.fill .body]
  | .setter =>
    let (parameter, body) ← setterPart nested (p.method false false false)
    return .ofLabel (.functionPart false false) (parameterNodes [parameter] ++ [body.fill .body])

/-- Reads a member of a class; `derived` tells that the class has a heritage, so
that its constructor can call the one it inherits. -/
def classMember (p : Place) (derived : Bool) : Parse (Tree Node) := do
  if ← accept .semicolon then return .ofLabel .emptyStatement []
  if (← nextIsWord .staticWord) && (← peekSecond) == some (.mark .leftBrace) then
    advance
    expect .leftBrace
    let body ← bodyStatements nested (some .rightBrace) true (← budget) false
      (p.method false false false)
    return .ofLabel .staticBlock
      [Tree.fill (.ofLabel .block (childrenOf body .statements)) .body]
  let static ← acceptModifier .staticWord false true
  let m ← modifiers
  let (key, isPrivate) ← memberKey nested p
  if ← nextIs .leftParen then
    if isConstructorKey key && !static then
      if m.async || m.generator || m.kind != .method then throw .specialConstructor
      let inner := p.method false false derived
      expect .leftParen
      let parameters ← parameterList nested inner (← budget)
      let body ← functionBody nested inner (areSimple parameters)
      return .ofLabel .constructorMember
        (key.fill .key :: (parameterNodes parameters ++ [body.fill .body]))
    let part ← methodPart nested p m
    return .ofLabel
      (if isPrivate then .privateMethod m.kind static else .classMethod m.kind static)
      [key.fill .key, part.fill .function]
  if m.async || m.generator || m.kind != .method then unexpected "("
  if isConstructorKey key then throw .specialConstructor
  let value ←
    if ← accept .assign then some <$> nested .assignment (p.method false false false)
    else pure none
  semicolon
  return .ofLabel (if isPrivate then .privateProperty static else .classProperty static)
    (key.fill .key :: optionalChild value .value)

/-- Reads a class after the word `class` and its name. Its code is strict, and
it has one constructor at most. -/
def classTail (label : Label) (name : Option (Tree Node)) (p : Place) :
    Parse (Tree Node) := do
  let p := { p with strict := true }
  let heritage ← if ← acceptWord .extendsWord then some <$> nested .operand p else pure none
  expect .leftBrace
  let members ← untilMark .rightBrace (classMember nested p.withIn heritage.isSome) (← budget)
  if 1 < members.countP (·.label == .constructorMember) then throw .repeatedConstructor
  return .ofLabel label
    (optionalChild name .name ++ childrenOf members .members ++ optionalChild heritage .heritage)

end Script

end HotReload
