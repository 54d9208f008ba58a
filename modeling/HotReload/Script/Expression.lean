/-
# Expressions

Key definitions: `templateParts`, `arrayElements`, `objectProperty`,
`primaryExpression`, `suffixes`, `constructed`, `leftHandSide`,
`unaryExpression`, `binaryRest`, `conditional`, `assignmentExpression`,
`assignmentTarget`, `commaExpression`.
-/
import HotReload.Script.Function

namespace HotReload

namespace Script

variable (nested : Nested)

/-! ### Literals -/

/-- Reads a template after its opening mark: the expressions in it and the texts
around them, one more than there are expressions. A text that stands for
nothing is allowed only after a tag. The number bounds how many there are. -/
def templateParts (p : Place) (tagged : Bool) :
    Nat → Parse (List (Tree Node) × List (Tree Node))
  | 0 => throw .tooDeep
  | fuel + 1 => do
    let (cooked, raw) ←
      match ← peek with
      | some (.templateText cooked raw) =>
        advance
        pure (cooked, raw)
      | _ => pure (some "", "")
    if cooked.isNone && !tagged then throw .malformedEscape
    if ← accept .backquote then
      return ([], [.ofLabel (.templateElement true cooked raw) []])
    expect .templateBrace
    let e ← nested .expression p.withIn
    expect .rightBrace
    let (expressions, texts) ← templateParts p tagged fuel
    return (e :: expressions, .ofLabel (.templateElement false cooked raw) [] :: texts)

/-- Reads a template after its opening mark. -/
def template (p : Place) (tagged : Bool) : Parse (Tree Node) := do
  let (expressions, texts) ← templateParts nested p tagged (← budget)
  return .ofLabel .templateLiteral (childrenOf expressions .expressions ++ childrenOf texts .quasis)

/-- Reads an argument of a call or an element of an array. -/
def argumentNode (p : Place) : Parse (Tree Node) := do
  let spread := if ← accept .ellipsis then some Span.none else none
  let e ← nested .assignment p.withIn
  return .ofLabel (.argument spread) [e.fill .expression]

/-- Reads the elements of an array; a comma without an element before it leaves
a hole. The number bounds how many there are. -/
def arrayElements (p : Place) : Nat → Parse (List (Tree Node))
  | 0 => throw .tooDeep
  | fuel + 1 => do
    if ← accept .rightBracket then return []
    if ← accept .comma then
      let rest ← arrayElements p fuel
      return .ofLabel .hole [] :: rest
    let e ← argumentNode nested p
    if ← accept .rightBracket then return [e]
    expect .comma
    let rest ← arrayElements p fuel
    return e :: rest

/-- Reads a property of an object. -/
def objectProperty (p : Place) : Parse (Tree Node) := do
  if ← accept .ellipsis then
    let e ← nested .assignment p.withIn
    return .ofLabel (.spreadElement .none) [e.fill .argument]
  let m ← modifiers
  let shorthand := (← peek).bind (Token.identifier? p)
  let key ← propertyKey nested p
  match m.kind with
  | .getter =>
    let body ← getterPart nested (p.method false false false)
    return .ofLabel .getter [key.fill .key, body.fill .body]
  | .setter =>
    let (parameter, body) ← setterPart nested (p.method false false false)
    return .ofLabel .setter [key.fill .key, parameter.fill .parameter, body.fill .body]
  | .method =>
    if m.async || m.generator || (← nextIs .leftParen) then
      let part ← functionPart nested (p.method m.async m.generator false)
      return .ofLabel .method [key.fill .key, part.fill .function]
    if ← accept .colon then
      let value ← nested .assignment p.withIn
      return .ofLabel .keyValue [key.fill .key, value.fill .value]
    match shorthand with
    | some name => return identifierNode name
    | none => unexpected ":"

/-! ### Operands -/

/-- Reads the arguments of a call after their opening parenthesis. -/
def callArguments (p : Place) : Parse (List (Tree Node)) := do
  let arguments ← listUntil .rightParen (argumentNode nested p) (← budget)
  return childrenOf arguments .arguments

/-- Reads a class as an expression, after the word `class`. -/
def classExpression (p : Place) : Parse (Tree Node) := do
  let inner := { p with strict := true }
  let named := ((← peek).bind (Token.identifier? inner)).isSome
  let name ← if named then (some ∘ identifierNode) <$> definedName inner else pure none
  classTail nested .classExpression name p

/-- Reads an expression that is no operation: a literal, a name, a function, a
class, or an expression in parentheses. -/
def primaryExpression (p : Place) : Parse (Tree Node) := do
  match ← peek with
  | some (.mark .leftParen) =>
    advance
    let e ← nested .expression p.withIn
    expect .rightParen
    return .ofLabel .parenthesized [e.fill .expression]
  | some (.mark .leftBracket) =>
    advance
    let elements ← arrayElements nested p (← budget)
    return .ofLabel .array (childrenOf elements .elements)
  | some (.mark .leftBrace) =>
    advance
    let properties ← listUntil .rightBrace (objectProperty nested p) (← budget)
    return .ofLabel .object (childrenOf properties .properties)
  | some (.mark .backquote) =>
    advance
    template nested p false
  | some (.regExp pattern flags) =>
    advance
    return .ofLabel (.regExp pattern flags) []
  | some (.word .thisWord) =>
    advance
    return .ofLabel .this []
  | some (.word .nullWord) =>
    advance
    return .ofLabel .null []
  | some (.word .trueWord) =>
    advance
    return .ofLabel (.boolean true) []
  | some (.word .falseWord) =>
    advance
    return .ofLabel (.boolean false) []
  | some (.word .functionWord) => functionExpression nested p false
  | some (.word .classWord) =>
    advance
    classExpression nested p
  | some t =>
    if t = .word .asyncWord && (← peekSecond) == some (.word .functionWord) &&
        !(← lineEndsNext) then
      advance
      functionExpression nested p true
    else
      match literalNode? p t with
      | some r =>
        advance
        r
      | none =>
        match t.identifier? p with
        | some name =>
          advance
          return identifierNode name
        | none => unexpected "expression"
  | none => unexpected "expression"

/-- Reads the property of a member after a dot. -/
def dotProperty : Parse (Tree Node) := do
  match ← peek with
  | some (.privateName name) =>
    advance
    return .ofLabel (.privateName name) []
  | some t =>
    match t.propertyName? with
    | some name =>
      advance
      return .ofLabel (.propertyName name) []
    | none => unexpected "property name"
  | none => unexpected "property name"

/-- Reads the property of a member after an opening bracket. -/
def bracketProperty (p : Place) : Parse (Tree Node) := do
  let e ← nested .expression p.withIn
  expect .rightBracket
  return .ofLabel .computed [e.fill .expression]

/-- The tree of a member. -/
def memberNode (object property : Tree Node) : Tree Node :=
  .ofLabel .member [object.fill .object, property.fill .property]

/-- The tree as a link of an optional chain if it follows one. -/
def chained (chain optional : Bool) (t : Tree Node) : Tree Node :=
  if chain then .ofLabel (.optionalChain optional) [t.fill .base] else t

/-- The tree of a call. -/
def callNode (chain : Bool) (callee : Tree Node) (arguments : List (Tree Node)) : Tree Node :=
  .ofLabel (if chain then .optionalCall else .call) (callee.fill .callee :: arguments)

/-- Reads members, calls and templates that follow an operand. Calls and
optional links are left to others where `calls` is off; `chain` tells that an
optional link came before. The number bounds how many there are. -/
def suffixes (p : Place) (calls : Bool) : Nat → Bool → Tree Node → Parse (Tree Node)
  | 0, _, _ => throw .tooDeep
  | fuel + 1, chain, t => do
    match ← peek with
    | some (.mark .dot) =>
      advance
      let property ← dotProperty
      suffixes p calls fuel chain (chained chain false (memberNode t property))
    | some (.mark .leftBracket) =>
      advance
      let property ← bracketProperty nested p
      suffixes p calls fuel chain (chained chain false (memberNode t property))
    | some (.mark .leftParen) =>
      if calls then
        advance
        let arguments ← callArguments nested p
        suffixes p calls fuel chain (chained chain false (callNode chain t arguments))
      else return t
    | some (.mark .backquote) =>
      if chain then throw .optionalTemplate
      advance
      let quasi ← template nested p true
      suffixes p calls fuel chain
        (.ofLabel .taggedTemplate [t.fill .tag, quasi.fill .template])
    | some (.mark .optionalDot) =>
      if !calls then throw .optionalTarget
      advance
      match ← peek with
      | some (.mark .leftParen) =>
        advance
        let arguments ← callArguments nested p
        suffixes p calls fuel true (chained true true (callNode true t arguments))
      | some (.mark .leftBracket) =>
        advance
        let property ← bracketProperty nested p
        suffixes p calls fuel true (chained true true (memberNode t property))
      | some (.mark .backquote) => throw .optionalTemplate
      | _ =>
        let property ← dotProperty
        suffixes p calls fuel true (chained true true (memberNode t property))
    | _ => return t

/-- Reads what stands before the suffixes of an operand: `super` with its first
suffix, a dynamic import, or an expression that is no operation. -/
def operandBase (p : Place) (calls : Bool) : Parse (Tree Node) := do
  if ← acceptWord .superWord then
    let object := Tree.ofLabel .superKeyword []
    match ← peek with
    | some (.mark .dot) =>
      unless p.superMember do throw .misplacedSuper
      advance
      let property ← dotProperty
      return .ofLabel .superMember [object.fill .object, property.fill .property]
    | some (.mark .leftBracket) =>
      unless p.superMember do throw .misplacedSuper
      advance
      let property ← bracketProperty nested p
      return .ofLabel .superMember [object.fill .object, property.fill .property]
    | some (.mark .leftParen) =>
      unless calls && p.superCall do throw .misplacedSuper
      advance
      let arguments ← callArguments nested p
      return callNode false object arguments
    | _ => unexpected "."
  if ← acceptWord .importWord then
    unless calls && (← nextIs .leftParen) do throw .misplacedImport
    advance
    let arguments ← callArguments nested p
    return callNode false (.ofLabel (.importKeyword .evaluation) []) arguments
  primaryExpression nested p

/-- Reads what follows the word `new`: `target` after a dot, or what is
constructed and the arguments, which may be missing. -/
def afterNew (p : Place) : Parse (Tree Node) := do
  if ← accept .dot then
    match ← peek with
    | some (.name "target") =>
      unless p.inFunction do throw .misplacedNewTarget
      advance
      return .ofLabel (.metaProperty .newTarget) []
    | _ => unexpected "target"
  let base ←
    if ← nextIsWord .newWord then nested .constructed p
    else operandBase nested p false
  let callee ← suffixes nested p false (← budget) false base
  if ← accept .leftParen then
    let arguments ← callArguments nested p
    return .ofLabel (.new true) (callee.fill .callee :: arguments)
  return .ofLabel (.new false) [callee.fill .callee]

/-- Reads an operand with its members and calls. -/
def leftHandSide (p : Place) : Parse (Tree Node) := do
  let base ←
    if ← acceptWord .newWord then afterNew nested p
    else operandBase nested p true
  suffixes nested p true (← budget) false base

/-! ### Operations -/

/-- The spelling of a unary operator. -/
def unaryOperator? : Token → Option String
  | .mark (.operator .add) => some "+"
  | .mark (.operator .sub) => some "-"
  | .mark .tilde => some "~"
  | .mark .bang => some "!"
  | .word .deleteWord => some "delete"
  | .word .voidWord => some "void"
  | .word .typeofWord => some "typeof"
  | _ => none

/-- Whether the token can follow the name `await`. -/
def Token.followsAwaitName : Token → Bool
  | .mark .rightParen | .mark .rightBracket | .mark .semicolon | .mark .comma => true
  | _ => false

/-- Reads an operand with the unary operators around it. -/
def unaryExpression (p : Place) : Parse (Tree Node) := do
  match ← peek with
  | some (.mark .increment) =>
    advance
    let e ← nested .unary p
    unless isTarget p e do throw .invalidTarget
    return .ofLabel (.update "++" true) [e.fill .argument]
  | some (.mark .decrement) =>
    advance
    let e ← nested .unary p
    unless isTarget p e do throw .invalidTarget
    return .ofLabel (.update "--" true) [e.fill .argument]
  | some t =>
    match unaryOperator? t with
    | some operator =>
      advance
      let e ← nested .unary p
      if operator == "delete" && p.strict && e.label matches .identifier _ then
        throw .deletedName
      return .ofLabel (.unary operator) [e.fill .argument]
    | none =>
      if t = .word .awaitWord && p.async then
        advance
        let e ← nested .unary p
        return .ofLabel .awaitExpression [e.fill .argument]
      if t = .word .awaitWord && !((← peekSecond).any Token.followsAwaitName) then
        throw .misplacedAwait
      let e ← leftHandSide nested p
      if ← lineEndsHere then return e
      match ← peek with
      | some (.mark .increment) =>
        unless isTarget p e do throw .invalidTarget
        advance
        return .ofLabel (.update "++" false) [e.fill .argument]
      | some (.mark .decrement) =>
        unless isTarget p e do throw .invalidTarget
        advance
        return .ofLabel (.update "--" false) [e.fill .argument]
      | _ => return e
  | none => unexpected "expression"

/-- The spelling and the precedence of a binary operator. -/
def binaryOperator? (p : Place) : Token → Option (String × Nat)
  | .mark (.operator o) => some (o.text, o.precedence)
  | .word .instanceofWord => some ("instanceof", 7)
  | .word .inWord => if p.allowIn then some ("in", 7) else none
  | _ => none

/-- Whether an operand may not stand beside the operator without parentheses:
the nullish operator and the logical ones do not mix. -/
def clashes (operator : String) (operand : Tree Node) : Bool :=
  match operand.label with
  | .binary inner =>
    (operator == "??" && (inner == "||" || inner == "&&")) ||
      ((operator == "||" || operator == "&&") && inner == "??")
  | _ => false

/-- Reads the operators that bind tighter than `bound`, and their right
operands, after the left operand. The number bounds how many there are. -/
def binaryRest (p : Place) (operand : Parse (Tree Node)) :
    Nat → Nat → Tree Node → Parse (Tree Node)
  | 0, _, _ => throw .tooDeep
  | fuel + 1, bound, left => do
    match (← peek).bind (binaryOperator? p) with
    | none => return left
    | some (operator, precedence) =>
      if precedence ≤ bound then return left
      if operator == "**" && left.label matches .unary _ | .awaitExpression then
        throw .unaryBeforePower
      advance
      let first ← operand
      let right ← binaryRest p operand fuel
        (if operator == "**" then precedence - 1 else precedence) first
      if clashes operator left || clashes operator right then throw .mixedNullish
      binaryRest p operand fuel bound
        (.ofLabel (.binary operator) [left.fill .left, right.fill .right])

/-- Reads operands with the binary operators between them. A private name stands
only before `in`. -/
def binaryExpression (p : Place) : Parse (Tree Node) := do
  let left ←
    match ← peek with
    | some (.privateName name) =>
      if (← peekSecond) == some (.word .inWord) then
        advance
        pure (Tree.ofLabel (.privateName name) [])
      else unexpected "expression"
    | _ => unaryExpression nested p
  binaryRest p (unaryExpression nested p) (← budget) 0 left

/-- Reads a condition with its two alternatives, or what is none. -/
def conditional (p : Place) : Parse (Tree Node) := do
  let test ← binaryExpression nested p
  if ← accept .question then
    let consequent ← nested .assignment p.withIn
    expect .colon
    let alternate ← nested .assignment p
    return .ofLabel .conditional
      [test.fill .test, consequent.fill .consequent, alternate.fill .alternate]
  return test

/-- Reads a `yield` expression. What it yields must begin on its line. -/
def yieldExpression (p : Place) : Parse (Tree Node) := do
  advance
  if ← lineEndsHere then return .ofLabel (.yieldExpression false) []
  if ← accept (.operator .mul) then
    let e ← nested .assignment p
    return .ofLabel (.yieldExpression true) [e.fill .argument]
  match ← peek with
  | some (.mark m) =>
    if m = .rightParen ∨ m = .rightBracket ∨ m = .rightBrace ∨ m = .comma ∨ m = .semicolon ∨
        m = .colon then return .ofLabel (.yieldExpression false) []
  | some (.word .inWord) | some (.word .ofWord) => return .ofLabel (.yieldExpression false) []
  | _ => pure ()
  let e ← nested .assignment p
  return .ofLabel (.yieldExpression false) [e.fill .argument]

/-- The tree of an assignment. -/
def assignmentNode (operator : String) (left right : Tree Node) : Tree Node :=
  .ofLabel (.assignment operator) [left.fill .left, right.fill .right]

/-- Reads an expression without commas. -/
def assignmentExpression (p : Place) : Parse (Tree Node) := do
  if p.generator && (← nextIsWord .yieldWord) then return ← yieldExpression nested p
  match arrowAhead? p (← get) with
  | some async => arrowFunction nested p async
  | none =>
    if startsPattern (· == .mark .assign) (← get) then
      let left ← targetPattern nested p
      expect .assign
      let right ← nested .assignment p
      return assignmentNode "=" left right
    let left ← conditional nested p
    match ← peek with
    | some (.mark .assign) =>
      unless isTarget p left do throw .invalidTarget
      advance
      let right ← nested .assignment p
      return assignmentNode "=" left right
    | some (.mark (.compound operator)) =>
      unless isTarget p left do throw .invalidTarget
      advance
      let right ← nested .assignment p
      return assignmentNode (operator.text ++ "=") left right
    | _ => return left

/-- Reads something that is assigned to inside a pattern. -/
def assignmentTarget (p : Place) : Parse (Tree Node) := do
  if startsPattern Token.followsElement (← get) then targetPattern nested p
  else
    let e ← leftHandSide nested p
    unless isTarget p e do throw .invalidTarget
    return e

/-- Reads what follows the word `new` inside what another `new` constructs. -/
def constructed (p : Place) : Parse (Tree Node) := do
  expectWord .newWord
  afterNew nested p

/-- Reads further expressions after commas. The number bounds how many there
are. -/
def moreExpressions (p : Place) : Nat → Parse (List (Tree Node))
  | 0 => throw .tooDeep
  | fuel + 1 => do
    if ← accept .comma then
      let e ← nested .assignment p
      let rest ← moreExpressions p fuel
      return e :: rest
    return []

/-- Reads expressions with commas between them. -/
def commaExpression (p : Place) : Parse (Tree Node) := do
  let first ← assignmentExpression nested p
  match ← moreExpressions nested p (← budget) with
  | [] => return first
  | rest => return .ofLabel .sequence (childrenOf (first :: rest) .expressions)

end Script

end HotReload
