/-
# Patterns

Patterns bind names or assign to targets. Both have the same shape and differ
in their leaves, so one reader serves for both: what stands at a leaf is the
goal it is given.

Key definitions: `literalNode?`, `propertyKey`, `patternElement`,
`arrayPattern`, `objectPattern`, `bindingTarget`, `targetPattern`,
`startsPattern`, `isTarget`.
-/
import HotReload.Script.Grammar

namespace HotReload

namespace Script

variable (nested : Nested)

/-- The tree of a string or number. Strict code forbids those in octal
notation. -/
def literalNode? (p : Place) : Token → Option (Except Fault (Tree Node))
  | .string value raw octal =>
    some (if octal && p.strict then .error .octalInStrictCode
      else .ok (.ofLabel (.string value (some raw)) []))
  | .number value raw octal =>
    some (if octal && p.strict then .error .octalInStrictCode
      else .ok (.ofLabel (.number value (some raw)) []))
  | .bigInt value raw => some (.ok (.ofLabel (.bigInt value (some raw)) []))
  | _ => none

/-- Reads the key of a property. -/
def propertyKey (p : Place) : Parse (Tree Node) := do
  if ← accept .leftBracket then
    let e ← nested .assignment p.withIn
    expect .rightBracket
    return .ofLabel .computed [e.fill .expression]
  match ← peek with
  | some t =>
    match t.propertyName?, literalNode? p t with
    | some name, _ =>
      advance
      return .ofLabel (.propertyName name) []
    | none, some r =>
      advance
      r
    | none, none => unexpected "property key"
  | none => unexpected "property key"

/-- Reads an element of a pattern: a leaf or a pattern, with the value it has by
default. -/
def patternElement (leaf : Goal) (p : Place) : Parse (Tree Node) := do
  let left ← nested leaf p
  if ← accept .assign then
    let right ← nested .assignment p.withIn
    return .ofLabel .assignmentPattern [left.fill .left, right.fill .right]
  return left

/-- Reads what is left of a pattern after three dots, the last thing in it. -/
def restElement (leaf : Goal) (p : Place) (close : Mark) : Parse (Tree Node) := do
  let e ← nested leaf p
  expect close
  return .ofLabel (.restElement .none) [e.fill .argument]

/-- Reads the elements of an array pattern; a comma without an element before
it leaves a hole. The number bounds how many there are. -/
def arrayPatternElements (leaf : Goal) (p : Place) : Nat → Parse (List (Tree Node))
  | 0 => throw .tooDeep
  | fuel + 1 => do
    if ← accept .rightBracket then return []
    if ← accept .comma then
      let rest ← arrayPatternElements leaf p fuel
      return .ofLabel .hole [] :: rest
    if ← accept .ellipsis then return [← restElement nested leaf p .rightBracket]
    let e ← patternElement nested leaf p
    if ← accept .rightBracket then return [e]
    expect .comma
    let rest ← arrayPatternElements leaf p fuel
    return e :: rest

/-- Reads an array pattern. -/
def arrayPattern (leaf : Goal) (p : Place) : Parse (Tree Node) := do
  expect .leftBracket
  let elements ← arrayPatternElements nested leaf p (← budget)
  return .ofLabel .arrayPattern (childrenOf elements .elements)

/-- Reads a property of an object pattern: a key with what it is taken to, or a
name that is both. -/
def patternProperty (leaf : Goal) (p : Place) : Parse (Tree Node) := do
  let shorthand := (← peek).bind (Token.identifier? p)
  let key ← propertyKey nested p
  if ← accept .colon then
    let value ← patternElement nested leaf p
    return .ofLabel .keyValuePattern [key.fill .key, value.fill .value]
  match shorthand with
  | some name =>
    if p.strict && isRestricted name then throw (.reservedInStrictCode name)
    let value ← if ← accept .assign then some <$> nested .assignment p.withIn else pure none
    return .ofLabel .shorthandPattern
      ((identifierNode name).fill .key :: optionalChild value .value)
  | none => unexpected ":"

/-- Reads the properties of an object pattern. The number bounds how many there
are. -/
def objectPatternProperties (leaf : Goal) (p : Place) : Nat → Parse (List (Tree Node))
  | 0 => throw .tooDeep
  | fuel + 1 => do
    if ← accept .rightBrace then return []
    if ← accept .ellipsis then return [← restElement nested leaf p .rightBrace]
    let e ← patternProperty nested leaf p
    if ← accept .rightBrace then return [e]
    expect .comma
    let rest ← objectPatternProperties leaf p fuel
    return e :: rest

/-- Reads an object pattern. -/
def objectPattern (leaf : Goal) (p : Place) : Parse (Tree Node) := do
  expect .leftBrace
  let properties ← objectPatternProperties nested leaf p (← budget)
  return .ofLabel .objectPattern (childrenOf properties .properties)

/-- Reads a name or a pattern that binds names. -/
def bindingTarget (p : Place) : Parse (Tree Node) := do
  match ← peek with
  | some (.mark .leftBracket) => arrayPattern nested .binding p
  | some (.mark .leftBrace) => objectPattern nested .binding p
  | _ => return identifierNode (← definedName p)

/-- Reads a pattern that assigns to targets. -/
def targetPattern (p : Place) : Parse (Tree Node) := do
  if ← nextIs .leftBracket then arrayPattern nested .target p
  else objectPattern nested .target p

/-- Whether the tokens begin with a bracket that, once closed, is followed by
one of the given tokens. -/
def startsPattern (followedBy : Token → Bool) : List Lexeme → Bool
  | l :: ls =>
    (l.token == .mark .leftBracket || l.token == .mark .leftBrace) &&
      ((afterBracket 0 (l :: ls)).head?.map (·.token)).any followedBy
  | [] => false

/-- Whether the token follows a pattern inside another one. -/
def Token.followsElement : Token → Bool
  | .mark .comma | .mark .rightBracket | .mark .rightBrace | .mark .assign => true
  | _ => false

/-- Whether the first tree of a forest can be assigned to: a name or a member, in
parentheses or not. Strict code may not assign to all names. -/
def isTargetForest (p : Place) : Forest Node → Bool
  | .nil => false
  | .cons n kids _ =>
    match n.label with
    | .identifier name => !(p.strict && isRestricted name)
    | .member | .superMember => true
    | .parenthesized => isTargetForest p kids
    | _ => false

/-- Whether the tree can be assigned to. -/
def isTarget (p : Place) (t : Tree Node) : Bool := isTargetForest p t.toForest

end Script

end HotReload
