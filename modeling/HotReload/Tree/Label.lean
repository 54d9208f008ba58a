/-
# Kinds of syntax node

A program is a tree of nodes. A `Label` says what a node is and holds the data
of that kind (the text of a literal, an operator, a flag); a `Field` says which
child of its parent a node is. `Label.layout` lists, for every kind, its
children in visit order, which is not always the order of the source text: a
loop's test is visited before its body and a class's body before its heritage.

Not covered: the nodes of JSX and of TypeScript and the auto-accessors of classes
have no label, so a program with one of them is no tree here.

Key definitions: `Label`, `Field`, `Label.layout`, `Label.namesProperty`,
`Field.holdsStatement`, `Label.isModuleDeclaration`.
-/

namespace HotReload

/-- A stretch of source text, as two offsets. -/
structure Span where
  start : Nat
  stop : Nat
deriving DecidableEq

/-- The span of a node that has no place in a source text. -/
def Span.none : Span := ⟨0, 0⟩

/-- A resolved identifier: a name together with the number of the scope that it
was resolved to. Two occurrences mean the same thing exactly if both agree. -/
structure Ident where
  name : String
  context : Nat
deriving DecidableEq

/-- When an imported module is loaded. -/
inductive ImportPhase where
  | evaluation
  | source
  | deferred
deriving DecidableEq

/-- The keyword of a variable declaration. -/
inductive VariableKind where
  | functionScoped
  | blockScoped
  | constant
deriving DecidableEq

/-- What a method of a class is. -/
inductive MethodKind where
  | method
  | getter
  | setter
deriving DecidableEq

/-- The two meta properties. -/
inductive MetaKind where
  | newTarget
  | importMeta
deriving DecidableEq

/-- A number as decimal digits: `mantissa` divided by ten to the `places`. -/
structure Numeral where
  mantissa : Int
  places : Nat
deriving DecidableEq

/-- The place of a child in its parent. -/
inductive Field where
  | root
  | statements
  | statement
  | thenBranch
  | elseBranch
  | specifiers
  | source
  | attributes
  | localName
  | imported
  | exportee
  | exported
  | declaration
  | expression
  | object
  | property
  | argument
  | arguments
  | labelName
  | test
  | consequent
  | alternate
  | discriminant
  | cases
  | block
  | handler
  | finalizer
  | body
  | initializer
  | update
  | left
  | right
  | declarators
  | pattern
  | name
  | function
  | parameters
  | parameter
  | decorators
  | members
  | heritage
  | key
  | value
  | elements
  | properties
  | callee
  | expressions
  | quasis
  | tag
  | template
  | base
deriving DecidableEq

/-- What a node is, with the data of its kind. `functionPart` is the part that
functions and methods share; `argument` is an argument of a call or an element
of an array, with the place of its three dots if it is spread; `hole` stands
for a missing element. There is no kind for JSX, for TypeScript and for the
auto-accessors of classes. -/
inductive Label where
  | moduleRoot (interpreter : Option String)
  | scriptRoot (interpreter : Option String)
  | importDeclaration (phase : ImportPhase)
  | importDefault
  | importNamespace
  | importNamed
  | exportDeclaration
  | exportDefaultDeclaration
  | exportDefaultExpression
  | exportNamed
  | exportAll
  | exportSpecifier
  | exportNamespace
  | block
  | expressionStatement
  | emptyStatement
  | debuggerStatement
  | withStatement
  | returnStatement
  | labeledStatement
  | breakStatement
  | continueStatement
  | ifStatement
  | switchStatement
  | switchCase
  | throwStatement
  | tryStatement
  | catchClause
  | whileStatement
  | doWhileStatement
  | forStatement
  | forInStatement
  | forOfStatement (awaited : Bool)
  | variableDeclaration (kind : VariableKind)
  | usingDeclaration (awaited : Bool)
  | declarator
  | functionDeclaration
  | functionExpression
  | functionPart (async generator : Bool)
  | parameter
  | classDeclaration
  | classExpression
  | constructorMember
  | classMethod (kind : MethodKind) (static : Bool)
  | privateMethod (kind : MethodKind) (static : Bool)
  | classProperty (static : Bool)
  | privateProperty (static : Bool)
  | staticBlock
  | decorator
  | this
  | superKeyword
  | importKeyword (phase : ImportPhase)
  | metaProperty (kind : MetaKind)
  | array
  | object
  | spreadElement (dots : Span)
  | argument (spread : Option Span)
  | keyValue
  | getter
  | setter
  | method
  | computed
  | unary (operator : String)
  | update (operator : String) (before : Bool)
  | binary (operator : String)
  | assignment (operator : String)
  | member
  | superMember
  | conditional
  | call
  | optionalCall
  | new (hasArguments : Bool)
  | sequence
  | arrow (async generator : Bool)
  | yieldExpression (delegate : Bool)
  | awaitExpression
  | templateLiteral
  | templateElement (tail : Bool) (cooked : Option String) (raw : String)
  | taggedTemplate
  | parenthesized
  | optionalChain (optional : Bool)
  | arrayPattern
  | objectPattern
  | restElement (dots : Span)
  | assignmentPattern
  | keyValuePattern
  | shorthandPattern
  | identifier (name : String)
  | propertyName (name : String)
  | privateName (name : String)
  | string (value : String) (raw : Option String)
  | number (value : Option Numeral) (raw : Option String)
  | bigInt (value : Int) (raw : Option String)
  | boolean (value : Bool)
  | null
  | regExp (pattern flags : String)
  | hole
deriving DecidableEq

/-- How many children a field holds. -/
inductive Arity where
  | single
  | optional
  | list
deriving DecidableEq

namespace Label

/-- The fields of a node, in the order in which its children are visited. -/
def layout : Label → List (Field × Arity)
  | moduleRoot _ | scriptRoot _ | block => [(.statements, .list)]
  | importDeclaration _ => [(.specifiers, .list), (.source, .single), (.attributes, .optional)]
  | importDefault | importNamespace => [(.localName, .single)]
  | importNamed => [(.localName, .single), (.imported, .optional)]
  | exportDeclaration | exportDefaultDeclaration => [(.declaration, .single)]
  | exportNamed => [(.specifiers, .list), (.source, .optional), (.attributes, .optional)]
  | exportAll => [(.source, .single), (.attributes, .optional)]
  | exportSpecifier => [(.exportee, .single), (.exported, .optional)]
  | exportNamespace => [(.exported, .single)]
  | exportDefaultExpression | expressionStatement | decorator | argument _ | computed
  | parenthesized => [(.expression, .single)]
  | withStatement => [(.object, .single), (.statement, .single)]
  | returnStatement => [(.argument, .optional)]
  | labeledStatement => [(.labelName, .single), (.statement, .single)]
  | breakStatement | continueStatement => [(.labelName, .optional)]
  | ifStatement => [(.test, .single), (.thenBranch, .single), (.elseBranch, .optional)]
  | switchStatement => [(.discriminant, .single), (.cases, .list)]
  | switchCase => [(.test, .optional), (.statements, .list)]
  | tryStatement => [(.block, .single), (.handler, .optional), (.finalizer, .optional)]
  | catchClause => [(.parameter, .optional), (.body, .single)]
  | whileStatement | doWhileStatement => [(.test, .single), (.statement, .single)]
  | forStatement =>
    [(.initializer, .optional), (.test, .optional), (.update, .optional), (.statement, .single)]
  | forInStatement | forOfStatement _ =>
    [(.left, .single), (.right, .single), (.statement, .single)]
  | variableDeclaration _ | usingDeclaration _ => [(.declarators, .list)]
  | declarator => [(.pattern, .single), (.initializer, .optional)]
  | functionDeclaration => [(.name, .single), (.function, .single)]
  | functionExpression => [(.name, .optional), (.function, .single)]
  | functionPart _ _ => [(.parameters, .list), (.decorators, .list), (.body, .optional)]
  | parameter => [(.decorators, .list), (.pattern, .single)]
  | classDeclaration =>
    [(.name, .single), (.decorators, .list), (.members, .list), (.heritage, .optional)]
  | classExpression =>
    [(.name, .optional), (.decorators, .list), (.members, .list), (.heritage, .optional)]
  | constructorMember => [(.key, .single), (.parameters, .list), (.body, .optional)]
  | classMethod _ _ | privateMethod _ _ | method => [(.key, .single), (.function, .single)]
  | classProperty _ | privateProperty _ =>
    [(.key, .single), (.value, .optional), (.decorators, .list)]
  | staticBlock => [(.body, .single)]
  | array | arrayPattern => [(.elements, .list)]
  | object | objectPattern => [(.properties, .list)]
  | keyValue | keyValuePattern => [(.key, .single), (.value, .single)]
  | shorthandPattern => [(.key, .single), (.value, .optional)]
  | getter => [(.key, .single), (.body, .optional)]
  | setter => [(.key, .single), (.parameter, .single), (.body, .optional)]
  | throwStatement | spreadElement _ | unary _ | update _ _ | awaitExpression | restElement _ =>
    [(.argument, .single)]
  | yieldExpression _ => [(.argument, .optional)]
  | binary _ | assignment _ | assignmentPattern => [(.left, .single), (.right, .single)]
  | member | superMember => [(.object, .single), (.property, .single)]
  | conditional => [(.test, .single), (.consequent, .single), (.alternate, .single)]
  | call | optionalCall | new _ => [(.callee, .single), (.arguments, .list)]
  | sequence => [(.expressions, .list)]
  | arrow _ _ => [(.parameters, .list), (.body, .single)]
  | templateLiteral => [(.expressions, .list), (.quasis, .list)]
  | taggedTemplate => [(.tag, .single), (.template, .single)]
  | optionalChain _ => [(.base, .single)]
  | emptyStatement | debuggerStatement | this | superKeyword | importKeyword _ | metaProperty _
  | templateElement _ _ _ | identifier _ | propertyName _ | privateName _ | string _ _
  | number _ _ | bigInt _ _ | boolean _ | null | regExp _ _ | hole => []

/-- Whether a plain name in this field is the name of a property, which is
looked up in a value and so is never resolved to a scope. -/
def namesProperty : Label → Field → Bool
  | member, .property | superMember, .property => true
  | keyValue, .key | getter, .key | setter, .key | method, .key | constructorMember, .key
  | classMethod _ _, .key | classProperty _, .key | keyValuePattern, .key => true
  | _, _ => false

/-- Whether a node of this kind is an import or an export, which can stand in a
list of statements but is none. -/
def isModuleDeclaration : Label → Bool
  | importDeclaration _ | exportDeclaration | exportDefaultDeclaration | exportDefaultExpression
  | exportNamed | exportAll => true
  | _ => false

/-- Whether a node of this kind bounds a function: the shared part of functions
and methods, or an arrow function. -/
def isFunction : Label → Bool
  | functionPart _ _ | arrow _ _ => true
  | _ => false

end Label

/-- Whether a field holds statements: the entries of a program, of a block and
of a case, the branches of a condition and the one statement that a loop, a
label or a `with` governs. -/
def Field.holdsStatement : Field → Bool
  | .statements | .statement | .thenBranch | .elseBranch => true
  | _ => false

end HotReload
