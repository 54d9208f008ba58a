/-
# Trees of generated code

Short names for the trees of the statements and expressions that generated code
is made of, in the form in which the reader builds them.

Key definitions: `literalNode`, `propertyNode`, `elementNode`, `invocationNode`,
`applicationNode`, `statementNode`, `blockNode`, `constantNode`, `arrowNode`,
`tryNode`, `ifNode`, `selfInvocationNode`.
-/
import HotReload.Proofs.Script.Strings
import HotReload.Scope
import HotReload.Script.Expression

namespace HotReload

namespace Script

/-! ### Expressions -/

/-- The tree of a string literal. -/
def literalNode (literal : Literal) : Tree Node :=
  .ofLabel (.string literal.value (some literal.raw)) []

/-- The tree of a property after a dot. -/
def propertyNode (object : Tree Node) (name : String) : Tree Node :=
  memberNode object (.ofLabel (.propertyName name) [])

/-- The tree of an element in brackets. -/
def elementNode (object key : Tree Node) : Tree Node :=
  memberNode object (.ofLabel .computed [key.fill .expression])

/-- The tree of an argument that is not spread. -/
def plainArgument (e : Tree Node) : Tree Node := .ofLabel (.argument none) [e.fill .expression]

/-- The tree of a call. -/
def invocationNode (callee : Tree Node) (arguments : List (Tree Node)) : Tree Node :=
  callNode false callee (childrenOf (arguments.map plainArgument) .arguments)

/-- The tree of a call of a plain name. -/
def applicationNode (name : String) (arguments : List (Tree Node)) : Tree Node :=
  invocationNode (identifierNode name) arguments

/-- The tree of a function without a name and without parameters. -/
def functionNode (body : Tree Node) : Tree Node :=
  .ofLabel .functionExpression
    [Tree.fill (.ofLabel (.functionPart false false) [body.fill .body]) .function]

/-! ### Statements -/

/-- The tree of an expression as a statement. -/
def statementNode (e : Tree Node) : Tree Node := .ofLabel .expressionStatement [e.fill .expression]

/-- The tree of a block. -/
def blockNode (statements : List (Tree Node)) : Tree Node :=
  .ofLabel .block (childrenOf statements .statements)

/-- The tree of the definition of a constant. -/
def constantNode (name : String) (value : Tree Node) : Tree Node :=
  .ofLabel (.variableDeclaration .constant)
    [Tree.fill (.ofLabel .declarator
      [(identifierNode name).fill .pattern, value.fill .initializer]) .declarators]

/-- The tree of an arrow function with a block as its body. -/
def arrowNode (parameters : List String) (statements : List (Tree Node)) : Tree Node :=
  .ofLabel (.arrow false false)
    (childrenOf (parameters.map identifierNode) .parameters ++ [(blockNode statements).fill .body])

/-- The tree of a `try` with a handler. -/
def tryNode (statements : List (Tree Node)) (error : String) (handler : List (Tree Node)) :
    Tree Node :=
  .ofLabel .tryStatement
    [(blockNode statements).fill .block,
      Tree.fill (.ofLabel .catchClause
        [(identifierNode error).fill .parameter, (blockNode handler).fill .body]) .handler]

/-- The tree of a condition with one branch. -/
def ifNode (test : Tree Node) (statements : List (Tree Node)) : Tree Node :=
  .ofLabel .ifStatement [test.fill .test, (blockNode statements).fill .thenBranch]

/-- The tree of a function that is called at once, as a statement. -/
def selfInvocationNode (body : Tree Node) : Tree Node :=
  statementNode (callNode false
    (.ofLabel .parenthesized [(functionNode body).fill .expression]) [])

end Script

end HotReload
