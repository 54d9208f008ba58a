/-
# The tokens and the tree of a hot-reload unit

A hot-reload unit is written down here twice more, as the tokens of its text and
as the tree that the tokens stand for. Both are cut where the text is cut by the
name of the application and by the literals that its slots become.

Key definitions: `HotUnit.Literals`, `HotUnit.phrases`, `HotUnit.modelPhrase`,
`HotUnit.tokens`, `HotUnit.tree`.
-/
import HotReload.HotUnit.Source
import HotReload.Proofs.Script.Reading

namespace HotReload

namespace HotUnit

open Script

/-! ### Tokens -/

/-- A mark on the line of the token before. -/
def mark (m : Mark) : Lexeme := ⟨.mark m, false⟩

/-- A name on the line of the token before. -/
def name (text : String) : Lexeme := ⟨.name text, false⟩

/-- A token after the end of a line. -/
def line (t : Token) : Lexeme := ⟨t, true⟩

/-- A literal on the line of the token before. -/
def slot (literal : Literal) : Lexeme := ⟨literal.token, false⟩

/-! The names follow the statements that the tokens belong to. A statement with a
slot is cut there: its opening stands before the slot, its closing after it. -/

/-- The greeting. -/
def logTokens : List Lexeme :=
  [line (.name "console"), mark .dot, name "log", mark .leftParen,
   slot (quoted "[HMR] inited with dva-hmr"), mark .rightParen, mark .semicolon]

/-- A call of a method of the application with a call of `require`. -/
def requiringOpening (app : Token) (method : String) : List Lexeme :=
  [line app, mark .dot, name method, mark .leftParen, name "require", mark .leftParen]

def requiringClosing : List Lexeme := [mark .rightParen, mark .rightParen, mark .semicolon]

/-- A call of a method of the application with an element of the map of
namespaces. -/
def unmodelOpening (app : Token) : List Lexeme :=
  [line app, mark .dot, name "unmodel", mark .leftParen, name "modelNamespaceMap",
   mark .leftBracket]

def unmodelClosing : List Lexeme := [mark .rightBracket, mark .rightParen, mark .semicolon]

/-- The condition that modules can be replaced. -/
def ifHotOpening : List Lexeme :=
  [line (.word .ifWord), mark .leftParen, name "module", mark .dot, name "hot", mark .rightParen,
   mark .leftBrace]

/-- What is done when a module is replaced. -/
def acceptOpening : List Lexeme :=
  [line (.name "module"), mark .dot, name "hot", mark .dot, name "accept", mark .leftParen]

def arrowOpening : List Lexeme :=
  [mark .leftParen, mark .rightParen, mark .arrow, mark .leftBrace]

def handlerOpening : List Lexeme := mark .comma :: arrowOpening

def handlerClosing : List Lexeme := [line (.mark .rightBrace), mark .rightParen, mark .semicolon]

/-- The name of what renders normally. -/
def renderNormallyTokens : List Lexeme :=
  [line (.word .constWord), name "renderNormally", mark .assign, name "render", mark .semicolon]

/-- The definition of what shows an error in the container. -/
def renderExceptionOpening : List Lexeme :=
  [line (.word .constWord), name "renderException", mark .assign, mark .leftParen, name "error",
   mark .rightParen, mark .arrow, mark .leftBrace,
   line (.word .constWord), name "RedBox", mark .assign, name "require", mark .leftParen,
   slot (quoted "redbox-react"), mark .rightParen, mark .semicolon,
   line (.name "ReactDOM"), mark .dot, name "render", mark .leftParen, name "React", mark .dot,
   name "createElement", mark .leftParen, name "RedBox", mark .comma, mark .leftBrace,
   name "error", mark .colon, name "error", mark .rightBrace, mark .rightParen, mark .comma,
   name "document", mark .dot, name "querySelector", mark .leftParen]

def renderExceptionClosing : List Lexeme :=
  [mark .rightParen, mark .rightParen, mark .semicolon,
   line (.mark .rightBrace), mark .semicolon]

/-- The definition of what renders a replaced router. -/
def newRenderTokens : List Lexeme :=
  [line (.word .constWord), name "newRender", mark .assign, mark .leftParen, name "router",
   mark .rightParen, mark .arrow, mark .leftBrace,
   line (.word .tryWord), mark .leftBrace,
   line (.name "renderNormally"), mark .leftParen, name "router", mark .rightParen,
   mark .semicolon,
   line (.mark .rightBrace), ⟨.word .catchWord, false⟩, mark .leftParen, name "error",
   mark .rightParen, mark .leftBrace,
   line (.name "console"), mark .dot, name "error", mark .leftParen, slot (quoted "error"),
   mark .comma, name "error", mark .rightParen, mark .semicolon,
   line (.name "renderException"), mark .leftParen, name "error", mark .rightParen,
   mark .semicolon,
   line (.mark .rightBrace),
   line (.mark .rightBrace), mark .semicolon]

/-- The router that has replaced the one before. -/
def newRouterOpening : List Lexeme :=
  [line (.word .constWord), name "router", mark .assign, name "require", mark .leftParen]

def newRouterClosing : List Lexeme := [mark .rightParen, mark .semicolon]

/-- The rendering of that router. -/
def renderTokens : List Lexeme :=
  [line (.name "newRender"), mark .leftParen, name "router", mark .rightParen, mark .semicolon]

/-- The registration of the reloading of the router. -/
def useOpening (app : Token) : List Lexeme :=
  [line app, mark .dot, name "use", mark .leftParen]

def optionsOpening : List Lexeme :=
  [mark .leftBrace, line (.name "onHmr"), mark .leftParen, name "render", mark .rightParen,
   mark .leftBrace]

def useClosing : List Lexeme :=
  [line (.mark .rightBrace), mark .comma, line (.mark .rightBrace), mark .rightParen,
   mark .semicolon]

/-- The map of the namespaces of models. -/
def namespacesTokens : List Lexeme :=
  [line (.word .constWord), name "modelNamespaceMap", mark .assign, mark .leftBrace,
   mark .rightBrace, mark .semicolon]

/-- The entry of a model in that map. -/
def rememberOpening : List Lexeme := [line (.name "modelNamespaceMap"), mark .leftBracket]

def rememberMiddle : List Lexeme :=
  [mark .rightBracket, mark .assign, name "require", mark .leftParen]

def rememberClosing : List Lexeme :=
  [mark .rightParen, mark .dot, name "namespace", mark .semicolon]

/-- What reloads a model, and what is done if that fails. -/
def tryOpening : List Lexeme := [line (.word .tryWord), mark .leftBrace]

def tryClosing : List Lexeme :=
  [line (.mark .rightBrace), ⟨.word .catchWord, false⟩, mark .leftParen, name "e",
   mark .rightParen, mark .leftBrace, name "console", mark .dot, name "error", mark .leftParen,
   name "e", mark .rightParen, mark .semicolon, mark .rightBrace]

/-- The end of the function and of its call. -/
def closing : List Lexeme :=
  [line (.mark .rightBrace), mark .rightParen, mark .leftParen, mark .rightParen]

/-! ### Trees -/

/-- The object `module.hot`. -/
def moduleHot : Tree Node := propertyNode (identifierNode "module") "hot"

/-- The registration of what happens when a module is replaced. -/
def acceptNode (path : Literal) (statements : List (Tree Node)) : Tree Node :=
  statementNode
    (invocationNode (propertyNode moduleHot "accept") [literalNode path, arrowNode [] statements])

/-- A call of `require`. -/
def requireNode (path : Literal) : Tree Node := applicationNode "require" [literalNode path]

/-- A call of a method of the application, as a statement. -/
def methodNode (app method : String) (argument : Tree Node) : Tree Node :=
  statementNode (invocationNode (propertyNode (identifierNode app) method) [argument])

/-- The greeting. -/
def logNode : Tree Node :=
  statementNode (invocationNode (propertyNode (identifierNode "console") "log")
    [literalNode (quoted "[HMR] inited with dva-hmr")])

/-- The element that shows an error. -/
def redBoxNode : Tree Node :=
  invocationNode (propertyNode (identifierNode "React") "createElement")
    [identifierNode "RedBox",
     .ofLabel .object [Tree.fill (.ofLabel .keyValue
      [Tree.fill (.ofLabel (.propertyName "error") []) .key,
       (identifierNode "error").fill .value]) .properties]]

/-- The definition of what shows an error in the container. -/
def renderExceptionNode (container : Literal) : Tree Node :=
  constantNode "renderException" (arrowNode ["error"]
    [constantNode "RedBox" (requireNode (quoted "redbox-react")),
     statementNode (invocationNode (propertyNode (identifierNode "ReactDOM") "render")
      [redBoxNode,
       invocationNode (propertyNode (identifierNode "document") "querySelector")
        [literalNode container]])])

/-- The definition of what renders a replaced router. -/
def newRenderNode : Tree Node :=
  constantNode "newRender" (arrowNode ["router"]
    [tryNode [statementNode (applicationNode "renderNormally" [identifierNode "router"])] "error"
      [statementNode (invocationNode (propertyNode (identifierNode "console") "error")
        [literalNode (quoted "error"), identifierNode "error"]),
       statementNode (applicationNode "renderException" [identifierNode "error"])]])

/-- The options of the reloading of the router, given what is done if modules can
be replaced. -/
def optionsNode (hot : Tree Node) : Tree Node :=
  .ofLabel .object [Tree.fill (.ofLabel .method
    [Tree.fill (.ofLabel (.propertyName "onHmr") []) .key,
     Tree.fill (.ofLabel (.functionPart false false)
      [Tree.fill (.ofLabel .parameter [(identifierNode "render").fill .pattern]) .parameters,
       (blockNode [hot]).fill .body]) .function]) .properties]

/-- The element of the map of namespaces that belongs to a model. -/
def namespaceNode (model : Literal) : Tree Node :=
  elementNode (identifierNode "modelNamespaceMap") (literalNode model)

/-- The entry of a model in the map of namespaces. -/
def rememberNode (model : Literal) : Tree Node :=
  statementNode (assignmentNode "=" (namespaceNode model)
    (propertyNode (requireNode model) "namespace"))

/-- A `try` whose errors are reported on the console. -/
def reportingNode (statements : List (Tree Node)) : Tree Node :=
  tryNode statements "e"
    [statementNode (invocationNode (propertyNode (identifierNode "console") "error")
      [identifierNode "e"])]

/-! ### Phrases -/

/-- A phrase: tokens and the statement that they are read as. -/
abbrev Phrase : Type := List Lexeme × Tree Node

/-- A condition that modules can be replaced. -/
def ifHotPhrase (phrases : List Phrase) : Phrase :=
  (ifHotOpening ++ (tokensOf phrases ++ [line (.mark .rightBrace)]),
    ifNode moduleHot (statementsOf phrases))

/-- A handler of replacements of a module. -/
def acceptPhrase (path : Literal) (phrases : List Phrase) : Phrase :=
  (acceptOpening ++ slot path :: (handlerOpening ++ (tokensOf phrases ++ handlerClosing)),
    acceptNode path (statementsOf phrases))

/-- A `try` whose errors are reported. -/
def reportingPhrase (phrases : List Phrase) : Phrase :=
  (tryOpening ++ (tokensOf phrases ++ tryClosing), reportingNode (statementsOf phrases))

/-- A call of a method of the application with a required module. -/
def requiringPhrase (app method : String) (path : Literal) : Phrase :=
  (requiringOpening (nameToken app) method ++ slot path :: requiringClosing,
    methodNode app method (requireNode path))

/-- What is done with the router if modules can be replaced. -/
def hotRouterPhrase (router container : Literal) : Phrase :=
  ifHotPhrase
    [(renderNormallyTokens, constantNode "renderNormally" (identifierNode "render")),
     (renderExceptionOpening ++ slot container :: renderExceptionClosing,
      renderExceptionNode container),
     (newRenderTokens, newRenderNode),
     acceptPhrase router
      [(newRouterOpening ++ slot router :: newRouterClosing,
        constantNode "router" (requireNode router)),
       (renderTokens, statementNode (applicationNode "newRender" [identifierNode "router"]))]]

/-- The registration of the reloading of the router. -/
def usePhrase (app : String) (router container : Literal) : Phrase :=
  (useOpening (nameToken app) ++ (optionsOpening ++
    ((hotRouterPhrase router container).1 ++ useClosing)),
    methodNode app "use" (optionsNode (hotRouterPhrase router container).2))

/-- The statement that unregisters a model. -/
def unmodelPhrase (app : String) (model : Literal) : Phrase :=
  (unmodelOpening (nameToken app) ++ slot model :: unmodelClosing,
    methodNode app "unmodel" (namespaceNode model))

/-- The block of a model. -/
def modelPhrase (app : String) (model : Literal) : Phrase :=
  ifHotPhrase
    [(namespacesTokens, constantNode "modelNamespaceMap" (.ofLabel .object [])),
     (rememberOpening ++ slot model :: (rememberMiddle ++ slot model :: rememberClosing),
      rememberNode model),
     acceptPhrase model
      [reportingPhrase [unmodelPhrase app model, requiringPhrase app "model" model]]]

/-! ### The unit -/

/-- The literals that the slots of a unit become. -/
structure Literals where
  router : Literal
  container : Literal
  models : List Literal
deriving DecidableEq

/-- The statements of a unit with their tokens. -/
def phrases (app : String) (literals : Literals) : List Phrase :=
  (logTokens, logNode) :: requiringPhrase app "router" literals.router ::
    usePhrase app literals.router literals.container :: literals.models.map (modelPhrase app)

/-- The tokens of a unit. -/
def tokens (app : String) (literals : Literals) : List Lexeme :=
  selfInvocation true false false false false ++ (tokensOf (phrases app literals) ++ closing)

/-- The tree of a unit. -/
def tree (app : String) (literals : Literals) : Tree Node :=
  selfInvocationNode (blockNode (statementsOf (phrases app literals)))

end HotUnit

end HotReload
