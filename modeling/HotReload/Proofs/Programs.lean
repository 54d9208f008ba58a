/-
# Small programs as trees

Short names for the trees of what a program has and generated code has not: names in
a scope, imports, and the calls that create an application and register something of
it. Programs with a single statement of interest are put together from these.

Key definitions: `namedNode`, `constantsNode`, `importNode`, `factoryNode`,
`registrationNode`, `modelNode`, `programNode`, `registeringModels`,
`attributeProgram`.
-/
import HotReload.Proofs.HotUnit.Shape
import HotReload.Role

namespace HotReload

open Script HotUnit

/-- The tree of an identifier in a scope. -/
def namedNode (id : Ident) : Tree Node := ⟨⟨.root, .identifier id.name, id.context, .none⟩, .nil⟩

/-- The tree of the definition of constants. -/
def constantsNode (definitions : List (Ident × Tree Node)) : Tree Node :=
  .ofLabel (.variableDeclaration .constant) (childrenOf (definitions.map fun d =>
    .ofLabel .declarator [(namedNode d.1).fill .pattern, d.2.fill .initializer]) .declarators)

/-- The tree of the import of a default from the module `source`, with the given
attributes. -/
def importNode (id : Ident) (source : String) (attributes : List (Tree Node)) : Tree Node :=
  .ofLabel (.importDeclaration .evaluation)
    (Tree.fill (.ofLabel .importDefault [(namedNode id).fill .localName]) .specifiers ::
      (literalNode (quoted source)).fill .source :: childrenOf attributes .attributes)

/-! ### Programs with an application -/

/-- The call of the factory that creates an application. -/
def factoryNode : Tree Node := invocationNode (namedNode ⟨"dva", 2⟩) []

/-- The registration of a plain path as the router of an application. -/
def registrationNode (app : Ident) : Tree Node :=
  invocationNode (propertyNode (namedNode app) routerMethod) [requireNode (quoted "./router")]

/-- The registration of a model of an application. -/
def modelNode (app : Ident) (path : Literal) : Tree Node :=
  invocationNode (propertyNode (namedNode app) modelMethod) [requireNode path]

/-- The program that imports the factory and goes on with the given statements. -/
def programNode (statements : List (Tree Node)) : Tree Node :=
  .ofLabel (.moduleRoot none)
    (childrenOf (importNode ⟨"dva", 2⟩ frameworkPackage [] :: statements) .statements)

/-- The program that creates an application and registers models and then a router. -/
def registeringModels (paths : List Literal) : Tree Node :=
  programNode (constantsNode [(⟨"app", 2⟩, factoryNode)] ::
    (paths.map fun path => statementNode (modelNode ⟨"app", 2⟩ path)) ++
      [statementNode (registrationNode ⟨"app", 2⟩)])

/-! ### Statements inside an import -/

/-- The program that is an import alone, with an attribute whose value is a function
with the given statements. -/
def attributeProgram (id : Ident) (source : String) (statements : List (Tree Node)) : Tree Node :=
  .ofLabel (.moduleRoot none) (childrenOf [importNode id source
    [.ofLabel .object [Tree.fill (.ofLabel .keyValue
      [Tree.fill (.ofLabel (.propertyName "type") []) .key,
        (arrowNode [] statements).fill .value]) .properties]]] .statements)

end HotReload
