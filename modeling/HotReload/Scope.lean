/-
# How the names of a program get their values

A program gives a name its value by an import or by a declarator with a plain
name. What the initializer looks like is decided once, where the name is
defined; a later definition of the same identifier, in visit order, replaces an
earlier one. One look-up then says which module a name comes from: no chain of
assignments is followed.

Key definitions: `Definition`, `Definition.ofInitializer`, `Forest.definitions`,
`Scope`, `Scope.get?`, `Scope.module?`, `Tree.requiredModule?`.
-/
import HotReload.Tree.Node

namespace HotReload

/-- The name of the function that loads a module. -/
def requireName : String := "require"

namespace Tree

/-- The plain identifier that a call calls. Parentheses are not looked
through, and an optional call is no call. -/
def calledIdent? (t : Tree Node) : Option Ident :=
  if t.root.isCall then (t.child? .callee).bind ident? else none

/-- Whether the tree is a call of the plain name `require`, whatever its scope
and its arguments. -/
def isRequire (t : Tree Node) : Bool :=
  t.calledIdent?.any (·.name == requireName)

/-- The expression of an argument that is not spread. -/
def plainArgument? (t : Tree Node) : Option (Tree Node) :=
  match t.label with
  | .argument none => t.child? .expression
  | _ => none

/-- The value of a string literal. -/
def stringValue? (t : Tree Node) : Option String :=
  match t.label with
  | .string value _ => some value
  | _ => none

/-- The module that a `require` call names by a string literal in its first
argument. -/
def requiredModule? (t : Tree Node) : Option String :=
  if t.isRequire then
    ((t.child? .arguments).bind plainArgument?).bind stringValue?
  else none

end Tree

/-- How a name gets its value. -/
inductive Definition where
  /-- An import from the module `source`. -/
  | imported (source : String)
  /-- A declarator whose initializer requires the module `source`. -/
  | required (source : String)
  /-- A declarator whose initializer calls the plain identifier `callee`, which
  is not named `require`. -/
  | called (callee : Ident)
  /-- Any other declarator with a plain name. -/
  | other
deriving DecidableEq

namespace Definition

/-- The module that a name so defined comes from. -/
def module? : Definition → Option String
  | imported source | required source => some source
  | called _ | other => none

/-- The definition that a declarator with the given initializer makes. A call
of `require` that names no module is never the call of a factory. -/
def ofInitializer (initializer : Tree Node) : Definition :=
  if initializer.isRequire then
    match initializer.requiredModule? with
    | some source => required source
    | none => other
  else
    match initializer.calledIdent? with
    | some callee => called callee
    | none => other

end Definition

namespace Forest

/-- The definition that a declarator with these children makes: none if its
pattern is not a plain name. -/
def declaratorDefinition? (kids : Forest Node) : Option (Ident × Definition) :=
  ((kids.child? .pattern).bind Tree.ident?).map fun id =>
    (id, ((kids.child? .initializer).map Definition.ofInitializer).getD .other)

/-- The definitions that an import with these children makes, one for every
name it introduces. -/
def importDefinitions (kids : Forest Node) : List (Ident × Definition) :=
  match (kids.child? .source).bind Tree.stringValue? with
  | some source =>
    (kids.children .specifiers).filterMap fun specifier =>
      ((specifier.child? .localName).bind Tree.ident?).map (·, Definition.imported source)
  | none => []

/-- The definitions that a node makes itself, apart from those inside it. -/
def ownDefinitions (label : Label) (kids : Forest Node) : List (Ident × Definition) :=
  match label with
  | .declarator => kids.declaratorDefinition?.toList
  | .importDeclaration _ => kids.importDefinitions
  | _ => []

/-- All definitions in visit order. A declarator counts before those nested in
its pattern and initializer; nothing inside an import defines a name by
itself. -/
def definitions : Forest Node → List (Ident × Definition)
  | nil => []
  | cons n kids rest =>
    ownDefinitions n.label kids ++
      (match n.label with
        | .importDeclaration _ => []
        | _ => definitions kids) ++
      definitions rest

end Forest

/-- What a program says about its names: its definitions in visit order. -/
structure Scope where
  definitions : List (Ident × Definition)

namespace Scope

/-- The scope of a whole program. -/
def ofProgram (program : Tree Node) : Scope := ⟨program.toForest.definitions⟩

/-- The definition of an identifier: the last one in visit order. -/
def get? (s : Scope) (id : Ident) : Option Definition :=
  (s.definitions.reverse.find? (·.1 == id)).map (·.2)

/-- The module that an identifier comes from, by one look-up. -/
def module? (s : Scope) (id : Ident) : Option String :=
  (s.get? id).bind Definition.module?

/-- Identifiers in order of their names, and of their scopes within a name. -/
def precedes (a b : Ident) : Bool :=
  a.name < b.name || (a.name == b.name && a.context ≤ b.context)

/-- The defined identifiers, each once, ordered by name and scope. -/
def idents (s : Scope) : List Ident :=
  (s.definitions.map (·.1)).eraseDups.mergeSort precedes

end Scope

end HotReload
