/-
# What a call does for the application

The framework package exports a factory; a name that is defined as a call of
the factory is an application, and `router` and `model` on it register a router
and a model. Recognition goes by one look-up per name: an application that is
wrapped, renamed or stored in a property is not followed.

Key definitions: `Role`, `Scope.isFactory`, `Scope.isApplication`,
`Scope.memberRole`, `Scope.callRole`, `Scope.modulePath?`.
-/
import HotReload.Scope

namespace HotReload

/-- The package whose export creates applications. -/
def frameworkPackage : String := "dva"

/-- The method that registers a router. -/
def routerMethod : String := "router"

/-- The method that registers a model. -/
def modelMethod : String := "model"

/-- What a call does for an application. -/
inductive Role where
  /-- It creates an application. -/
  | factory
  /-- It registers the router of `app`. -/
  | router (app : Ident)
  /-- It registers a model of `app`. -/
  | model (app : Ident)
  /-- Nothing of these. -/
  | other
deriving DecidableEq

namespace Scope

/-- Whether the identifier comes from the framework package. -/
def isFactory (s : Scope) (id : Ident) : Bool := s.module? id == some frameworkPackage

/-- Whether the identifier is defined as a call of a factory. -/
def isApplication (s : Scope) (id : Ident) : Bool :=
  match s.get? id with
  | some (.called callee) => s.isFactory callee
  | _ => false

/-- The role of calls to a member: `router` or `model`, written as a plain name
after a dot, of a plain identifier that is an application. -/
def memberRole (s : Scope) (member : Tree Node) : Role :=
  match (member.child? .object).bind Tree.ident?, (member.child? .property).map Tree.label with
  | some app, some (.propertyName method) =>
    if s.isApplication app then
      if method == routerMethod then .router app
      else if method == modelMethod then .model app
      else .other
    else .other
  | _, _ => .other

/-- The role of a call, from its callee alone. -/
def callRole (s : Scope) (call : Tree Node) : Role :=
  match call.child? .callee with
  | some callee =>
    match callee.label with
    | .identifier name => if s.isFactory ⟨name, callee.root.context⟩ then .factory else .other
    | .member => s.memberRole callee
    | _ => .other
  | none => .other

/-- The module path that an argument stands for: of a `require` call the module
it names, of a plain identifier the module it comes from. -/
def argumentPath? (s : Scope) (argument : Tree Node) : Option String :=
  argument.plainArgument?.bind fun e =>
    match e.label with
    | .call => e.requiredModule?
    | .identifier name => s.module? ⟨name, e.root.context⟩
    | _ => none

/-- The module path that a call registers, read off its first argument. -/
def modulePath? (s : Scope) (call : Tree Node) : Option String :=
  (call.child? .arguments).bind s.argumentPath?

end Scope

end HotReload
