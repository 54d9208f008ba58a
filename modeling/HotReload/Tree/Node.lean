/-
# Programs as trees of nodes

A node of a program has a kind, the scope number of its name if it is a
resolved identifier, a place in the source text, and the field of its parent
that it fills. A program is a tree of nodes whose children stand in visit order.

Key definitions: `Node`, `Node.isStatement`, `Node.ident?`, `Tree.ofLabel`,
`Tree.child?`, `Tree.fill`.
-/
import HotReload.Tree.Forest
import HotReload.Tree.Label

namespace HotReload

/-- One node: the field of its parent that it fills, what it is, its scope
number (meaningful on resolved identifiers only) and its place in the text. -/
structure Node where
  field : Field
  label : Label
  context : Nat
  span : Span
deriving DecidableEq

namespace Node

/-- Whether the node is a statement: it fills a field for statements and is
neither an import nor an export. -/
def isStatement (n : Node) : Bool :=
  n.field.holdsStatement && !n.label.isModuleDeclaration

/-- Whether the node bounds a function. -/
def isFunction (n : Node) : Bool := n.label.isFunction

/-- Whether the node is a call. -/
def isCall (n : Node) : Bool := n.label == .call

/-- The resolved identifier that the node is, if it is one. -/
def ident? (n : Node) : Option Ident :=
  match n.label with
  | .identifier name => some ⟨name, n.context⟩
  | _ => none

end Node

/-- The trees of a forest that fill the field `f`, in order. -/
def Forest.children (forest : Forest Node) (f : Field) : List (Tree Node) :=
  forest.toList.filter (·.root.field == f)

/-- The first tree of a forest that fills the field `f`. -/
def Forest.child? (forest : Forest Node) (f : Field) : Option (Tree Node) :=
  forest.find? (·.field == f)

namespace Tree

/-- A tree without a place in a source text, fresh from its kind and its
children. -/
def ofLabel (l : Label) (kids : List (Tree Node)) : Tree Node :=
  ⟨⟨.root, l, 0, .none⟩, .ofList kids⟩

/-- The tree as a child that fills the field `f`. -/
def fill (t : Tree Node) (f : Field) : Tree Node :=
  { t with root := { t.root with field := f } }

/-- The first child that fills the field `f`. -/
def child? (t : Tree Node) (f : Field) : Option (Tree Node) := t.children.child? f

/-- What the root of the tree is. -/
def label (t : Tree Node) : Label := t.root.label

/-- The resolved identifier that the tree is, if it is one. -/
def ident? (t : Tree Node) : Option Ident := t.root.ident?

end Tree

end HotReload
