/-
# The hot-reload unit as a statement of the program

The source text of the unit is read back as a script. What comes out belongs to
no scope of the program yet: the identifiers with the application's name are
given the application's scope, and nothing in the unit has a place in the
program's text.

Key definitions: `HotUnit.statement`, `Node.adopt`, `Tree.adopt`,
`HotUnit.adopted`.
-/
import HotReload.HotUnit.Source
import HotReload.Script.Reader

namespace HotReload

/-- The label without places in a source text. -/
def Label.unplaced : Label → Label
  | spreadElement _ => spreadElement .none
  | restElement _ => restElement .none
  | argument spread => argument (spread.map fun _ => .none)
  | l => l

/-- The node as one of a program in which `app` is the application: without a
place, and in the application's scope if it is an identifier of that name that
belongs to no scope. -/
def Node.adopt (app : Ident) (n : Node) : Node :=
  { n with
    label := n.label.unplaced
    span := .none
    context := if n.ident? = some ⟨app.name, 0⟩ then app.context else n.context }

/-- The tree with all its nodes adopted. -/
def Tree.adopt (app : Ident) (t : Tree Node) : Tree Node := t.map (Node.adopt app)

namespace HotUnit

/-- The unit as one statement; a block if its text holds several or none. -/
def statement (u : HotUnit) : Except Script.Fault (Tree Node) := Script.readStatement u.source

/-- The unit as a statement of a program in which `app` is the application. -/
def adopted (u : HotUnit) (app : Ident) : Except Script.Fault (Tree Node) :=
  u.statement.map (Tree.adopt app)

end HotUnit

end HotReload
