/-
# Trees that are syntax

A tree of nodes can put any kind of node anywhere; a program cannot. In a tree
that is syntax every child stands in one of the fields of its parent, the name of
a property is no identifier, the body of a function or a handler is a block, or
an expression if the function is an arrow, and imports and exports stand directly
in a module. What holds of a parent and a child anywhere in the tree holds of
consecutive nodes on the trail of a call.

Key definitions: `Label.Admits`, `Forest.IsSyntax`, `Tree.IsSyntax`.
Key theorems: `Tree.IsSyntax.admits`, `Tree.IsSyntax.admits_of_mem_callSites`.
-/
import HotReload.Proofs.Rewrite

namespace HotReload

namespace Label

/-- Whether a node of this kind is an arrow function, whose body may be an
expression. -/
def isArrow : Label → Bool
  | arrow _ _ => true
  | _ => false

/-- Whether a node of this kind is a module, in which imports and exports stand. -/
def isModuleRoot : Label → Bool
  | moduleRoot _ => true
  | _ => false

/-- A node of the kind `l` can have this child. -/
structure Admits (l : Label) (child : Node) : Prop where
  field : child.field ∈ l.layout.map Prod.fst
  name : l.namesProperty child.field = true → child.ident? = none
  body : child.field = .body → l.isArrow = true ∨ child.label = .block
  declaration : child.label.isModuleDeclaration = true → l.isModuleRoot = true

instance (l : Label) (child : Node) : Decidable (l.Admits child) :=
  decidable_of_iff
    ((child.field ∈ l.layout.map Prod.fst ∧
        (l.namesProperty child.field = true → child.ident? = none)) ∧
      (child.field = .body → l.isArrow = true ∨ child.label = .block) ∧
      (child.label.isModuleDeclaration = true → l.isModuleRoot = true))
    ⟨fun h => ⟨h.1.1, h.1.2, h.2.1, h.2.2⟩, fun h => ⟨⟨h.field, h.name⟩, h.body, h.declaration⟩⟩

end Label

/-- The forest can be the children of a node of the kind `parent`, and so on down to
the leaves. -/
def Forest.IsSyntax (parent : Label) : Forest Node → Prop
  | .nil => True
  | .cons n kids rest => parent.Admits n ∧ kids.IsSyntax n.label ∧ rest.IsSyntax parent

instance Forest.decidableIsSyntax (parent : Label) :
    (f : Forest Node) → Decidable (f.IsSyntax parent)
  | .nil => isTrue trivial
  | .cons n kids rest =>
    have := decidableIsSyntax n.label kids
    have := decidableIsSyntax parent rest
    inferInstanceAs (Decidable (_ ∧ _ ∧ _))

/-- Every node of the tree can have the children that it has. -/
def Tree.IsSyntax (t : Tree Node) : Prop := t.children.IsSyntax t.label

instance (t : Tree Node) : Decidable t.IsSyntax := Forest.decidableIsSyntax t.label t.children

/-- What is at an address in a forest that is syntax is syntax, and at the top it
is a child that its parent can have. -/
theorem Forest.IsSyntax.treeAt? {f : Forest Node} {parent : Label} (h : f.IsSyntax parent)
    {i : Nat} {p : List Nat} {t : Tree Node} (ht : f.treeAt? i p = some t) :
    t.IsSyntax ∧ (p = [] → parent.Admits t.root) := by
  induction f generalizing parent i p with
  | nil => simp [Forest.treeAt?] at ht
  | cons n kids rest ihk ihr =>
    obtain ⟨hadmits, hkids, hrest⟩ := h
    rcases i with _ | i
    · rcases p with _ | ⟨j, p⟩
      · obtain rfl : t = ⟨n, kids⟩ := by simpa [Forest.treeAt?, eq_comm] using ht
        exact ⟨hkids, fun _ => hadmits⟩
      · exact ⟨(ihk hkids ht).1, by simp⟩
    · exact ihr hrest ht

namespace Tree

theorem IsSyntax.treeAt? {t u : Tree Node} (h : t.IsSyntax) {address : List Nat}
    (hu : t.treeAt? address = some u) : u.IsSyntax := by
  rcases address with _ | ⟨i, p⟩
  · obtain rfl : t = u := Option.some.inj hu
    exact h
  · exact (Forest.IsSyntax.treeAt? h hu).1

/-- A parent in a tree that is syntax can have each of its children. -/
theorem IsSyntax.admits {t : Tree Node} (h : t.IsSyntax) {address : List Nat} {i : Nat}
    {parent child : Node} (hparent : t.nodeAt? address = some parent)
    (hchild : t.nodeAt? (address ++ [i]) = some child) : parent.label.Admits child := by
  obtain ⟨u, hu, rfl⟩ := Option.map_eq_some_iff.mp hparent
  obtain ⟨v, hv, rfl⟩ := Option.map_eq_some_iff.mp hchild
  rw [treeAt?_concat, hu] at hv
  exact (Forest.IsSyntax.treeAt? (h.treeAt? hu) hv).2 rfl

end Tree

/-- Each node on the trail of a call can have the next one for a child. -/
theorem Tree.IsSyntax.admits_of_mem_callSites {program : Tree Node} (h : program.IsSyntax)
    {site : Site} (hsite : site ∈ program.callSites) {outer inner : Trail} {parent child : Step}
    (htrail : site.trail = outer ++ parent :: child :: inner) :
    parent.node.label.Admits child.node := by
  obtain ⟨-, -, hnodes⟩ := Tree.trail_of_mem_callSites hsite
  have hparent := hnodes outer parent (child :: inner) htrail
  have hchild := hnodes (outer ++ [parent]) child inner (by simpa using htrail)
  rw [Trail.address_concat (by simp)] at hchild
  exact h.admits hparent hchild

end HotReload
