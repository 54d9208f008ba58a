/-
# Changing the scopes and the places of a tree

A map of nodes that leaves alone which child of its parent a node is and what
kind of node it is, up to its place in the text, and that changes identifiers by
a map that keeps their names, changes nothing that is read off a tree except the
identifiers that are found in it.

Key definitions: `Rescopes`.
Key theorems: `Rescopes.observe`, `Rescopes.child?_map`, `Rescopes.children_map`,
`Rescopes.requiredModule?_map`.
-/
import HotReload.HotUnit.Adoption
import HotReload.Scope

namespace HotReload

/-- The map `g` changes a node in nothing but its place and, if it is an
identifier, in its scope, which it changes as `φ` does. -/
structure Rescopes (g : Node → Node) (φ : Ident → Ident) : Prop where
  field : ∀ n, (g n).field = n.field
  unplaced : ∀ n, (g n).label.unplaced = n.label.unplaced
  ident? : ∀ n, (g n).ident? = n.ident?.map φ
  name : ∀ id, (φ id).name = id.name

namespace Rescopes

variable {g : Node → Node} {φ : Ident → Ident} (h : Rescopes g φ)

include h

/-- What does not depend on places in the text is the same for both nodes. -/
theorem observe {β : Type} {F : Label → β} (hF : ∀ l, F l.unplaced = F l) (n : Node) :
    F (g n).label = F n.label := by
  rw [← hF, h.unplaced, hF]

/-! ### Kinds of node -/

theorem isCall (n : Node) : (g n).isCall = n.isCall :=
  h.observe (F := (· == .call)) (fun l => by cases l <;> rfl) n

theorem isFunction (n : Node) : (g n).isFunction = n.isFunction :=
  h.observe (F := Label.isFunction) (fun l => by cases l <;> rfl) n

theorem isStatement (n : Node) : (g n).isStatement = n.isStatement := by
  have hmodule : (g n).label.isModuleDeclaration = n.label.isModuleDeclaration :=
    h.observe (F := Label.isModuleDeclaration) (fun l => by cases l <;> rfl) n
  unfold Node.isStatement
  rw [h.field, hmodule]

/-! ### Children -/

theorem find?_field (f : Field) (forest : Forest Node) :
    (forest.map g).child? f = (forest.child? f).map (Tree.map g) := by
  induction forest with
  | nil => rfl
  | cons n kids rest _ ih =>
    show (if (g n).field == f then some _ else (rest.map g).find? _) =
      (if n.field == f then some _ else rest.find? _).map (Tree.map g)
    rw [h.field]
    split
    · rfl
    · exact ih

theorem child?_map (t : Tree Node) (f : Field) :
    (t.map g).child? f = (t.child? f).map (Tree.map g) := h.find?_field f t.children

theorem children_map (forest : Forest Node) (f : Field) :
    (forest.map g).children f = (forest.children f).map (Tree.map g) := by
  unfold Forest.children
  induction forest with
  | nil => rfl
  | cons n kids rest _ ih =>
    show List.filter _ (Tree.map g ⟨n, kids⟩ :: (rest.map g).toList) =
      (List.filter _ (⟨n, kids⟩ :: rest.toList)).map _
    have hfield : ((Tree.map g ⟨n, kids⟩).root.field == f) = (n.field == f) := by
      show ((g n).field == f) = _
      rw [h.field]
    rw [List.filter_cons, List.filter_cons, hfield, ih]
    split <;> rfl

/-! ### What is read off a tree -/

variable (t : Tree Node)

theorem ident?_map : (t.map g).ident? = t.ident?.map φ := h.ident? t.root

theorem stringValue?_map : (t.map g).stringValue? = t.stringValue? :=
  h.observe (F := fun l => Tree.stringValue? (.ofLabel l [])) (fun l => by cases l <;> rfl) t.root

theorem plainArgument?_map : (t.map g).plainArgument? = t.plainArgument?.map (Tree.map g) := by
  have hplain : ∀ s : Tree Node,
      s.plainArgument? = if s.label == .argument none then s.child? .expression else none := by
    rintro ⟨⟨_, label, _, _⟩, _⟩
    cases label with
    | argument spread => cases spread <;> rfl
    | _ => rfl
  have hlabel : ((t.map g).label == .argument none) = (t.label == .argument none) :=
    h.observe (F := (· == .argument none)) (fun l => by
      cases l with
      | argument spread => cases spread <;> rfl
      | _ => rfl) t.root
  rw [hplain, hplain, hlabel, h.child?_map]
  split <;> rfl

theorem calledIdent?_map : (t.map g).calledIdent? = t.calledIdent?.map φ := by
  unfold Tree.calledIdent?
  rw [show (t.map g).root.isCall = t.root.isCall from h.isCall _, h.child?_map]
  split
  · cases t.child? .callee with
    | none => rfl
    | some callee => exact h.ident?_map callee
  · rfl

theorem isRequire_map : (t.map g).isRequire = t.isRequire := by
  unfold Tree.isRequire
  rw [h.calledIdent?_map, Option.any_map]
  simp only [h.name]

theorem requiredModule?_map : (t.map g).requiredModule? = t.requiredModule? := by
  unfold Tree.requiredModule?
  rw [h.isRequire_map, h.child?_map]
  cases t.child? .arguments with
  | none => rfl
  | some argument =>
    show (if _ then ((argument.map g).plainArgument?).bind Tree.stringValue? else none) = _
    rw [h.plainArgument?_map, Option.bind_map]
    simp only [Function.comp_def, h.stringValue?_map]
    rfl

end Rescopes

end HotReload
