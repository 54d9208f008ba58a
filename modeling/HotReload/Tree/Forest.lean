/-
# Ordered forests

A forest is a list of trees, each a root with the forest of its children.
One recursive type serves for trees and for lists of them, so every fact about
a program is one induction with two hypotheses: the children and the rest.

Key definitions: `Forest`, `Tree`, `Forest.map`, `Forest.preorder`,
`Forest.find?`.
Key theorems: `Forest.toList_ofList`, `Forest.ofList_toList`, `Forest.map_id`,
`Forest.preorder_map`.
-/

namespace HotReload

/-- A list of trees whose nodes carry an `α`: empty, or a first tree (its root
and the forest of its children) and the rest. -/
inductive Forest (α : Type) where
  | nil
  | cons (root : α) (children rest : Forest α)
deriving DecidableEq

/-- A root and the forest of its children. -/
structure Tree (α : Type) where
  root : α
  children : Forest α
deriving DecidableEq

namespace Forest

variable {α β γ : Type}

/-- The trees of the forest, in order. -/
def toList : Forest α → List (Tree α)
  | nil => []
  | cons a kids rest => ⟨a, kids⟩ :: toList rest

/-- The forest of the given trees, in order. -/
def ofList : List (Tree α) → Forest α
  | [] => nil
  | t :: ts => cons t.root t.children (ofList ts)

/-- The forest with `f` applied to every node. -/
def map (f : α → β) : Forest α → Forest β
  | nil => nil
  | cons a kids rest => cons (f a) (map f kids) (map f rest)

/-- Every tree in the forest, at any depth: a parent before its children,
children in order. -/
def preorder : Forest α → List (Tree α)
  | nil => []
  | cons a kids rest => ⟨a, kids⟩ :: (preorder kids ++ preorder rest)

/-- The first tree of the forest, not looking below the roots, whose root
satisfies `p`. -/
def find? (p : α → Bool) : Forest α → Option (Tree α)
  | nil => none
  | cons a kids rest => if p a then some ⟨a, kids⟩ else find? p rest

@[simp] theorem toList_ofList (ts : List (Tree α)) : (ofList ts).toList = ts := by
  induction ts with
  | nil => rfl
  | cons t ts ih => simp [ofList, toList, ih]

@[simp] theorem ofList_toList (f : Forest α) : ofList f.toList = f := by
  induction f with
  | nil => rfl
  | cons a kids rest _ ih => simp [toList, ofList, ih]

@[simp] theorem map_id (f : Forest α) : f.map id = f := by
  induction f with
  | nil => rfl
  | cons a kids rest ihk ihr => simp [map, ihk, ihr]

@[simp] theorem map_map (g : β → γ) (h : α → β) (f : Forest α) :
    (f.map h).map g = f.map (g ∘ h) := by
  induction f with
  | nil => rfl
  | cons a kids rest ihk ihr => simp [map, ihk, ihr]

end Forest

namespace Tree

variable {α β : Type}

/-- The tree with `f` applied to every node. -/
def map (f : α → β) (t : Tree α) : Tree β := ⟨f t.root, t.children.map f⟩

/-- The tree itself and every tree below it, a parent before its children. -/
def preorder (t : Tree α) : List (Tree α) := t :: t.children.preorder

/-- The forest that holds this tree alone. -/
def toForest (t : Tree α) : Forest α := .cons t.root t.children .nil

@[simp] theorem preorder_toForest (t : Tree α) : t.toForest.preorder = t.preorder := by
  simp [toForest, preorder, Forest.preorder]

end Tree

/-- Mapping a forest maps the trees of its preorder. -/
theorem Forest.preorder_map {α β : Type} (g : α → β) (f : Forest α) :
    (f.map g).preorder = f.preorder.map (Tree.map g) := by
  induction f with
  | nil => rfl
  | cons a kids rest ihk ihr => simp [map, preorder, ihk, ihr, Tree.map]

end HotReload
