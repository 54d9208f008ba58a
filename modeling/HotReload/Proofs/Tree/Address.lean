/-
# Addresses in a tree

An address is the way from the root of a tree to one of its nodes: for every
step down, the number of the child. Replacing the tree at an address changes
what is at the address and below it, and every other node stays what it was
(`Tree.nodeAt?_replaceAt`).

Key definitions: `Tree.treeAt?`, `Tree.nodeAt?`, `Tree.replaceAt`.
Key theorems: `Tree.treeAt?_concat`, `Tree.nodeAt?_map`,
`Tree.treeAt?_replaceAt_self`, `Tree.nodeAt?_replaceAt`.
-/
import HotReload.Tree.Forest

namespace HotReload

namespace Forest

variable {α : Type}

/-- What is reached from the tree with number `i` by the given further steps. -/
def treeAt? : Forest α → Nat → List Nat → Option (Tree α)
  | nil, _, _ => none
  | cons a kids _, 0, [] => some ⟨a, kids⟩
  | cons _ kids _, 0, j :: p => kids.treeAt? j p
  | cons _ _ rest, i + 1, p => rest.treeAt? i p

/-- The forest with `t` for what is reached from the tree with number `i` by the
given further steps. -/
def replaceAt : Forest α → Nat → List Nat → Tree α → Forest α
  | nil, _, _, _ => nil
  | cons _ _ rest, 0, [], t => cons t.root t.children rest
  | cons a kids rest, 0, j :: p, t => cons a (kids.replaceAt j p t) rest
  | cons a kids rest, i + 1, p, t => cons a kids (rest.replaceAt i p t)

theorem treeAt?_replaceAt_self {f : Forest α} {i : Nat} {p : List Nat} {u : Tree α}
    (h : f.treeAt? i p = some u) (t : Tree α) : (f.replaceAt i p t).treeAt? i p = some t := by
  induction f generalizing i p with
  | nil => simp [treeAt?] at h
  | cons a kids rest ihk ihr =>
    rcases i with _ | i
    · rcases p with _ | ⟨j, p⟩
      · simp [replaceAt, treeAt?]
      · exact ihk h
    · exact ihr h

/-- The root of what is at an address that is not below the replaced one. -/
theorem treeAt?_replaceAt_root (f : Forest α) (i : Nat) (p : List Nat) (t : Tree α)
    {j : Nat} {q : List Nat} (h : ¬ (i :: p) <+: (j :: q)) :
    ((f.replaceAt i p t).treeAt? j q).map Tree.root = (f.treeAt? j q).map Tree.root := by
  induction f generalizing i p j q with
  | nil => rfl
  | cons a kids rest ihk ihr =>
    rcases i with _ | i
    · rcases p with _ | ⟨k, p⟩
      · rcases j with _ | j
        · exact absurd (by simp) h
        · rfl
      · rcases j with _ | j
        · rcases q with _ | ⟨l, q⟩
          · rfl
          · exact ihk k p fun hp => h (by simpa using hp)
        · rfl
    · rcases j with _ | j
      · rcases q with _ | ⟨l, q⟩ <;> rfl
      · exact ihr i p fun hp => h (by simpa using hp)

end Forest

namespace Tree

variable {α : Type}

/-- The tree at an address; the empty address is that of the tree itself. -/
def treeAt? (t : Tree α) : List Nat → Option (Tree α)
  | [] => some t
  | i :: p => t.children.treeAt? i p

/-- The node at an address. -/
def nodeAt? (t : Tree α) (address : List Nat) : Option α := (t.treeAt? address).map root

/-- Going one step further down from an address is going one step down from what is
there. -/
theorem treeAt?_concat (t : Tree α) (address : List Nat) (i : Nat) :
    t.treeAt? (address ++ [i]) = (t.treeAt? address).bind (·.children.treeAt? i []) := by
  have hforest : ∀ (f : Forest α) (j : Nat) (p : List Nat),
      f.treeAt? j (p ++ [i]) = (f.treeAt? j p).bind (·.children.treeAt? i []) := by
    intro f
    induction f with
    | nil => intro j p; rfl
    | cons a kids rest ihk ihr =>
      intro j p
      rcases j with _ | j
      · rcases p with _ | ⟨k, p⟩
        · rfl
        · exact ihk k p
      · exact ihr j p
  rcases address with _ | ⟨j, p⟩
  · rfl
  · exact hforest t.children j p

/-- Mapping a tree maps the nodes at its addresses. -/
theorem nodeAt?_map {β : Type} (g : α → β) (t : Tree α) (address : List Nat) :
    (t.map g).nodeAt? address = (t.nodeAt? address).map g := by
  have hforest : ∀ (f : Forest α) (j : Nat) (p : List Nat),
      ((f.map g).treeAt? j p).map root = ((f.treeAt? j p).map root).map g := by
    intro f
    induction f with
    | nil => intro j p; rfl
    | cons a kids rest ihk ihr =>
      intro j p
      rcases j with _ | j
      · rcases p with _ | ⟨k, p⟩
        · rfl
        · exact ihk k p
      · exact ihr j p
  rcases address with _ | ⟨j, p⟩
  · rfl
  · exact hforest t.children j p

/-- The tree with `u` for what is at an address. -/
def replaceAt (t : Tree α) (address : List Nat) (u : Tree α) : Tree α :=
  match address with
  | [] => u
  | i :: p => ⟨t.root, t.children.replaceAt i p u⟩

/-- What was put at an address is there. -/
theorem treeAt?_replaceAt_self {t : Tree α} {address : List Nat}
    (h : (t.nodeAt? address).isSome) (u : Tree α) :
    (t.replaceAt address u).treeAt? address = some u := by
  rcases address with _ | ⟨i, p⟩
  · rfl
  · obtain ⟨v, hv⟩ := Option.isSome_iff_exists.mp (by simpa [nodeAt?] using h)
    exact Forest.treeAt?_replaceAt_self hv u

/-- **Replacing a tree changes no node outside of it.** A node whose address does
not lead through the address of the replaced tree is what it was. -/
theorem nodeAt?_replaceAt (t : Tree α) (address : List Nat) (u : Tree α) {other : List Nat}
    (h : ¬ address <+: other) : (t.replaceAt address u).nodeAt? other = t.nodeAt? other := by
  rcases address with _ | ⟨i, p⟩
  · exact absurd List.nil_prefix h
  · rcases other with _ | ⟨j, q⟩
    · rfl
    · exact t.children.treeAt?_replaceAt_root i p u h

end Tree

end HotReload
