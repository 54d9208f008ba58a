/-
# Changing the nodes of a tree at their addresses

A map that is told the address of a node changes every node of a tree in its place.
What is at an address afterwards is the changed node that was there, so a tree of the
same shape as another is the other with its nodes changed. Changing the nodes and
replacing the tree at an address can be done in either order, if the map leaves alone
what is put there.

Key definitions: `Forest.mapAt`, `Tree.mapAt`.
Key theorems: `Tree.treeAt?_mapAt`, `Tree.nodeAt?_mapAt`, `Tree.replaceAt_mapAt`,
`Tree.ext_nodeAt?`, `Tree.eq_mapAt_of_nodeAt?`.
-/
import HotReload.Proofs.Tree.Address

namespace HotReload

variable {α β : Type}

namespace Forest

/-- The forest with every node changed by `g`, which is given the address of the node.
The first tree has the number `i`. -/
def mapAt (g : List Nat → α → β) : Forest α → Nat → Forest β
  | nil, _ => nil
  | cons a kids rest, i => cons (g [i] a) (kids.mapAt (fun p => g (i :: p)) 0) (rest.mapAt g (i + 1))

end Forest

namespace Tree

/-- The tree with every node changed by `g`, which is given the address of the node. -/
def mapAt (g : List Nat → α → β) (t : Tree α) : Tree β := ⟨g [] t.root, t.children.mapAt g 0⟩

@[simp] theorem root_mapAt (g : List Nat → α → β) (t : Tree α) :
    (t.mapAt g).root = g [] t.root := rfl

end Tree

namespace Forest

theorem treeAt?_mapAt (g : List Nat → α → β) (f : Forest α) (i j : Nat) (p : List Nat) :
    (f.mapAt g i).treeAt? j p =
      (f.treeAt? j p).map (Tree.mapAt fun q => g ((i + j) :: (p ++ q))) := by
  induction f generalizing g i j p with
  | nil => rfl
  | cons a kids rest ihk ihr =>
    rcases j with _ | j
    · rcases p with _ | ⟨k, p⟩
      · rfl
      · have hkids := ihk (fun q => g (i :: q)) 0 k p
        rw [Nat.zero_add] at hkids
        exact hkids
    · have hindex : i + 1 + j = i + (j + 1) := by omega
      have hrest := ihr g (i + 1) j p
      rw [hindex] at hrest
      exact hrest

/-- Two maps that agree on what the forest can hold change it alike. -/
theorem mapAt_congr {g g' : List Nat → α → β} (f : Forest α) {i : Nat}
    (h : ∀ j p a, i ≤ j → g (j :: p) a = g' (j :: p) a) : f.mapAt g i = f.mapAt g' i := by
  induction f generalizing g g' i with
  | nil => rfl
  | cons a kids rest ihk ihr =>
    have hkids : kids.mapAt (fun p => g (i :: p)) 0 = kids.mapAt (fun p => g' (i :: p)) 0 :=
      ihk fun j p b _ => h i (j :: p) b (Nat.le_refl i)
    have hrest : rest.mapAt g (i + 1) = rest.mapAt g' (i + 1) :=
      ihr fun j p b hj => h j p b (by omega)
    rw [mapAt, mapAt, h i [] a (Nat.le_refl i), hkids, hrest]

theorem mapAt_id (f : Forest α) (i : Nat) : f.mapAt (fun _ a => a) i = f := by
  induction f generalizing i with
  | nil => rfl
  | cons a kids rest ihk ihr => rw [mapAt, ihk, ihr]

/-- Changing the nodes and replacing a tree commute, if the map leaves alone what is put
in the place of the tree. -/
theorem replaceAt_mapAt {g g' : List Nat → α → α} (f : Forest α) (i j : Nat) (p : List Nat)
    (u : Tree α) (hinside : ∀ q a, g' ((i + j) :: (p ++ q)) a = a)
    (houtside : ∀ address a, ¬ ((i + j) :: p) <+: address → g' address a = g address a) :
    (f.replaceAt j p u).mapAt g' i = (f.mapAt g i).replaceAt j p u := by
  induction f generalizing g g' i j p with
  | nil => rfl
  | cons a kids rest ihk ihr =>
    rcases j with _ | j
    · -- the trees behind have a greater number, so nothing is replaced there
      have hrest : rest.mapAt g' (i + 1) = rest.mapAt g (i + 1) := by
        apply mapAt_congr
        intro k q b hk
        apply houtside
        intro hprefix
        obtain ⟨hindex, -⟩ := List.cons_prefix_cons.mp hprefix
        omega
      rcases p with _ | ⟨k, p⟩
      · have hkept : u.children.mapAt (fun q => g' (i :: q)) 0 =
            u.children.mapAt (fun _ b => b) 0 :=
          mapAt_congr u.children fun k q b _ => hinside (k :: q) b
        have hkids : u.children.mapAt (fun q => g' (i :: q)) 0 = u.children := by
          rw [hkept, mapAt_id]
        have hroot : g' [i] u.root = u.root := hinside [] u.root
        rw [replaceAt, mapAt, mapAt, replaceAt, hroot, hkids, hrest]
      · have hroot : g' [i] a = g [i] a := houtside [i] a (by simp)
        have hkids : (kids.replaceAt k p u).mapAt (fun q => g' (i :: q)) 0 =
            (kids.mapAt (fun q => g (i :: q)) 0).replaceAt k p u := by
          apply ihk
          · intro q b
            simpa using hinside q b
          · intro q b hq
            exact houtside (i :: q) b (by simpa using hq)
        rw [replaceAt, mapAt, mapAt, replaceAt, hroot, hkids, hrest]
    · have hindex : i + 1 + j = i + (j + 1) := by omega
      have haway : ∀ q b, g' (i :: q) b = g (i :: q) b := by
        intro q b
        apply houtside
        intro hprefix
        obtain ⟨heq, -⟩ := List.cons_prefix_cons.mp hprefix
        omega
      have hkids : kids.mapAt (fun q => g' (i :: q)) 0 = kids.mapAt (fun q => g (i :: q)) 0 :=
        mapAt_congr kids fun k q b _ => haway (k :: q) b
      have hrest : (rest.replaceAt j p u).mapAt g' (i + 1) = (rest.mapAt g (i + 1)).replaceAt j p u := by
        apply ihr
        · rw [hindex]
          exact hinside
        · rw [hindex]
          exact houtside
      rw [replaceAt, mapAt, mapAt, replaceAt, haway [] a, hkids, hrest]

/-- Forests with the same nodes at the same addresses are the same. -/
theorem ext_nodeAt? {f f' : Forest α}
    (h : ∀ i p, (f.treeAt? i p).map Tree.root = (f'.treeAt? i p).map Tree.root) : f = f' := by
  induction f generalizing f' with
  | nil =>
    cases f' with
    | nil => rfl
    | cons a' kids' rest' => simpa [treeAt?] using h 0 []
  | cons a kids rest ihk ihr =>
    cases f' with
    | nil => simpa [treeAt?] using h 0 []
    | cons a' kids' rest' =>
      have hroot : a = a' := by simpa [treeAt?] using h 0 []
      have hkids : kids = kids' := ihk fun i p => h 0 (i :: p)
      have hrest : rest = rest' := ihr fun i p => h (i + 1) p
      rw [hroot, hkids, hrest]

end Forest

namespace Tree

/-- What is at an address is the tree that was there, changed. -/
theorem treeAt?_mapAt (g : List Nat → α → β) (t : Tree α) (address : List Nat) :
    (t.mapAt g).treeAt? address = (t.treeAt? address).map (mapAt fun q => g (address ++ q)) := by
  rcases address with _ | ⟨i, p⟩
  · rfl
  · have hkids := t.children.treeAt?_mapAt g 0 i p
    rw [Nat.zero_add] at hkids
    exact hkids

/-- What is at an address is the node that was there, changed. -/
theorem nodeAt?_mapAt (g : List Nat → α → β) (t : Tree α) (address : List Nat) :
    (t.mapAt g).nodeAt? address = (t.nodeAt? address).map (g address) := by
  rw [nodeAt?, treeAt?_mapAt, nodeAt?, Option.map_map, Option.map_map]
  congr 1
  funext u
  exact congrArg (g · u.root) (List.append_nil address)

/-- Changing the nodes and replacing a tree commute, if the map leaves alone what is put
in the place of the tree. -/
theorem replaceAt_mapAt {g g' : List Nat → α → α} (t : Tree α) (address : List Nat) (u : Tree α)
    (hinside : ∀ q a, g' (address ++ q) a = a)
    (houtside : ∀ other a, ¬ address <+: other → g' other a = g other a) :
    (t.replaceAt address u).mapAt g' = (t.mapAt g).replaceAt address u := by
  rcases address with _ | ⟨i, p⟩
  · have hkept : u.children.mapAt g' 0 = u.children.mapAt (fun _ b => b) 0 :=
      u.children.mapAt_congr fun k q b _ => hinside (k :: q) b
    have hkids : u.children.mapAt g' 0 = u.children := by
      rw [hkept, Forest.mapAt_id]
    have hroot : g' [] u.root = u.root := hinside [] u.root
    rw [replaceAt, replaceAt, mapAt, hroot, hkids]
  · have hroot : g' [] t.root = g [] t.root := houtside [] t.root (by simp)
    have hkids : (t.children.replaceAt i p u).mapAt g' 0 =
        (t.children.mapAt g 0).replaceAt i p u := by
      apply t.children.replaceAt_mapAt
      · rw [Nat.zero_add]
        exact hinside
      · rw [Nat.zero_add]
        exact houtside
    rw [replaceAt, replaceAt, mapAt, mapAt, hroot, hkids]

/-- Going down along one address and then another is going down along both. -/
theorem treeAt?_append (t : Tree α) (address more : List Nat) :
    t.treeAt? (address ++ more) = (t.treeAt? address).bind (·.treeAt? more) := by
  have hforest : ∀ (f : Forest α) (i : Nat) (p : List Nat),
      f.treeAt? i (p ++ more) = (f.treeAt? i p).bind (·.treeAt? more) := by
    intro f
    induction f with
    | nil => exact fun i p => rfl
    | cons a kids rest ihk ihr =>
      intro i p
      rcases i with _ | i
      · rcases p with _ | ⟨j, p⟩
        · rcases more with _ | ⟨j, more⟩ <;> rfl
        · exact ihk j p
      · exact ihr i p
  rcases address with _ | ⟨i, p⟩
  · rfl
  · exact hforest t.children i p

/-- What is reached in the forest of a tree alone is reached in the tree. -/
theorem treeAt?_of_toForest {t u : Tree α} {j : Nat} {p : List Nat}
    (h : t.toForest.treeAt? j p = some u) : j = 0 ∧ t.treeAt? p = some u := by
  rcases j with _ | j
  · rcases p with _ | ⟨k, p⟩
    · exact ⟨rfl, h⟩
    · exact ⟨rfl, h⟩
  · cases h

/-- Changing the forest of a tree alone is changing the tree; the tree itself has a number
in its forest. -/
theorem toForest_mapAt (g : List Nat → α → β) (t : Tree α) :
    (t.mapAt g).toForest = t.toForest.mapAt (fun p => g p.tail) 0 := rfl

/-- Trees with the same nodes at the same addresses are the same. -/
theorem ext_nodeAt? {t t' : Tree α} (h : ∀ address, t.nodeAt? address = t'.nodeAt? address) :
    t = t' := by
  have hroot : t.root = t'.root := Option.some.inj (h [])
  have hkids : t.children = t'.children := Forest.ext_nodeAt? fun i p => h (i :: p)
  rcases t with ⟨root, kids⟩
  rcases t' with ⟨root', kids'⟩
  subst hroot hkids
  rfl

/-- A tree whose nodes are those of another one, changed, is the other one with its
nodes changed. -/
theorem eq_mapAt_of_nodeAt? {g : List Nat → α → β} {t : Tree α} {t' : Tree β}
    (h : ∀ address, t'.nodeAt? address = (t.nodeAt? address).map (g address)) :
    t' = t.mapAt g := by
  apply ext_nodeAt?
  intro address
  rw [h, nodeAt?_mapAt]

end Tree

end HotReload
