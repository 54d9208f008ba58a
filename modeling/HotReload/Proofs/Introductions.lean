/-
# The last introduction of a name

The scope of a program has for a name what the last introduction of the name says. Here
"last" goes by the addresses of a program: they are compared number by number, an address
before those below it, and that is the order of a visit. A declarator introduces a name where
it stands itself, so it counts before the declarators in its pattern and its initializer; an
`import` introduces the local names of its specifiers, each where the specifier stands.

A visit for the names does not go into an `import`, so a declarator that stands there, in the
value of an attribute, introduces nothing that a look-up finds
(`attribute_declarator_not_found`). Everywhere else every declarator and every specifier counts
(`scope_has_last_introduction`).

Key definitions: `Introduction.Says`, `Tree.Introduces`, `Tree.OutsideImports`,
`Tree.IntroducesAt`, `Tree.placed`.
Key theorems: `Introduction.says_iff`, `Forest.map_snd_placed`, `Forest.pairwise_placed`,
`Tree.mem_placed_iff`, `Tree.last_introductions_iff`, `scope_has_last_introduction`,
`attribute_declarator_not_found`.
-/
import HotReload.Proofs.Recognition
import HotReload.Proofs.Tree.MapAt
import Mathlib.Data.List.Lex

namespace HotReload

/-! ### What an introduction says -/

/-- What an introduction says about the value of its name, as it can be read off the syntax. -/
inductive Introduction.Says : Introduction → Definition → Prop where
  | imported (path : String) : Says (.specifier path) (.imported path)
  | required {initializer : Tree Node} {path : String} (h : initializer.Requires path) :
      Says (.declarator (some initializer)) (.required path)
  | called {initializer : Tree Node} {callee : Ident} (h : initializer.Calls callee)
      (hname : callee.name ≠ requireName) :
      Says (.declarator (some initializer)) (.called callee)
  | other {initializer : Tree Node} (hrequires : ∀ path, ¬ initializer.Requires path)
      (hcalls : ∀ callee, initializer.Calls callee → callee.name = requireName) :
      Says (.declarator (some initializer)) .other
  | missing : Says (.declarator none) .other

namespace Definition

variable {initializer : Tree Node}

theorem ofInitializer_ne_imported {path : String} : ofInitializer initializer ≠ .imported path := by
  intro h
  unfold ofInitializer at h
  split at h <;> split at h <;> cases h

/-- An initializer is taken for the loading of a module exactly if it requires it. -/
theorem ofInitializer_eq_required_iff {path : String} :
    ofInitializer initializer = .required path ↔ initializer.Requires path := by
  rw [← module?_ofInitializer_eq_some_iff]
  cases h : ofInitializer initializer with
  | imported source => exact absurd h ofInitializer_ne_imported
  | required source => simp [module?]
  | called callee => simp [module?]
  | other => simp [module?]

/-- Any other initializer neither requires a module nor calls a name but `require`. -/
theorem ofInitializer_eq_other_iff : ofInitializer initializer = .other ↔
    (∀ path, ¬ initializer.Requires path) ∧
      ∀ callee, initializer.Calls callee → callee.name = requireName := by
  constructor
  · intro h
    refine ⟨fun path hrequires => ?_, fun callee hcalls => ?_⟩
    · have hrequired := ofInitializer_eq_required_iff.mpr hrequires
      rw [h] at hrequired
      cases hrequired
    · by_contra hname
      have hcalled := ofInitializer_eq_called_iff.mpr ⟨hcalls, hname⟩
      rw [h] at hcalled
      cases hcalled
  · rintro ⟨hrequires, hcalls⟩
    cases h : ofInitializer initializer with
    | imported path => exact absurd h ofInitializer_ne_imported
    | required path => exact absurd (ofInitializer_eq_required_iff.mp h) (hrequires path)
    | called callee =>
      obtain ⟨hcalled, hname⟩ := ofInitializer_eq_called_iff.mp h
      exact absurd (hcalls callee hcalled) hname
    | other => rfl

end Definition

/-- What an introduction says is what the scope takes it for. -/
theorem Introduction.says_iff {i : Introduction} {d : Definition} :
    i.Says d ↔ i.definition = d := by
  constructor
  · intro h
    cases h with
    | imported path => rfl
    | required h => exact Definition.ofInitializer_eq_required_iff.mpr h
    | called h hname => exact Definition.ofInitializer_eq_called_iff.mpr ⟨h, hname⟩
    | other hrequires hcalls => exact Definition.ofInitializer_eq_other_iff.mpr ⟨hrequires, hcalls⟩
    | missing => rfl
  · rintro rfl
    cases i with
    | specifier path => exact .imported path
    | declarator initializer =>
      cases initializer with
      | none => exact .missing
      | some initializer =>
        have hdefinition : (declarator (some initializer)).definition = .ofInitializer initializer :=
          rfl
        rw [hdefinition]
        cases h : Definition.ofInitializer initializer with
        | imported path => exact absurd h Definition.ofInitializer_ne_imported
        | required path => exact .required (Definition.ofInitializer_eq_required_iff.mp h)
        | called callee =>
          obtain ⟨hcalls, hname⟩ := Definition.ofInitializer_eq_called_iff.mp h
          exact .called hcalls hname
        | other =>
          obtain ⟨hrequires, hcalls⟩ := Definition.ofInitializer_eq_other_iff.mp h
          exact .other hrequires hcalls

/-! ### Where names are introduced -/

namespace Tree

/-- The node at the address `node` introduces the identifier, which it names at the address
`place`. -/
inductive Introduces (program : Tree Node) (id : Ident) :
    List Nat → List Nat → Introduction → Prop where
  /-- A declarator whose pattern is the identifier. -/
  | declarator {node : List Nat} {t : Tree Node} (hnode : program.treeAt? node = some t)
      (hlabel : t.label = .declarator) (hname : (t.child? .pattern).bind ident? = some id) :
      Introduces program id node node (.declarator (t.child? .initializer))
  /-- An import from `path` with a specifier that has the identifier for its local name. -/
  | specifier {node : List Nat} {number : Nat} {t specifier : Tree Node} {phase : ImportPhase}
      {path : String} (hnode : program.treeAt? node = some t)
      (hlabel : t.label = .importDeclaration phase)
      (hpath : (t.child? .source).bind stringValue? = some path)
      (hplace : program.treeAt? (node ++ [number]) = some specifier)
      (hfield : specifier.root.field = .specifiers)
      (hname : (specifier.child? .localName).bind ident? = some id) :
      Introduces program id node (node ++ [number]) (.specifier path)

/-- No import stands above the address. -/
def OutsideImports (program : Tree Node) (address : List Nat) : Prop :=
  ∀ outer n phase, outer <+: address → outer ≠ address →
    program.nodeAt? outer = some n → n.label ≠ .importDeclaration phase

/-- The identifier is introduced at the address `place`, by a node that stands outside of
imports. -/
def IntroducesAt (program : Tree Node) (id : Ident) (place : List Nat) (i : Introduction) : Prop :=
  ∃ node, program.Introduces id node place i ∧ program.OutsideImports node

end Tree

/-! ### The introductions of a program with their places -/

/-- The names that are introduced by the specifiers of an import from `path`, each with the
number of the specifier. The first tree has the number `i`. -/
def Forest.placedSpecifiers (path : String) :
    Forest Node → Nat → List (List Nat × Ident × Introduction)
  | nil, _ => []
  | cons n kids rest, i =>
    (if n.field == .specifiers then
      ((kids.child? .localName).bind Tree.ident?).toList.map ([i], ·, .specifier path)
    else []) ++ rest.placedSpecifiers path (i + 1)

/-- What a node introduces itself, with the ways from the node to where the names stand. -/
def Tree.ownPlaced (t : Tree Node) : List (List Nat × Ident × Introduction) :=
  match t.label with
  | .declarator =>
    ((t.child? .pattern).bind ident?).toList.map ([], ·, .declarator (t.child? .initializer))
  | .importDeclaration _ =>
    ((t.child? .source).bind stringValue?).toList.flatMap (t.children.placedSpecifiers · 0)
  | _ => []

/-- The introductions of a forest in visit order, with the addresses where the names stand.
The first tree has the number `i`. -/
def Forest.placed : Forest Node → Nat → List (List Nat × Ident × Introduction)
  | nil, _ => []
  | cons n kids rest, i =>
    (Tree.ownPlaced ⟨n, kids⟩ ++
      (match n.label with
        | .importDeclaration _ => []
        | _ => kids.placed 0)).map (Prod.map (i :: ·) id) ++ rest.placed (i + 1)

/-- The introductions of a tree in visit order, with the addresses where the names stand. -/
def Tree.placed (t : Tree Node) : List (List Nat × Ident × Introduction) :=
  t.ownPlaced ++
    (match t.label with
      | .importDeclaration _ => []
      | _ => t.children.placed 0)

theorem Forest.placed_cons (n : Node) (kids rest : Forest Node) (i : Nat) :
    (cons n kids rest).placed i =
      (Tree.placed ⟨n, kids⟩).map (Prod.map (i :: ·) id) ++ rest.placed (i + 1) := rfl

theorem Forest.map_snd_placedSpecifiers (path : String) (f : Forest Node) (i : Nat) :
    (f.placedSpecifiers path i).map Prod.snd =
      (f.children .specifiers).filterMap fun specifier =>
        ((specifier.child? .localName).bind Tree.ident?).map (·, .specifier path) := by
  induction f generalizing i with
  | nil => rfl
  | cons n kids rest _ ih =>
    rw [placedSpecifiers, List.map_append, ih, children, children, toList, List.filter_cons]
    by_cases hfield : (n.field == .specifiers) = true
    · rw [if_pos hfield, if_pos hfield, List.filterMap_cons]
      simp only [Tree.child?]
      cases (kids.child? .localName).bind Tree.ident? <;> rfl
    · rw [if_neg hfield, if_neg hfield]
      rfl

theorem Tree.map_snd_ownPlaced (t : Tree Node) : t.ownPlaced.map Prod.snd = t.introductions := by
  unfold ownPlaced introductions
  cases t.label with
  | declarator => cases (t.child? .pattern).bind ident? <;> rfl
  | importDeclaration phase =>
    cases (t.child? .source).bind stringValue? with
    | none => rfl
    | some path =>
      simp only [Option.toList_some, List.flatMap_singleton]
      exact Forest.map_snd_placedSpecifiers path t.children 0
  | _ => rfl

/-- Without their places they are the introductions that a visit meets. -/
theorem Forest.map_snd_placed (f : Forest Node) (i : Nat) :
    (f.placed i).map Prod.snd = f.introductions := by
  induction f generalizing i with
  | nil => rfl
  | cons n kids rest ihk ihr =>
    have hunder : (Prod.snd ∘ Prod.map (i :: ·) id : List Nat × Ident × Introduction → _) =
        Prod.snd := rfl
    rw [placed, List.map_append, List.map_map, hunder, List.map_append, Tree.map_snd_ownPlaced,
      ihr]
    simp only [introductions, outsideImports, List.flatMap_cons, List.flatMap_append,
      List.append_assoc]
    cases hlabel : n.label with
    | importDeclaration phase => rfl
    | _ => rw [ihk, introductions]

theorem Tree.map_snd_placed (program : Tree Node) :
    program.placed.map Prod.snd = program.toForest.introductions := by
  have hforest := Forest.map_snd_placed program.toForest 0
  rw [toForest, Forest.placed_cons, Forest.placed, List.append_nil, List.map_map] at hforest
  exact hforest

/-! ### Their places are those of the introductions -/

theorem Forest.mem_placedSpecifiers {path : String} {f : Forest Node} {i : Nat}
    {e : List Nat × Ident × Introduction} :
    e ∈ f.placedSpecifiers path i ↔ ∃ number specifier id,
      f.treeAt? number [] = some specifier ∧ specifier.root.field = .specifiers ∧
      (specifier.child? .localName).bind Tree.ident? = some id ∧
      e = ([i + number], id, .specifier path) := by
  induction f generalizing i with
  | nil => simp [placedSpecifiers, treeAt?]
  | cons n kids rest _ ih =>
    have hnext (number : Nat) : i + 1 + number = i + (number + 1) := by omega
    rw [placedSpecifiers, List.mem_append, ih]
    constructor
    · rintro (h | ⟨number, specifier, id, hat, hfield, hname, rfl⟩)
      · by_cases hfield : (n.field == .specifiers) = true
        · rw [if_pos hfield] at h
          obtain ⟨id, hid, rfl⟩ := List.mem_map.mp h
          exact ⟨0, ⟨n, kids⟩, id, rfl, beq_iff_eq.mp hfield, Option.mem_toList.mp hid, rfl⟩
        · rw [if_neg hfield] at h
          cases h
      · exact ⟨number + 1, specifier, id, hat, hfield, hname, by rw [hnext]⟩
    · rintro ⟨number, specifier, id, hat, hfield, hname, rfl⟩
      cases number with
      | zero =>
        obtain rfl : (⟨n, kids⟩ : Tree Node) = specifier := Option.some.inj hat
        left
        rw [if_pos (beq_iff_eq.mpr hfield)]
        exact List.mem_map.mpr ⟨id, Option.mem_toList.mpr hname, rfl⟩
      | succ number =>
        right
        exact ⟨number, specifier, id, hat, hfield, hname, by rw [hnext]⟩

theorem Forest.mem_placed {f : Forest Node} {i : Nat} {e : List Nat × Ident × Introduction} :
    e ∈ f.placed i ↔ ∃ number child place, f.treeAt? number [] = some child ∧
      e.1 = (i + number) :: place ∧ (place, e.2) ∈ child.placed := by
  induction f generalizing i with
  | nil => simp [placed, treeAt?]
  | cons n kids rest _ ih =>
    have hnext (number : Nat) : i + 1 + number = i + (number + 1) := by omega
    rw [placed_cons, List.mem_append, ih]
    constructor
    · rintro (h | ⟨number, child, place, hat, hplace, hmem⟩)
      · obtain ⟨⟨place, x⟩, hmem, rfl⟩ := List.mem_map.mp h
        exact ⟨0, ⟨n, kids⟩, place, rfl, rfl, hmem⟩
      · exact ⟨number + 1, child, place, hat, by rw [hplace, hnext], hmem⟩
    · rintro ⟨number, child, place, hat, hplace, hmem⟩
      cases number with
      | zero =>
        obtain rfl : (⟨n, kids⟩ : Tree Node) = child := Option.some.inj hat
        left
        exact List.mem_map.mpr ⟨_, hmem, Prod.ext hplace.symm rfl⟩
      | succ number =>
        right
        exact ⟨number, child, place, hat, by rw [hplace, hnext], hmem⟩

namespace Tree

variable {t : Tree Node} {place : List Nat} {id : Ident} {i : Introduction}

/-- What the root of a tree introduces. -/
theorem mem_ownPlaced : (place, id, i) ∈ t.ownPlaced ↔ t.Introduces id [] place i := by
  unfold ownPlaced
  constructor
  · intro h
    split at h
    · rename_i hlabel
      obtain ⟨id', hid, heq⟩ := List.mem_map.mp h
      cases heq
      exact .declarator rfl hlabel (Option.mem_toList.mp hid)
    · rename_i phase hlabel
      obtain ⟨path, hpath, hmem⟩ := List.mem_flatMap.mp h
      obtain ⟨number, specifier, id', hat, hfield, hname, heq⟩ :=
        Forest.mem_placedSpecifiers.mp hmem
      rw [Nat.zero_add] at heq
      cases heq
      have hspecifier : t.Introduces id [] ([] ++ [number]) (.specifier path) :=
        .specifier rfl hlabel (Option.mem_toList.mp hpath) hat hfield hname
      exact hspecifier
    · cases h
  · intro h
    cases h with
    | @declarator root hnode hlabel hname =>
      obtain rfl : t = root := Option.some.inj hnode
      rw [hlabel]
      exact List.mem_map.mpr ⟨id, Option.mem_toList.mpr hname, rfl⟩
    | @specifier number root specifier phase path hnode hlabel hpath hplace hfield hname =>
      obtain rfl : t = root := Option.some.inj hnode
      rw [hlabel]
      refine List.mem_flatMap.mpr ⟨path, Option.mem_toList.mpr hpath, ?_⟩
      exact Forest.mem_placedSpecifiers.mpr
        ⟨number, specifier, id, hplace, hfield, hname, by rw [Nat.zero_add]; rfl⟩

/-- What is reached through a child is reached in the child. -/
theorem treeAt?_child {number : Nat} {child : Tree Node} (h : t.treeAt? [number] = some child)
    (address : List Nat) : t.treeAt? (number :: address) = child.treeAt? address := by
  have happend := t.treeAt?_append [number] address
  rw [h] at happend
  exact happend

/-- What introduces a name below the root stands in a child. -/
theorem Introduces.exists_child {number : Nat} {node : List Nat}
    (h : t.Introduces id (number :: node) place i) : ∃ child, t.treeAt? [number] = some child := by
  have hchild {u : Tree Node} (hu : t.treeAt? (number :: node) = some u) :
      ∃ child, t.treeAt? [number] = some child := by
    have happend := t.treeAt?_append [number] node
    obtain ⟨child, hat, -⟩ := Option.bind_eq_some_iff.mp (happend.symm.trans hu)
    exact ⟨child, hat⟩
  cases h with
  | declarator hnode => exact hchild hnode
  | specifier hnode => exact hchild hnode

/-- What stands in a child stands in the tree. -/
theorem introduces_child {number : Nat} {child : Tree Node} {node : List Nat}
    (h : t.treeAt? [number] = some child) : t.Introduces id (number :: node) place i ↔
      ∃ below, place = number :: below ∧ child.Introduces id node below i := by
  have hat := treeAt?_child h
  constructor
  · intro hintroduces
    cases hintroduces with
    | declarator hnode hlabel hname =>
      rw [hat] at hnode
      exact ⟨node, rfl, .declarator hnode hlabel hname⟩
    | specifier hnode hlabel hpath hplace hfield hname =>
      rw [hat] at hnode
      rw [List.cons_append, hat] at hplace
      exact ⟨_, rfl, .specifier hnode hlabel hpath hplace hfield hname⟩
  · rintro ⟨below, rfl, hintroduces⟩
    cases hintroduces with
    | declarator hnode hlabel hname =>
      rw [← hat] at hnode
      exact .declarator hnode hlabel hname
    | specifier hnode hlabel hpath hplace hfield hname =>
      rw [← hat] at hnode
      rw [← hat, ← List.cons_append] at hplace
      exact .specifier hnode hlabel hpath hplace hfield hname

theorem outsideImports_nil : t.OutsideImports [] := by
  intro outer n phase hprefix hne
  exact absurd (List.prefix_nil.mp hprefix) hne

/-- What stands in a child is outside of imports exactly if the tree is none and it is outside
of those in the child. -/
theorem outsideImports_child {number : Nat} {child : Tree Node} {node : List Nat}
    (h : t.treeAt? [number] = some child) : t.OutsideImports (number :: node) ↔
      (∀ phase, t.label ≠ .importDeclaration phase) ∧ child.OutsideImports node := by
  have hat (address : List Nat) : t.nodeAt? (number :: address) = child.nodeAt? address :=
    congrArg (Option.map root) (treeAt?_child h address)
  constructor
  · intro houtside
    refine ⟨fun phase => ?_, fun outer n phase hprefix hne hn => ?_⟩
    · exact houtside [] t.root phase List.nil_prefix (by simp) rfl
    · refine houtside (number :: outer) n phase ?_ ?_ ?_
      · exact List.cons_prefix_cons.mpr ⟨rfl, hprefix⟩
      · simpa using hne
      · rw [hat]
        exact hn
  · rintro ⟨hroot, houtside⟩ outer n phase hprefix hne hn
    rcases outer with _ | ⟨first, outer⟩
    · obtain rfl : t.root = n := Option.some.inj hn
      exact hroot phase
    · obtain ⟨rfl, hinside⟩ := List.cons_prefix_cons.mp hprefix
      rw [hat] at hn
      exact houtside outer n phase hinside (by simpa using hne) hn

/-- What a tree introduces is introduced by its root or, unless the root is an import, in one
of its children. -/
theorem mem_placed : (place, id, i) ∈ t.placed ↔ t.Introduces id [] place i ∨
    (∀ phase, t.label ≠ .importDeclaration phase) ∧ ∃ number child below,
      t.treeAt? [number] = some child ∧ place = number :: below ∧ (below, id, i) ∈ child.placed := by
  have hkids : (place, id, i) ∈ t.children.placed 0 ↔ ∃ number child below,
      t.treeAt? [number] = some child ∧ place = number :: below ∧
        (below, id, i) ∈ child.placed := by
    rw [Forest.mem_placed]
    simp only [Nat.zero_add]
    exact Iff.rfl
  rw [placed, List.mem_append, mem_ownPlaced, ← hkids]
  split
  · rename_i phase hlabel
    simp [hlabel]
  · rename_i hlabel
    have himport : ∀ phase, t.label ≠ .importDeclaration phase := hlabel
    rw [and_iff_right himport]

/-- **The introductions of a program, place by place.** The list holds what is introduced outside
of imports and nothing else. Induction on the forest that the tree stands in. -/
theorem mem_placed_iff : (place, id, i) ∈ t.placed ↔ t.IntroducesAt id place i := by
  have hforest : ∀ (f : Forest Node) (number : Nat) (t : Tree Node),
      f.treeAt? number [] = some t → ∀ place,
        (place, id, i) ∈ t.placed ↔ t.IntroducesAt id place i := by
    intro f
    induction f with
    | nil => intro number t h; cases h
    | cons n kids rest ihk ihr =>
      intro number t h place
      rcases number with _ | number
      · obtain rfl : (⟨n, kids⟩ : Tree Node) = t := Option.some.inj h
        rw [mem_placed]
        constructor
        · rintro (hroot | ⟨himport, number, child, below, hchild, rfl, hmem⟩)
          · exact ⟨[], hroot, outsideImports_nil⟩
          · obtain ⟨node, hintroduces, houtside⟩ := (ihk number child hchild below).mp hmem
            exact ⟨number :: node, (introduces_child hchild).mpr ⟨below, rfl, hintroduces⟩,
              (outsideImports_child hchild).mpr ⟨himport, houtside⟩⟩
        · rintro ⟨node, hintroduces, houtside⟩
          rcases node with _ | ⟨number, node⟩
          · exact Or.inl hintroduces
          · obtain ⟨child, hchild⟩ := hintroduces.exists_child
            obtain ⟨below, rfl, hbelow⟩ := (introduces_child hchild).mp hintroduces
            obtain ⟨himport, hinside⟩ := (outsideImports_child hchild).mp houtside
            exact Or.inr ⟨himport, number, child, below, hchild, rfl,
              (ihk number child hchild below).mpr ⟨node, hbelow, hinside⟩⟩
      · exact ihr number t h place
  exact hforest t.toForest 0 t rfl place

end Tree

/-! ### Visit order is the order of addresses -/

theorem Forest.pairwise_placedSpecifiers (path : String) (f : Forest Node) (i : Nat) :
    (f.placedSpecifiers path i).Pairwise fun a b => a.1 < b.1 := by
  induction f generalizing i with
  | nil => exact .nil
  | cons n kids rest _ ih =>
    rw [placedSpecifiers, List.pairwise_append]
    refine ⟨?_, ih (i + 1), fun a ha b hb => ?_⟩
    · split
      · cases (kids.child? .localName).bind Tree.ident? <;> simp
      · exact .nil
    · obtain ⟨number, specifier, id, -, -, -, rfl⟩ := mem_placedSpecifiers.mp hb
      have hplace : a.1 = [i] := by
        split at ha
        · obtain ⟨id, -, rfl⟩ := List.mem_map.mp ha
          rfl
        · cases ha
      have hlt : i < i + 1 + number := by omega
      rw [hplace]
      exact .rel hlt

/-- What a node introduces itself stands in order. -/
theorem Tree.pairwise_ownPlaced (t : Tree Node) :
    t.ownPlaced.Pairwise fun a b => a.1 < b.1 := by
  unfold ownPlaced
  split
  · cases (t.child? .pattern).bind ident? <;> simp
  · cases (t.child? .source).bind stringValue? with
    | none => exact .nil
    | some path =>
      rw [Option.toList_some, List.flatMap_singleton]
      exact Forest.pairwise_placedSpecifiers path t.children 0
  · exact .nil

/-- **The list of introductions goes by the addresses.** Induction on the forest: what a node
introduces itself stands before what is introduced below it, and a tree before the trees behind
it. -/
theorem Forest.pairwise_placed (f : Forest Node) (i : Nat) :
    (f.placed i).Pairwise fun a b => a.1 < b.1 := by
  induction f generalizing i with
  | nil => exact .nil
  | cons n kids rest ihk ihr =>
    have htree : (Tree.placed ⟨n, kids⟩).Pairwise fun a b => a.1 < b.1 := by
      rw [Tree.placed, List.pairwise_append]
      refine ⟨Tree.pairwise_ownPlaced _, ?_, fun a ha b hb => ?_⟩
      · split
        · exact .nil
        · exact ihk 0
      · -- only a declarator introduces anything itself and has more below it
        split at hb
        · cases hb
        · rename_i himport
          obtain ⟨number, child, below, -, hb, -⟩ := mem_placed.mp hb
          rw [hb]
          unfold Tree.ownPlaced at ha
          split at ha
          · obtain ⟨id, -, rfl⟩ := List.mem_map.mp ha
            exact List.nil_lt_cons _ _
          · rename_i phase hlabel
            exact absurd hlabel (himport phase)
          · cases ha
    rw [placed_cons, List.pairwise_append]
    refine ⟨?_, ihr (i + 1), fun a ha b hb => ?_⟩
    · rw [List.pairwise_map]
      exact htree.imp fun hab => List.cons_lt_cons_iff.mpr (Or.inr ⟨rfl, hab⟩)
    · obtain ⟨a, -, rfl⟩ := List.mem_map.mp ha
      obtain ⟨number, child, below, -, hb, -⟩ := mem_placed.mp hb
      have hlt : i < i + 1 + number := by omega
      rw [hb]
      exact List.cons_lt_cons_iff.mpr (Or.inl hlt)

theorem Tree.pairwise_placed (program : Tree Node) :
    program.placed.Pairwise fun a b => a.1 < b.1 := by
  have hforest := Forest.pairwise_placed program.toForest 0
  rw [toForest, Forest.placed_cons, Forest.placed, List.append_nil, List.pairwise_map] at hforest
  refine hforest.imp fun hab => ?_
  obtain hlt | ⟨-, hlt⟩ := List.cons_lt_cons_iff.mp hab
  · exact absurd hlt (lt_irrefl 0)
  · exact hlt

/-- The last introduction of an identifier is the one at the greatest address. -/
theorem Tree.last_introductions_iff {program : Tree Node} {id : Ident} {i : Introduction} :
    program.toForest.introductions.Last id i ↔ ∃ place, program.IntroducesAt id place i ∧
      ∀ later j, program.IntroducesAt id later j → later ≤ place := by
  have hordered := program.pairwise_placed
  unfold Introductions.Last
  simp only [← mem_placed_iff]
  rw [← map_snd_placed]
  constructor
  · rintro ⟨before, after, hsplit, hlater⟩
    obtain ⟨first, others, hplaced, hfirst, hothers⟩ := List.map_eq_append_iff.mp hsplit
    obtain ⟨⟨place, x⟩, behind, rfl, hx, hbehind⟩ := List.map_eq_cons_iff.mp hothers
    obtain rfl : x = (id, i) := hx
    rw [hplaced] at hordered ⊢
    refine ⟨place, by simp, fun later j hmem => ?_⟩
    rcases List.mem_append.mp hmem with hmem | hmem
    · have hlt := (List.pairwise_append.mp hordered).2.2 _ hmem (place, id, i) (by simp)
      exact le_of_lt hlt
    · rcases List.mem_cons.mp hmem with heq | hmem
      · cases heq
        exact le_rfl
      · have hafter : (id, j) ∈ after := hbehind ▸ List.mem_map_of_mem hmem
        exact absurd rfl (hlater _ hafter)
  · rintro ⟨place, hmem, hlast⟩
    obtain ⟨before, after, hplaced⟩ := List.append_of_mem hmem
    refine ⟨before.map Prod.snd, after.map Prod.snd, by simp [hplaced], ?_⟩
    intro later hlater hid
    obtain ⟨⟨place', x⟩, hafter, rfl⟩ := List.mem_map.mp hlater
    obtain ⟨id', j⟩ := x
    obtain rfl : id' = id := hid
    rw [hplaced] at hordered hlast
    have hlt : place < place' := by
      have hbehind := (List.pairwise_append.mp hordered).2.1
      exact (List.pairwise_cons.mp hbehind).1 _ hafter
    have hle : place' ≤ place := hlast place' j (by simp [hafter])
    exact absurd hlt (not_lt_of_ge hle)

/-! ### The scope of a program -/

/-- A name without a definition is introduced nowhere. -/
theorem Scope.get?_eq_none_iff {program : Tree Node} {id : Ident} :
    (ofProgram program).get? id = none ↔ ∀ place i, ¬ program.IntroducesAt id place i := by
  constructor
  · intro hnone place i hintroduces
    have hmem := Tree.mem_placed_iff.mpr hintroduces
    have hdefined : (id, i.definition) ∈ program.toForest.definitions := by
      rw [Forest.definitions_eq_map_introductions, ← Tree.map_snd_placed]
      exact List.mem_map.mpr ⟨(id, i), List.mem_map_of_mem hmem, rfl⟩
    rw [get?, Option.map_eq_none_iff, List.find?_eq_none] at hnone
    exact hnone _ (List.mem_reverse.mpr hdefined) (beq_self_eq_true id)
  · intro hnowhere
    cases hget : (ofProgram program).get? id with
    | none => rfl
    | some d =>
      obtain ⟨i, hlast, -⟩ := get?_eq_some_iff.mp hget
      obtain ⟨place, hintroduces, -⟩ := Tree.last_introductions_iff.mp hlast
      exact absurd hintroduces (hnowhere place i)

/-- A name has the definition that the introduction at the greatest address says. -/
theorem Scope.get?_eq_some_iff_says {program : Tree Node} {id : Ident} {d : Definition} :
    (ofProgram program).get? id = some d ↔ ∃ place i, program.IntroducesAt id place i ∧ i.Says d ∧
      ∀ later j, program.IntroducesAt id later j → later ≤ place := by
  rw [get?_eq_some_iff]
  constructor
  · rintro ⟨i, hlast, hdefinition⟩
    obtain ⟨place, hintroduces, hlater⟩ := Tree.last_introductions_iff.mp hlast
    exact ⟨place, i, hintroduces, Introduction.says_iff.mpr hdefinition, hlater⟩
  · rintro ⟨place, i, hintroduces, hsays, hlater⟩
    exact ⟨i, Tree.last_introductions_iff.mpr ⟨place, hintroduces, hlater⟩,
      Introduction.says_iff.mp hsays⟩

/-- **The scope has the last introduction of every name.** For every program and every
identifier: the scope has nothing exactly if no declarator outside of imports and no specifier
introduces the identifier; it has a definition exactly if the last one of these says so, in
visit order; and no definition is the call of a name `require`. If no node that introduces the
identifier stands inside an import, all declarators and specifiers of the program count. -/
theorem scope_has_last_introduction (program : Tree Node) (id : Ident) :
    ((Scope.ofProgram program).get? id = none ↔ ∀ place i, ¬ program.IntroducesAt id place i) ∧
    (∀ d, (Scope.ofProgram program).get? id = some d ↔
      ∃ place i, program.IntroducesAt id place i ∧ i.Says d ∧
        ∀ later j, program.IntroducesAt id later j → later ≤ place) ∧
    (∀ callee, (Scope.ofProgram program).get? id = some (.called callee) →
      callee.name ≠ requireName) ∧
    ((∀ node place i, program.Introduces id node place i → program.OutsideImports node) →
      ((Scope.ofProgram program).get? id = none ↔
        ∀ node place i, ¬ program.Introduces id node place i) ∧
      ∀ d, (Scope.ofProgram program).get? id = some d ↔
        ∃ node place i, program.Introduces id node place i ∧ i.Says d ∧
          ∀ node' later j, program.Introduces id node' later j → later ≤ place) := by
  refine ⟨Scope.get?_eq_none_iff, fun d => Scope.get?_eq_some_iff_says, fun callee hcalled => ?_,
    fun houtside => ⟨?_, fun d => ?_⟩⟩
  · obtain ⟨place, i, -, hsays, -⟩ := Scope.get?_eq_some_iff_says.mp hcalled
    cases hsays with
    | called hcalls hname => exact hname
  · rw [Scope.get?_eq_none_iff]
    constructor
    · intro h node place i hintroduces
      exact h place i ⟨node, hintroduces, houtside node place i hintroduces⟩
    · rintro h place i ⟨node, hintroduces, -⟩
      exact h node place i hintroduces
  · rw [Scope.get?_eq_some_iff_says]
    constructor
    · rintro ⟨place, i, ⟨node, hintroduces, -⟩, hsays, hlater⟩
      exact ⟨node, place, i, hintroduces, hsays, fun node' later j h =>
        hlater later j ⟨node', h, houtside node' later j h⟩⟩
    · rintro ⟨node, place, i, hintroduces, hsays, hlater⟩
      refine ⟨place, i, ⟨node, hintroduces, houtside node place i hintroduces⟩, hsays, ?_⟩
      rintro later j ⟨node', h, -⟩
      exact hlater node' later j h

/-! ### A declarator in an attribute -/

open Script HotUnit

/-- The module that imports `a` with an attribute in whose value `x` is declared. -/
def attributeDeclaring : Tree Node :=
  attributeProgram ⟨"a", 2⟩ "./a" [constantsNode [(⟨"x", 3⟩, requireNode (quoted "./x"))]]

/-- The declarator of `x` requires a module, and the scope has nothing for `x`. -/
theorem attribute_declarator_not_found :
    attributeDeclaring.IsSyntax ∧
    (∃ node place initializer,
      attributeDeclaring.Introduces ⟨"x", 3⟩ node place (.declarator (some initializer)) ∧
      initializer.Requires "./x") ∧
    (Scope.ofProgram attributeDeclaring).get? ⟨"x", 3⟩ = none := by
  refine ⟨by decide, ⟨[0, 2, 0, 1, 0, 0, 0], [0, 2, 0, 1, 0, 0, 0],
    (requireNode (quoted "./x")).fill .initializer, ?_, ?_⟩, rfl⟩
  · exact .declarator (t := Tree.fill (.ofLabel .declarator
      [(namedNode ⟨"x", 3⟩).fill .pattern, (requireNode (quoted "./x")).fill .initializer])
      .declarators) rfl rfl rfl
  · exact Tree.requiredModule?_eq_some_iff.mp rfl

end HotReload
