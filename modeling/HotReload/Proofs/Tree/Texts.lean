/-
# Changing texts in a program

A map of the nodes of a program that changes at most the name of a property or the text
of a string leaves alone of what kind the nodes are, which children they have and which
identifiers they are. What is read off a tree then only depends on the texts that are
read: the definitions on the source of an import and on the module that an initializer
requires, the module path of a call on the module that its first argument requires, and
the role of a call on the name of the property that it calls.

Key definitions: `KeepsShape`, `Tree.descend?`, `Tree.addressOf`, `Tree.firstValue?`.
Key theorems: `KeepsShape.child?_mapAt`, `KeepsShape.definitions_mapAt`,
`KeepsShape.modulePath?_mapAt`, `KeepsShape.callRole_mapAt`,
`KeepsShape.registersOn_mapAt`.
-/
import HotReload.Proofs.Recognition
import HotReload.Proofs.Tree.MapAt

namespace HotReload

/-! ### The way to a child -/

/-- The number of the first tree that fills the field `f`. -/
def Forest.childIndex (f : Field) : Forest Node → Nat
  | nil => 0
  | cons n _ rest => if n.field == f then 0 else rest.childIndex f + 1

theorem Forest.treeAt?_of_child? {forest : Forest Node} {f : Field} {t : Tree Node}
    (h : forest.child? f = some t) :
    forest.treeAt? (forest.childIndex f) [] = some t ∧ t.root.field = f := by
  induction forest with
  | nil => cases h
  | cons n kids rest _ ih =>
    unfold child? find? at h
    unfold childIndex
    by_cases hf : (n.field == f) = true
    · rw [if_pos hf] at h ⊢
      cases h
      exact ⟨rfl, beq_iff_eq.mp hf⟩
    · rw [if_neg hf] at h ⊢
      exact ih h

namespace Tree

/-- The number of the first child that fills the field `f`. -/
def childIndex (t : Tree Node) (f : Field) : Nat := t.children.childIndex f

/-- What is reached by going down to the first child that fills each of the fields in
turn. -/
def descend? (t : Tree Node) : List Field → Option (Tree Node)
  | [] => some t
  | f :: fields => (t.child? f).bind fun child => child.descend? fields

/-- The address of what is reached by going down so. Where a child is missing it goes on
with the number of the first child. -/
def addressOf (t : Tree Node) : List Field → List Nat
  | [] => []
  | f :: fields =>
    t.childIndex f ::
      ((t.child? f).map fun child => child.addressOf fields).getD (fields.map fun _ => 0)

theorem length_addressOf (t : Tree Node) (fields : List Field) :
    (t.addressOf fields).length = fields.length := by
  induction fields generalizing t with
  | nil => rfl
  | cons f fields ih => cases h : t.child? f <;> simp [addressOf, h, ih]

theorem descend?_pair {t u : Tree Node} {f f' : Field} : t.descend? [f, f'] = some u ↔
    ∃ child, t.child? f = some child ∧ child.child? f' = some u := by
  simp [descend?, Option.bind_eq_some_iff]

theorem addressOf_pair {t child : Tree Node} {f f' : Field} (h : t.child? f = some child) :
    t.addressOf [f, f'] = [t.childIndex f, child.childIndex f'] := by
  cases hchild : child.child? f' <;> simp [addressOf, h, hchild]

/-- What two fields lead to is at the address of the fields, and it fills the second
one. -/
theorem treeAt?_of_descend? {t u : Tree Node} {f f' : Field} (h : t.descend? [f, f'] = some u) :
    t.treeAt? (t.addressOf [f, f']) = some u ∧ u.root.field = f' := by
  obtain ⟨child, hchild, hu⟩ := descend?_pair.mp h
  obtain ⟨hat, -⟩ := Forest.treeAt?_of_child? hchild
  obtain ⟨hat', hfield⟩ := Forest.treeAt?_of_child? hu
  refine ⟨?_, hfield⟩
  have hstep := t.treeAt?_concat [t.childIndex f] (child.childIndex f')
  rw [show t.treeAt? [t.childIndex f] = some child from hat] at hstep
  rw [addressOf_pair hchild]
  exact hstep.trans hat'

/-- The expression that is the first argument of a call and is not spread. -/
def firstValue? (t : Tree Node) : Option (Tree Node) := (t.child? .arguments).bind plainArgument?

end Tree

/-- The module path of a call is the one that its first argument stands for. -/
theorem Scope.modulePath?_eq (s : Scope) (call : Tree Node) :
    s.modulePath? call = call.firstValue?.bind fun value =>
      match value.label with
      | .call => value.requiredModule?
      | .identifier name => s.module? ⟨name, value.root.context⟩
      | _ => none := by
  unfold modulePath? Tree.firstValue?
  cases call.child? .arguments <;> rfl

/-- The role of a call whose callee has this label and scope number, and this role as a
member. -/
def Scope.roleByCallee (s : Scope) (label : Label) (context : Nat) (asMember : Role) : Role :=
  match label with
  | .identifier name => if s.isFactory ⟨name, context⟩ then .factory else .other
  | .member => asMember
  | _ => .other

/-! ### Maps that keep the shape -/

/-- The label without the text of a property name or a string. -/
def Label.textless : Label → Label
  | propertyName _ => propertyName ""
  | string _ _ => string "" none
  | l => l

/-- The map changes at most the name of a property and the text of a string. -/
structure KeepsShape (g : List Nat → Node → Node) : Prop where
  field : ∀ address n, (g address n).field = n.field
  context : ∀ address n, (g address n).context = n.context
  textless : ∀ address n, (g address n).label.textless = n.label.textless

namespace KeepsShape

variable {g : List Nat → Node → Node} (h : KeepsShape g)

include h

/-- Below an address the map keeps the shape as well. -/
theorem below (address : List Nat) : KeepsShape fun p => g (address ++ p) where
  field p := h.field (address ++ p)
  context p := h.context (address ++ p)
  textless p := h.textless (address ++ p)

theorem belowChild (i : Nat) : KeepsShape fun p => g (i :: p) := h.below [i]

/-- What does not depend on texts is the same for both nodes. -/
theorem observe {β : Type} {F : Label → β} (hF : ∀ l, F l.textless = F l) (address : List Nat)
    (n : Node) : F (g address n).label = F n.label := by
  rw [← hF, h.textless, hF]

/-! ### Kinds of node -/

theorem isCall (address : List Nat) (n : Node) : (g address n).isCall = n.isCall :=
  h.observe (F := (· == .call)) (fun l => by cases l <;> rfl) address n

theorem isFunction (address : List Nat) (n : Node) : (g address n).isFunction = n.isFunction :=
  h.observe (F := Label.isFunction) (fun l => by cases l <;> rfl) address n

theorem isStatement (address : List Nat) (n : Node) :
    (g address n).isStatement = n.isStatement := by
  have hmodule : (g address n).label.isModuleDeclaration = n.label.isModuleDeclaration :=
    h.observe (F := Label.isModuleDeclaration) (fun l => by cases l <;> rfl) address n
  unfold Node.isStatement
  rw [h.field, hmodule]

theorem ident? (address : List Nat) (n : Node) : (g address n).ident? = n.ident? := by
  have hlabel : Node.ident? { n with label := (g address n).label } = n.ident? :=
    h.observe (F := fun l => Node.ident? { n with label := l }) (fun l => by cases l <;> rfl)
      address n
  unfold Node.ident? at hlabel ⊢
  rw [h.context]
  exact hlabel

/-! ### Children -/

theorem child?_mapAt_forest (forest : Forest Node) (f : Field) (i : Nat) :
    (forest.mapAt g i).child? f =
      (forest.child? f).map (Tree.mapAt fun q => g ((i + forest.childIndex f) :: q)) := by
  induction forest generalizing i with
  | nil => rfl
  | cons n kids rest _ ih =>
    unfold Forest.mapAt Forest.child? Forest.find? Forest.childIndex
    rw [h.field]
    by_cases hf : (n.field == f) = true
    · rw [if_pos hf, if_pos hf, if_pos hf]
      rfl
    · rw [if_neg hf, if_neg hf, if_neg hf]
      have hindex : i + 1 + rest.childIndex f = i + (rest.childIndex f + 1) := by omega
      have hrest := ih (i + 1)
      rw [hindex] at hrest
      exact hrest

variable (t : Tree Node)

theorem child?_mapAt (f : Field) : (t.mapAt g).child? f =
    (t.child? f).map (Tree.mapAt fun q => g (t.childIndex f :: q)) := by
  have hkids := h.child?_mapAt_forest t.children f 0
  rw [Nat.zero_add] at hkids
  exact hkids

theorem ident?_mapAt : (t.mapAt g).ident? = t.ident? := h.ident? [] t.root

theorem calledIdent?_mapAt : (t.mapAt g).calledIdent? = t.calledIdent? := by
  unfold Tree.calledIdent?
  rw [show (t.mapAt g).root.isCall = t.root.isCall from h.isCall [] t.root, h.child?_mapAt]
  cases t.child? .callee with
  | none => rfl
  | some callee =>
    have hcallee := (h.belowChild (t.childIndex .callee)).ident?_mapAt callee
    exact congrArg (fun o => if t.root.isCall = true then o else none) hcallee

theorem isRequire_mapAt : (t.mapAt g).isRequire = t.isRequire := by
  unfold Tree.isRequire
  rw [h.calledIdent?_mapAt]

theorem plainArgument?_mapAt : (t.mapAt g).plainArgument? =
    t.plainArgument?.map (Tree.mapAt fun q => g (t.childIndex .expression :: q)) := by
  have hplain : ∀ s : Tree Node,
      s.plainArgument? = if s.label == .argument none then s.child? .expression else none := by
    rintro ⟨⟨_, label, _, _⟩, _⟩
    cases label with
    | argument spread => cases spread <;> rfl
    | _ => rfl
  have hlabel : ((t.mapAt g).label == .argument none) = (t.label == .argument none) :=
    h.observe (F := (· == .argument none)) (fun l => by cases l <;> rfl) [] t.root
  rw [hplain, hplain, hlabel, h.child?_mapAt]
  split <;> rfl

theorem firstValue?_mapAt : (t.mapAt g).firstValue? =
    t.firstValue?.map (Tree.mapAt fun q => g (t.addressOf [.arguments, .expression] ++ q)) := by
  unfold Tree.firstValue?
  rw [h.child?_mapAt]
  cases hargument : t.child? .arguments with
  | none => rfl
  | some argument =>
    rw [Tree.addressOf_pair hargument]
    exact (h.belowChild (t.childIndex .arguments)).plainArgument?_mapAt argument

/-! ### What is read off a tree -/

/-- A tree requires the module that it did, if the string in its first argument has the
value that it had. -/
theorem requiredModule?_mapAt (hvalue : ∀ value, t.firstValue? = some value →
      (value.mapAt fun q => g (t.addressOf [.arguments, .expression] ++ q)).stringValue? =
        value.stringValue?) :
    (t.mapAt g).requiredModule? = t.requiredModule? := by
  have hfirst : (t.mapAt g).firstValue?.bind Tree.stringValue? =
      t.firstValue?.bind Tree.stringValue? := by
    rw [h.firstValue?_mapAt]
    cases ht : t.firstValue? with
    | none => rfl
    | some value => exact hvalue value ht
  unfold Tree.firstValue? at hfirst
  unfold Tree.requiredModule?
  rw [h.isRequire_mapAt, hfirst]

/-- A call has the module path that it had, if its first argument requires the module
that it did. -/
theorem modulePath?_mapAt (s : Scope) (hvalue : ∀ value, t.firstValue? = some value →
      (value.mapAt fun q => g (t.addressOf [.arguments, .expression] ++ q)).requiredModule? =
        value.requiredModule?) :
    s.modulePath? (t.mapAt g) = s.modulePath? t := by
  rw [Scope.modulePath?_eq, Scope.modulePath?_eq, h.firstValue?_mapAt]
  cases ht : t.firstValue? with
  | none => rfl
  | some value =>
    have hrequired := hvalue value ht
    have hcontext := (h.below (t.addressOf [.arguments, .expression])).context [] value.root
    have hlabel := (h.below (t.addressOf [.arguments, .expression])).observe
      (F := fun l => match l with
        | .call => value.requiredModule?
        | .identifier name => s.module? ⟨name, value.root.context⟩
        | _ => none) (fun l => by cases l <;> rfl) [] value.root
    simp only [Option.map_some, Option.bind_some, Tree.root_mapAt, hcontext, hrequired]
    exact hlabel

/-! ### Roles -/

/-- A call has the role that it had, if the property that it calls has the name that it
had. -/
theorem callRole_mapAt (s : Scope) (hmethod : ∀ property,
      t.descend? [.callee, .property] = some property →
        (g (t.addressOf [.callee, .property]) property.root).label = property.label) :
    s.callRole (t.mapAt g) = s.callRole t := by
  unfold Scope.callRole
  rw [h.child?_mapAt]
  cases hcallee : t.child? .callee with
  | none => rfl
  | some callee =>
    have hshape := h.belowChild (t.childIndex .callee)
    have hmember : s.memberRole (callee.mapAt fun q => g (t.childIndex .callee :: q)) =
        s.memberRole callee := by
      have hobject : ((callee.mapAt fun q => g (t.childIndex .callee :: q)).child? .object).bind
          Tree.ident? = (callee.child? .object).bind Tree.ident? := by
        rw [hshape.child?_mapAt]
        cases callee.child? .object with
        | none => rfl
        | some object =>
          exact (hshape.belowChild (callee.childIndex .object)).ident?_mapAt object
      have hproperty : ((callee.mapAt fun q => g (t.childIndex .callee :: q)).child? .property).map
          Tree.label = (callee.child? .property).map Tree.label := by
        rw [hshape.child?_mapAt]
        cases hname : callee.child? .property with
        | none => rfl
        | some property =>
          have hkept := hmethod property (Tree.descend?_pair.mpr ⟨callee, hcallee, hname⟩)
          rw [Tree.addressOf_pair hcallee] at hkept
          exact congrArg some hkept
      unfold Scope.memberRole
      rw [hobject, hproperty]
    have hlabel := hshape.observe
      (F := fun l => s.roleByCallee l callee.root.context (s.memberRole callee))
      (fun l => by cases l <;> rfl) [] callee.root
    show s.roleByCallee (g [t.childIndex .callee] callee.root).label
      (g [t.childIndex .callee] callee.root).context
      (s.memberRole (callee.mapAt fun q => g (t.childIndex .callee :: q))) = _
    rw [hshape.context, hmember]
    exact hlabel

/-- A call of a method is, with its property renamed, the call of the method of that
name. -/
theorem registersOn_mapAt {method name : String} {x : Ident} (ht : t.RegistersOn method x)
    (hname : ∀ property, t.descend? [.callee, .property] = some property →
      (g (t.addressOf [.callee, .property]) property.root).label = .propertyName name) :
    (t.mapAt g).RegistersOn name x := by
  obtain ⟨member, object, property, hcallee, hmember, hobject, hident, hproperty, -⟩ := ht
  have hshape := h.belowChild (t.childIndex .callee)
  have hrenamed := hname property (Tree.descend?_pair.mpr ⟨member, hcallee, hproperty⟩)
  rw [Tree.addressOf_pair hcallee] at hrenamed
  have hkind : (g [t.childIndex .callee] member.root).label = .member := by
    have hobserve := hshape.observe (F := (· == .member)) (fun l => by cases l <;> rfl) []
      member.root
    rw [show (member.root.label == .member) = true from beq_iff_eq.mpr hmember] at hobserve
    exact beq_iff_eq.mp hobserve
  have hchild := h.child?_mapAt t .callee
  have hobject' := hshape.child?_mapAt member .object
  have hproperty' := hshape.child?_mapAt member .property
  rw [hcallee] at hchild
  rw [hobject] at hobject'
  rw [hproperty] at hproperty'
  refine ⟨_, _, _, hchild, hkind, hobject', ?_, hproperty', hrenamed⟩
  rw [← hident]
  exact (hshape.belowChild (member.childIndex .object)).ident?_mapAt object

end KeepsShape

/-! ### Definitions -/

/-- The map keeps what definitions read of the forest, whose first tree has the number
`i`: the source of an import and the module that an initializer requires. -/
def KeepsSources (g : List Nat → Node → Node) (forest : Forest Node) (i : Nat) : Prop :=
  ∀ j p t, forest.treeAt? j p = some t →
    (t.root.field = .source →
      (t.mapAt fun q => g ((i + j) :: (p ++ q))).stringValue? = t.stringValue?) ∧
    (t.root.field = .initializer →
      (t.mapAt fun q => g ((i + j) :: (p ++ q))).requiredModule? = t.requiredModule?)

namespace KeepsSources

variable {g : List Nat → Node → Node} {n : Node} {kids rest : Forest Node} {i : Nat}

theorem inside (h : KeepsSources g (.cons n kids rest) i) :
    KeepsSources (fun p => g (i :: p)) kids 0 := by
  intro j p t ht
  have hkept := h 0 (j :: p) t ht
  rw [Nat.zero_add]
  exact hkept

theorem behind (h : KeepsSources g (.cons n kids rest) i) : KeepsSources g rest (i + 1) := by
  intro j p t ht
  have hkept := h (j + 1) p t ht
  rw [show i + (j + 1) = i + 1 + j by omega] at hkept
  exact hkept

/-- What is the first child in a field keeps its source. -/
theorem child {f : Field} {t : Tree Node} (h : KeepsSources g kids 0)
    (ht : kids.child? f = some t) :
    (f = .source → (t.mapAt fun q => g (kids.childIndex f :: q)).stringValue? = t.stringValue?) ∧
    (f = .initializer →
      (t.mapAt fun q => g (kids.childIndex f :: q)).requiredModule? = t.requiredModule?) := by
  obtain ⟨hat, rfl⟩ := Forest.treeAt?_of_child? ht
  have hkept := h _ [] t hat
  rw [Nat.zero_add] at hkept
  exact hkept

end KeepsSources

namespace KeepsShape

variable {g : List Nat → Node → Node} (h : KeepsShape g)

include h

theorem ofInitializer_mapAt (t : Tree Node)
    (hrequired : (t.mapAt g).requiredModule? = t.requiredModule?) :
    Definition.ofInitializer (t.mapAt g) = Definition.ofInitializer t := by
  unfold Definition.ofInitializer
  rw [h.isRequire_mapAt, hrequired, h.calledIdent?_mapAt]

theorem declaratorDefinition?_mapAt {kids : Forest Node} (hkids : KeepsSources g kids 0) :
    (kids.mapAt g 0).declaratorDefinition? = kids.declaratorDefinition? := by
  have hvalue : ((kids.mapAt g 0).child? .initializer).map Definition.ofInitializer =
      (kids.child? .initializer).map Definition.ofInitializer := by
    rw [h.child?_mapAt_forest, Nat.zero_add]
    cases hinitializer : kids.child? .initializer with
    | none => rfl
    | some initializer =>
      have hrequired := (hkids.child hinitializer).2 rfl
      exact congrArg some
        ((h.belowChild (kids.childIndex .initializer)).ofInitializer_mapAt initializer hrequired)
  have hpattern : ((kids.mapAt g 0).child? .pattern).bind Tree.ident? =
      (kids.child? .pattern).bind Tree.ident? := by
    rw [h.child?_mapAt_forest, Nat.zero_add]
    cases kids.child? .pattern with
    | none => rfl
    | some pattern => exact (h.belowChild (kids.childIndex .pattern)).ident?_mapAt pattern
  unfold Forest.declaratorDefinition?
  rw [hvalue, hpattern]

/-- What is read off every tree in a field is read off them after the change. -/
theorem filterMap_children_mapAt {β : Type} {F : Tree Node → Option β} (forest : Forest Node)
    (f : Field) (i : Nat) (hF : ∀ t j, F (t.mapAt fun q => g (j :: q)) = F t) :
    ((forest.mapAt g i).children f).filterMap F = (forest.children f).filterMap F := by
  unfold Forest.children
  induction forest generalizing i with
  | nil => rfl
  | cons n kids rest _ ih =>
    have hfirst : F ⟨g [i] n, kids.mapAt (fun q => g (i :: q)) 0⟩ = F ⟨n, kids⟩ := hF ⟨n, kids⟩ i
    rw [Forest.mapAt, Forest.toList, Forest.toList, List.filter_cons, List.filter_cons, h.field]
    by_cases hf : (n.field == f) = true
    · rw [if_pos hf, if_pos hf, List.filterMap_cons, List.filterMap_cons, hfirst, ih]
    · rw [if_neg hf, if_neg hf, ih]

theorem importDefinitions_mapAt {kids : Forest Node} (hkids : KeepsSources g kids 0) :
    (kids.mapAt g 0).importDefinitions = kids.importDefinitions := by
  have hsource : ((kids.mapAt g 0).child? .source).bind Tree.stringValue? =
      (kids.child? .source).bind Tree.stringValue? := by
    rw [h.child?_mapAt_forest, Nat.zero_add]
    cases hchild : kids.child? .source with
    | none => rfl
    | some source => exact (hkids.child hchild).1 rfl
  unfold Forest.importDefinitions
  rw [hsource]
  cases (kids.child? .source).bind Tree.stringValue? with
  | none => rfl
  | some source =>
    apply h.filterMap_children_mapAt
    intro specifier j
    rw [(h.belowChild j).child?_mapAt specifier .localName]
    cases specifier.child? .localName with
    | none => rfl
    | some name =>
      have hident := ((h.belowChild j).belowChild (specifier.childIndex .localName)).ident?_mapAt name
      exact congrArg (Option.map _) hident

/-- **A program defines what it did.** Induction on the forest: what a node defines itself
is read off its children, and they keep the sources that are read. -/
theorem definitions_mapAt {forest : Forest Node} {i : Nat} (hsources : KeepsSources g forest i) :
    (forest.mapAt g i).definitions = forest.definitions := by
  induction forest generalizing g i with
  | nil => rfl
  | cons n kids rest ihk ihr =>
    have hshape := h.belowChild i
    have hkids := ihk hshape hsources.inside
    have hrest := ihr h hsources.behind
    have hdeclarator := hshape.declaratorDefinition?_mapAt hsources.inside
    have himport := hshape.importDefinitions_mapAt hsources.inside
    have hown : Forest.ownDefinitions (g [i] n).label (kids.mapAt (fun p => g (i :: p)) 0) =
        Forest.ownDefinitions (g [i] n).label kids := by
      unfold Forest.ownDefinitions
      rw [hdeclarator, himport]
    -- over the same children only the kind of the node counts
    have hlabel := h.observe
      (F := fun l => Forest.definitions (.cons { n with label := l } kids .nil))
      (fun l => by cases l <;> rfl) [i] n
    simp only [Forest.definitions, List.append_nil] at hlabel
    rw [Forest.mapAt, Forest.definitions, Forest.definitions, hown, hrest, hkids, hlabel]

/-- A program says of its names what it did, if the sources of its imports and the modules
that its initializers require are kept. -/
theorem ofProgram_mapAt (program : Tree Node)
    (hsource : ∀ address t, program.treeAt? address = some t → t.root.field = .source →
      (t.mapAt fun q => g (address ++ q)).stringValue? = t.stringValue?)
    (hrequired : ∀ address t, program.treeAt? address = some t → t.root.field = .initializer →
      (t.mapAt fun q => g (address ++ q)).requiredModule? = t.requiredModule?) :
    Scope.ofProgram (program.mapAt g) = Scope.ofProgram program := by
  have hshape : KeepsShape fun p => g p.tail :=
    ⟨fun p => h.field p.tail, fun p => h.context p.tail, fun p => h.textless p.tail⟩
  have hsources : KeepsSources (fun p => g p.tail) program.toForest 0 := by
    intro j p t ht
    obtain ⟨-, hat⟩ := Tree.treeAt?_of_toForest ht
    exact ⟨hsource p t hat, hrequired p t hat⟩
  have hdefinitions := hshape.definitions_mapAt hsources
  rw [← Tree.toForest_mapAt] at hdefinitions
  unfold Scope.ofProgram
  rw [hdefinitions]

end KeepsShape

end HotReload
