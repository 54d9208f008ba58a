/-
# What a tree names

The calls of methods in a tree tell which modules it registers, accepts and
unregisters, and which element it looks for. Adopting a tree into a program
changes none of this, except that the application takes its place among the
identifiers.

Key definitions: `MethodCall`, `Tree.collect`, `Tree.methodCalls`,
`Tree.registered`, `Tree.unregistered`, `Tree.remembered`, `Tree.accepted`,
`Tree.selected`, `Tree.invokedBlocks`, `Ident.adopt`.
Key theorems: `Tree.callsTo_adopt`, `Tree.registered_adopt`,
`Tree.invokedBlocks_adopt`.
-/
import HotReload.Proofs.Tree.Rescope

namespace HotReload

/-- A call of a method: its name, what it is a call on, and the first argument. -/
structure MethodCall where
  method : String
  object : Tree Node
  argument : Option (Tree Node)

namespace Tree

/-! ### What is read off a tree -/

/-- The name of a property after a dot. -/
def propertyName? (t : Tree Node) : Option String :=
  match t.label with
  | .propertyName name => some name
  | _ => none

/-- The name of the property that a member with a dot is. -/
def memberName? (t : Tree Node) : Option String :=
  if t.label = .member then (t.child? .property).bind propertyName? else none

/-- What `g` reads off the nodes of a tree, in the order of a visit. -/
def collect {β : Type} (g : Tree Node → Option β) (t : Tree Node) : List β := t.preorder.filterMap g

/-- The call of a method that the tree is. -/
def methodCall? (t : Tree Node) : Option MethodCall :=
  if t.root.isCall then
    (t.child? .callee).bind fun callee => callee.memberName?.bind fun method =>
      (callee.child? .object).map fun object =>
        ⟨method, object, (t.child? .arguments).bind plainArgument?⟩
  else none

/-- The calls of methods in a tree. -/
def methodCalls (t : Tree Node) : List MethodCall := t.collect methodCall?

/-- The calls of methods with the given name. -/
def callsTo (method : String) (t : Tree Node) : List MethodCall :=
  t.methodCalls.filter (·.method = method)

/-- What the calls of a method are calls on, and the modules that their first
arguments require. -/
def registered (method : String) (t : Tree Node) : List (Option Ident × Option String) :=
  (t.callsTo method).map fun c => (c.object.ident?, c.argument.bind requiredModule?)

/-- The name of the object that a member belongs to. -/
def objectName? (t : Tree Node) : Option String :=
  if t.label = .member then ((t.child? .object).bind ident?).map Ident.name else none

/-- The string that is the key of an element of the object with the given name. -/
def elementKey? (object : String) (t : Tree Node) : Option String :=
  if t.objectName? = some object then
    ((t.child? .property).bind (·.child? .expression)).bind stringValue?
  else none

/-- The name of the object that maps the paths of models to their namespaces. -/
def namespaceMap : String := "modelNamespaceMap"

/-- What the calls of `unmodel` are calls on, and the keys of the namespaces that
they are given. -/
def unregistered (t : Tree Node) : List (Option Ident × Option String) :=
  (t.callsTo "unmodel").map fun c => (c.object.ident?, c.argument.bind (elementKey? namespaceMap))

/-- Whether the tree is `module.hot`. -/
def isModuleHot (t : Tree Node) : Bool :=
  t.objectName? = some "module" ∧ t.memberName? = some "hot"

/-- The modules whose replacements are accepted. -/
def accepted (t : Tree Node) : List (Option String) :=
  ((t.callsTo "accept").filter (·.object.isModuleHot)).map (·.argument.bind stringValue?)

/-- The selectors of the elements that are looked for. -/
def selected (t : Tree Node) : List (Option String) :=
  (t.callsTo "querySelector").map (·.argument.bind stringValue?)

/-- The key of a namespace that is assigned, and the module whose property it
is. -/
def assignedNamespace? (t : Tree Node) : Option (Option String × Option String) :=
  if t.label = .assignment "=" then
    some ((t.child? .left).bind (elementKey? namespaceMap),
      ((t.child? .right).bind (·.child? .object)).bind requiredModule?)
  else none

/-- The namespaces that are remembered. -/
def remembered (t : Tree Node) : List (Option String × Option String) :=
  t.collect assignedNamespace?

/-- The body of a function that is called at once. -/
def invokedBody? (t : Tree Node) : Option (Tree Node) :=
  ((((t.child? .expression).bind (·.child? .callee)).bind (·.child? .expression)).bind
    (·.child? .function)).bind (·.child? .body)

/-- The conditional statements of a function that is called at once. -/
def invokedBlocks (t : Tree Node) : List (Tree Node) :=
  (t.invokedBody?.elim [] fun body => body.children.children .statements).filter
    (·.label = .ifStatement)

end Tree

/-! ### Adoption -/

/-- The identifier in a program in which `app` is the application. -/
def Ident.adopt (app id : Ident) : Ident := if id = ⟨app.name, 0⟩ then app else id

/-- The call in a program in which `app` is the application. -/
def MethodCall.adopt (app : Ident) (c : MethodCall) : MethodCall :=
  ⟨c.method, c.object.adopt app, c.argument.map (Tree.adopt app)⟩

/-- An identifier that is adopted keeps its name. -/
@[simp] theorem Ident.name_adopt (app id : Ident) : (Ident.adopt app id).name = id.name := by
  unfold adopt
  split
  · rename_i h
    rw [h]
  · rfl

/-- Dropping places a second time changes nothing. -/
@[simp] theorem Label.unplaced_unplaced (l : Label) : l.unplaced.unplaced = l.unplaced := by
  cases l with
  | argument spread => cases spread <;> rfl
  | _ => rfl

/-- Adoption changes of a node its place and its scope alone. -/
theorem rescopes_adopt (app : Ident) : Rescopes (Node.adopt app) (Ident.adopt app) where
  field _ := rfl
  unplaced n := n.label.unplaced_unplaced
  ident? := fun ⟨field, label, context, span⟩ => by
    cases label with
    | identifier name =>
      show some (Ident.mk name
          (if some (Ident.mk name context) = some ⟨app.name, 0⟩ then app.context else context)) =
        some (if Ident.mk name context = ⟨app.name, 0⟩ then app else ⟨name, context⟩)
      simp only [Option.some.injEq, Ident.mk.injEq]
      split
      · rename_i h
        rw [h.1]
      · rfl
    | _ => rfl
  name id := Ident.name_adopt app id

namespace Tree

variable (app : Ident) (t : Tree Node)

@[simp] theorem label_adopt : (t.adopt app).label = t.label.unplaced := rfl

/-- Dropping places makes no label one of another kind. -/
@[simp] theorem unplaced_eq_member (l : Label) : l.unplaced = .member ↔ l = .member := by
  cases l <;> simp [Label.unplaced]

@[simp] theorem unplaced_eq_assignment (l : Label) (operator : String) :
    l.unplaced = .assignment operator ↔ l = .assignment operator := by
  cases l <;> simp [Label.unplaced]

@[simp] theorem unplaced_eq_ifStatement (l : Label) :
    l.unplaced = .ifStatement ↔ l = .ifStatement := by
  cases l <;> simp [Label.unplaced]

@[simp] theorem isCall_adopt : (t.adopt app).root.isCall = t.root.isCall :=
  (rescopes_adopt app).isCall t.root

@[simp] theorem propertyName?_adopt : (t.adopt app).propertyName? = t.propertyName? := by
  unfold propertyName?
  rw [label_adopt]
  cases t.label <;> rfl

@[simp] theorem stringValue?_adopt : (t.adopt app).stringValue? = t.stringValue? :=
  (rescopes_adopt app).stringValue?_map t

@[simp] theorem child?_adopt (f : Field) :
    (t.adopt app).child? f = (t.child? f).map (adopt app) := (rescopes_adopt app).child?_map t f

@[simp] theorem plainArgument?_adopt :
    (t.adopt app).plainArgument? = t.plainArgument?.map (adopt app) :=
  (rescopes_adopt app).plainArgument?_map t

@[simp] theorem ident?_adopt : (t.adopt app).ident? = t.ident?.map (Ident.adopt app) :=
  (rescopes_adopt app).ident?_map t

@[simp] theorem requiredModule?_adopt : (t.adopt app).requiredModule? = t.requiredModule? :=
  (rescopes_adopt app).requiredModule?_map t

/-- What does not change when a tree is adopted does not change when an optional
one is. -/
theorem bind_map_adopt {β : Type} {g : Tree Node → Option β} (h : ∀ t, g (t.adopt app) = g t)
    (o : Option (Tree Node)) : (o.map (adopt app)).bind g = o.bind g := by
  cases o with
  | none => rfl
  | some t => exact h t

/-- A child of an adopted tree is an adopted child. -/
theorem bind_child?_adopt (o : Option (Tree Node)) (f : Field) :
    (o.map (adopt app)).bind (·.child? f) = (o.bind (·.child? f)).map (adopt app) := by
  cases o with
  | none => rfl
  | some t => exact child?_adopt app t f

@[simp] theorem memberName?_adopt : (t.adopt app).memberName? = t.memberName? := by
  unfold memberName?
  simp only [label_adopt, unplaced_eq_member, child?_adopt,
    bind_map_adopt app (propertyName?_adopt app)]

@[simp] theorem objectName?_adopt : (t.adopt app).objectName? = t.objectName? := by
  unfold objectName?
  simp only [label_adopt, unplaced_eq_member, child?_adopt]
  cases t.child? .object with
  | none => rfl
  | some object =>
    show (if _ then ((object.adopt app).ident?).map Ident.name else none) = _
    rw [ident?_adopt, Option.map_map, show Ident.name ∘ Ident.adopt app = Ident.name from
      funext (Ident.name_adopt app)]
    rfl

@[simp] theorem elementKey?_adopt (object : String) :
    (t.adopt app).elementKey? object = t.elementKey? object := by
  unfold elementKey?
  rw [objectName?_adopt, child?_adopt]
  cases t.child? .property with
  | none => rfl
  | some property =>
    show (if _ then ((property.adopt app).child? .expression).bind stringValue? else none) = _
    rw [child?_adopt, bind_map_adopt app (stringValue?_adopt app)]
    rfl

@[simp] theorem isModuleHot_adopt : (t.adopt app).isModuleHot = t.isModuleHot := by
  unfold isModuleHot
  rw [objectName?_adopt, memberName?_adopt]

theorem methodCall?_adopt :
    (t.adopt app).methodCall? = t.methodCall?.map (MethodCall.adopt app) := by
  have hargument : ((t.child? .arguments).map (adopt app)).bind plainArgument? =
      ((t.child? .arguments).bind plainArgument?).map (adopt app) := by
    cases t.child? .arguments with
    | none => rfl
    | some argument => exact plainArgument?_adopt app argument
  unfold methodCall?
  rw [isCall_adopt, child?_adopt, child?_adopt, hargument]
  split
  · cases t.child? .callee with
    | none => rfl
    | some callee =>
      show (callee.adopt app).memberName?.bind _ = Option.map _ (callee.memberName?.bind _)
      rw [memberName?_adopt, child?_adopt]
      cases callee.memberName? with
      | none => rfl
      | some method => cases callee.child? .object <;> rfl
  · rfl

theorem collect_adopt {β : Type} (g : Tree Node → Option β) :
    (t.adopt app).collect g = t.collect fun c => g (c.adopt app) := by
  have hpreorder : (t.adopt app).preorder = t.preorder.map (adopt app) := by
    show _ :: (t.children.map (Node.adopt app)).preorder = _
    rw [Forest.preorder_map]
    rfl
  unfold collect
  rw [hpreorder, List.filterMap_map]
  rfl

/-- Adopting a tree adopts the calls of methods in it. -/
theorem callsTo_adopt (method : String) :
    (t.adopt app).callsTo method = (t.callsTo method).map (MethodCall.adopt app) := by
  have hcalls : (t.adopt app).methodCalls = t.methodCalls.map (MethodCall.adopt app) := by
    unfold methodCalls
    rw [collect_adopt]
    unfold collect
    rw [List.map_filterMap]
    exact congrArg (List.filterMap · _) (funext (methodCall?_adopt app))
  unfold callsTo
  rw [hcalls, List.filter_map]
  rfl

/-- Adopting a tree changes no module that it registers. -/
theorem registered_adopt (method : String) :
    (t.adopt app).registered method =
      (t.registered method).map fun c => (c.1.map (Ident.adopt app), c.2) := by
  unfold registered
  rw [callsTo_adopt, List.map_map, List.map_map]
  refine List.map_congr_left fun c _ => ?_
  simp only [Function.comp_apply, MethodCall.adopt, ident?_adopt,
    bind_map_adopt app (requiredModule?_adopt app)]

theorem unregistered_adopt :
    (t.adopt app).unregistered = t.unregistered.map fun c => (c.1.map (Ident.adopt app), c.2) := by
  unfold unregistered
  rw [callsTo_adopt, List.map_map, List.map_map]
  refine List.map_congr_left fun c _ => ?_
  simp only [Function.comp_apply, MethodCall.adopt, ident?_adopt,
    bind_map_adopt app fun t => elementKey?_adopt app t namespaceMap]

theorem accepted_adopt : (t.adopt app).accepted = t.accepted := by
  unfold accepted
  rw [callsTo_adopt, List.filter_map, List.map_map]
  simp only [Function.comp_def, MethodCall.adopt, isModuleHot_adopt,
     bind_map_adopt app (stringValue?_adopt app)]

theorem selected_adopt : (t.adopt app).selected = t.selected := by
  unfold selected
  rw [callsTo_adopt, List.map_map]
  simp only [Function.comp_def, MethodCall.adopt, bind_map_adopt app (stringValue?_adopt app)]

theorem remembered_adopt : (t.adopt app).remembered = t.remembered := by
  unfold remembered
  rw [collect_adopt]
  refine congrArg (collect · t) (funext fun a => ?_)
  unfold assignedNamespace?
  simp only [label_adopt, unplaced_eq_assignment, child?_adopt, bind_child?_adopt,
    bind_map_adopt app fun t => elementKey?_adopt app t namespaceMap,
    bind_map_adopt app (requiredModule?_adopt app)]

theorem children_adopt (f : Field) : (t.adopt app).children.children f =
    (t.children.children f).map (adopt app) := (rescopes_adopt app).children_map t.children f

theorem invokedBlocks_adopt : (t.adopt app).invokedBlocks = t.invokedBlocks.map (adopt app) := by
  have hbody : (t.adopt app).invokedBody? = t.invokedBody?.map (adopt app) := by
    simp only [invokedBody?, child?_adopt, bind_child?_adopt]
  unfold invokedBlocks
  rw [hbody]
  cases t.invokedBody? with
  | none => rfl
  | some body =>
    show List.filter _ ((body.adopt app).children.children .statements) =
      (List.filter _ (body.children.children .statements)).map _
    rw [children_adopt, List.filter_map]
    refine congrArg (List.map _) (congrArg (List.filter · _) (funext fun s => ?_))
    simp

end Tree

end HotReload
