/-
# The unit carries what its literals hold

A unit that is read as its tree names the values of its literals, in order: the
router, then every model in a block of its own, and the container. What a tree
names is found by one equation for every kind of statement and expression in it.

Key definitions: `IsModelBlock`, `Carries`, `applicationMethods`.
Key theorems: `HotUnit.carries_tree`, `Carries.adopt`, `HotUnit.carries_adopted`.
-/
import HotReload.Proofs.HotUnit.Names
import HotReload.Proofs.HotUnit.Shape
import HotReload.Role
import Mathlib.Data.List.Forall2

namespace HotReload

open Script HotUnit

/-- The block unregisters and registers the model with the given path, and no
other: under the namespace that it has remembered for it. -/
structure IsModelBlock (app : Ident) (block : Tree Node) (model : String) : Prop where
  remembered : block.remembered = [(some model, some model)]
  accepted : block.accepted = [some model]
  unregistered : block.unregistered = [(some app, some model)]
  registered : block.registered modelMethod = [(some app, some model)]

/-- The unit names the router, the container and the models, in order, and no
others. -/
structure Carries (app : Ident) (router container : String) (models : List String)
    (unit : Tree Node) : Prop where
  registered : unit.registered routerMethod = [(some app, some router)]
  accepted : unit.accepted = (router :: models).map some
  selected : unit.selected = [some container]
  blocks : List.Forall₂ (IsModelBlock app) unit.invokedBlocks models

/-- The methods that a unit calls on the application. -/
def applicationMethods : List String := [routerMethod, "use", "unmodel", modelMethod]

namespace Tree

/-! ### Reading generated code -/

/-- The function reads something off calls and assignments only, whatever field
they fill. -/
structure IsObserver {β : Type} (g : Tree Node → Option β) : Prop where
  fill : ∀ t f, g (t.fill f) = g t
  quiet : ∀ t, t.label ≠ .call → (∀ operator, t.label ≠ .assignment operator) → g t = none

section Collect

variable {β : Type} {g : Tree Node → Option β} (hg : IsObserver g)

theorem preorder_ofList (ts : List (Tree Node)) :
    (Forest.ofList ts).preorder = ts.flatMap preorder := by
  induction ts with
  | nil => rfl
  | cons t ts ih =>
    show t :: (t.children.preorder ++ (Forest.ofList ts).preorder) = _
    rw [ih]
    rfl

theorem collect_ofLabel (l : Label) (kids : List (Tree Node)) :
    (ofLabel l kids).collect g = (g (ofLabel l kids)).toList ++ kids.flatMap (collect g) := by
  have hkids : (Forest.ofList kids).preorder.filterMap g = kids.flatMap (collect g) := by
    rw [preorder_ofList, List.filterMap_flatMap]
    rfl
  show List.filterMap g (ofLabel l kids :: (Forest.ofList kids).preorder) = _
  rw [List.filterMap_cons, hkids]
  cases g (ofLabel l kids) <;> rfl

include hg

@[simp] theorem collect_fill (t : Tree Node) (f : Field) : (t.fill f).collect g = t.collect g := by
  show List.filterMap g (t.fill f :: t.children.preorder) = List.filterMap g (t :: _)
  rw [List.filterMap_cons, List.filterMap_cons, hg.fill]

theorem collect_childrenOf (ts : List (Tree Node)) (f : Field) :
    (childrenOf ts f).flatMap (collect g) = ts.flatMap (collect g) := by
  unfold childrenOf
  rw [List.flatMap_map]
  exact congrArg (ts.flatMap ·) (funext fun t => collect_fill hg t f)

/-- Nothing is read off other nodes themselves. -/
@[simp] theorem collect_quiet {l : Label} (hcall : l ≠ .call)
    (hassign : ∀ operator, l ≠ .assignment operator) (kids : List (Tree Node)) :
    (ofLabel l kids).collect g = kids.flatMap (collect g) := by
  rw [collect_ofLabel, hg.quiet (ofLabel l kids) hcall hassign]
  rfl

@[simp] theorem collect_identifierNode (name : String) : (identifierNode name).collect g = [] :=
  collect_quiet hg (by simp) (by simp) []

@[simp] theorem collect_literalNode (l : Literal) : (literalNode l).collect g = [] :=
  collect_quiet hg (by simp) (by simp) []

@[simp] theorem collect_propertyNode (object : Tree Node) (name : String) :
    (propertyNode object name).collect g = object.collect g := by
  unfold propertyNode memberNode
  rw [collect_quiet hg (by simp) (by simp)]
  simp [collect_fill hg, collect_quiet hg]

@[simp] theorem collect_elementNode (object key : Tree Node) :
    (elementNode object key).collect g = object.collect g ++ key.collect g := by
  unfold elementNode memberNode
  rw [collect_quiet hg (by simp) (by simp)]
  simp [collect_fill hg, collect_quiet hg]

@[simp] theorem collect_invocationNode (callee : Tree Node) (arguments : List (Tree Node)) :
    (invocationNode callee arguments).collect g =
      (g (invocationNode callee arguments)).toList ++
        (callee.collect g ++ arguments.flatMap (collect g)) := by
  have harguments : (arguments.map plainArgument).flatMap (collect g) =
      arguments.flatMap (collect g) := by
    rw [List.flatMap_map]
    refine congrArg (arguments.flatMap ·) (funext fun e => ?_)
    unfold plainArgument
    rw [collect_quiet hg (by simp) (by simp), List.flatMap_singleton, collect_fill hg]
  unfold invocationNode callNode
  rw [collect_ofLabel, List.flatMap_cons, collect_fill hg, collect_childrenOf hg, harguments]

@[simp] theorem collect_assignmentNode (operator : String) (left right : Tree Node) :
    (assignmentNode operator left right).collect g =
      (g (assignmentNode operator left right)).toList ++ (left.collect g ++ right.collect g) := by
  unfold assignmentNode
  rw [collect_ofLabel]
  simp [collect_fill hg]

@[simp] theorem collect_statementNode (e : Tree Node) : (statementNode e).collect g = e.collect g := by
  unfold statementNode
  rw [collect_quiet hg (by simp) (by simp), List.flatMap_singleton, collect_fill hg]

@[simp] theorem collect_blockNode (statements : List (Tree Node)) :
    (blockNode statements).collect g = statements.flatMap (collect g) := by
  unfold blockNode
  rw [collect_quiet hg (by simp) (by simp), collect_childrenOf hg]

@[simp] theorem collect_constantNode (name : String) (value : Tree Node) :
    (constantNode name value).collect g = value.collect g := by
  unfold constantNode
  rw [collect_quiet hg (by simp) (by simp), List.flatMap_singleton, collect_fill hg,
    collect_quiet hg (by simp) (by simp)]
  simp [collect_fill hg, collect_identifierNode hg]

@[simp] theorem collect_arrowNode (parameters : List String) (statements : List (Tree Node)) :
    (arrowNode parameters statements).collect g = statements.flatMap (collect g) := by
  have hparameters : (parameters.map identifierNode).flatMap (collect g) = [] := by
    rw [List.flatMap_map]
    exact List.flatMap_eq_nil_iff.mpr fun name _ => collect_identifierNode hg name
  unfold arrowNode
  rw [collect_quiet hg (by simp) (by simp), List.flatMap_append, collect_childrenOf hg, hparameters,
    List.flatMap_singleton, collect_fill hg, collect_blockNode hg]
  rfl

@[simp] theorem collect_tryNode (statements : List (Tree Node)) (error : String)
    (handler : List (Tree Node)) :
    (tryNode statements error handler).collect g =
      statements.flatMap (collect g) ++ handler.flatMap (collect g) := by
  unfold tryNode
  rw [collect_quiet hg (by simp) (by simp)]
  simp [collect_fill hg, collect_blockNode hg, collect_quiet hg, collect_identifierNode hg]

@[simp] theorem collect_ifNode (test : Tree Node) (statements : List (Tree Node)) :
    (ifNode test statements).collect g = test.collect g ++ statements.flatMap (collect g) := by
  unfold ifNode
  rw [collect_quiet hg (by simp) (by simp)]
  simp [collect_fill hg, collect_blockNode hg]

end Collect

/-! ### Calls and assignments -/

@[simp] theorem isObserver_methodCall? : IsObserver methodCall? where
  fill _ _ := rfl
  quiet _ h _ := if_neg (by simpa [Node.isCall, label] using h)

@[simp] theorem isObserver_assignedNamespace? : IsObserver assignedNamespace? where
  fill _ _ := rfl
  quiet _ _ h := if_neg (h "=")

/-- The call of a method of the object. -/
def methodCall (method : String) (object argument : Tree Node) : MethodCall :=
  ⟨method, object.fill .object, some (argument.fill .expression)⟩

@[simp] theorem methodCall_method (method : String) (object argument : Tree Node) :
    (methodCall method object argument).method = method := rfl

@[simp] theorem methodCall_ident? (method : String) (object argument : Tree Node) :
    (methodCall method object argument).object.ident? = object.ident? := rfl

@[simp] theorem methodCall_isModuleHot (method : String) (object argument : Tree Node) :
    (methodCall method object argument).object.isModuleHot = object.isModuleHot := rfl

@[simp] theorem methodCall_literal (method : String) (object : Tree Node) (l : Literal) :
    (methodCall method object (literalNode l)).argument.bind stringValue? = some l.value := rfl

@[simp] theorem methodCall_require (method : String) (object : Tree Node) (l : Literal) :
    (methodCall method object (requireNode l)).argument.bind requiredModule? = some l.value := rfl

@[simp] theorem methodCall_namespace (method : String) (object : Tree Node) (l : Literal) :
    (methodCall method object (namespaceNode l)).argument.bind (elementKey? namespaceMap) =
      some l.value := rfl

@[simp] theorem ident?_identifierNode (name : String) :
    (identifierNode name).ident? = some ⟨name, 0⟩ := rfl

@[simp] theorem isModuleHot_moduleHot : moduleHot.isModuleHot = true := rfl

@[simp] theorem methodCall?_property (object : Tree Node) (method : String) (argument : Tree Node)
    (arguments : List (Tree Node)) :
    methodCall? (invocationNode (propertyNode object method) (argument :: arguments)) =
      some (methodCall method object argument) := rfl

@[simp] theorem methodCall?_identifier (name : String) (arguments : List (Tree Node)) :
    methodCall? (invocationNode (identifierNode name) arguments) = none := rfl

@[simp] theorem methodCall?_assignment (operator : String) (left right : Tree Node) :
    methodCall? (assignmentNode operator left right) = none := rfl

@[simp] theorem assignedNamespace?_assignment (left object : Tree Node) (name : String) :
    assignedNamespace? (assignmentNode "=" left (propertyNode object name)) =
      some (left.elementKey? namespaceMap, object.requiredModule?) := rfl

@[simp] theorem assignedNamespace?_invocation (callee : Tree Node) (arguments : List (Tree Node)) :
    assignedNamespace? (invocationNode callee arguments) = none := rfl

end Tree

namespace HotUnit

open HotReload.Tree

variable (app : String) (router container model : Literal)

/-! ### The statements of a unit -/

theorem methodCalls_log : logNode.methodCalls =
    [methodCall "log" (identifierNode "console") (literalNode (quoted "[HMR] inited with dva-hmr"))] := by
  simp [methodCalls, logNode]

theorem methodCalls_requiring (method : String) (path : Literal) :
    (methodNode app method (requireNode path)).methodCalls =
      [methodCall method (identifierNode app) (requireNode path)] := by
  simp [methodCalls, methodNode, requireNode, applicationNode]

theorem methodCalls_model : (modelPhrase app model).2.methodCalls =
    [methodCall "accept" moduleHot (literalNode model),
      methodCall "unmodel" (identifierNode app) (namespaceNode model),
      methodCall "model" (identifierNode app) (requireNode model),
      methodCall "error" (identifierNode "console") (identifierNode "e")] := by
  simp [methodCalls, modelPhrase, ifHotPhrase, acceptPhrase, reportingPhrase, requiringPhrase,
    unmodelPhrase, statementsOf, moduleHot, rememberNode, acceptNode, reportingNode, methodNode,
    namespaceNode, requireNode, applicationNode]

theorem methodCalls_use : (usePhrase app router container).2.methodCalls =
    [methodCall "use" (identifierNode app) (optionsNode (hotRouterPhrase router container).2),
      methodCall "render" (identifierNode "ReactDOM") redBoxNode,
      methodCall "createElement" (identifierNode "React") (identifierNode "RedBox"),
      methodCall "querySelector" (identifierNode "document") (literalNode container),
      methodCall "error" (identifierNode "console") (literalNode (quoted "error")),
      methodCall "accept" moduleHot (literalNode router)] := by
  simp [methodCalls, usePhrase, methodNode]
  simp [optionsNode, hotRouterPhrase, ifHotPhrase, acceptPhrase,
    statementsOf, moduleHot, renderExceptionNode, redBoxNode, newRenderNode, acceptNode, requireNode,
    applicationNode]

/-- What is read off a unit is read off its statements, one after the other, if nothing is
read off the call of its function. -/
theorem collect_tree {β : Type} {g : Tree Node → Option β} (hg : IsObserver g)
    (hcall : ∀ kids, g (callNode false (.ofLabel .parenthesized kids) []) = none)
    (literals : Literals) :
    (tree app literals).collect g =
      (statementsOf (phrases app literals)).flatMap (collect g) := by
  unfold tree selfInvocationNode
  rw [collect_statementNode hg]
  unfold callNode at hcall ⊢
  rw [collect_ofLabel, hcall]
  simp [functionNode, hg]

/-- The calls of methods in a unit: those of its statements, one after the other. -/
theorem methodCalls_tree (literals : Literals) : (tree app literals).methodCalls =
    (statementsOf (phrases app literals)).flatMap methodCalls :=
  collect_tree app isObserver_methodCall? (fun _ => rfl) literals

/-! ### What a unit carries -/

theorem methodCalls_fill (t : Tree Node) (f : Field) : (t.fill f).methodCalls = t.methodCalls :=
  collect_fill isObserver_methodCall? t f

theorem remembered_model : ((modelPhrase app model).2.fill .statements).remembered =
    [(some model.value, some model.value)] := by
  unfold remembered
  rw [collect_fill isObserver_assignedNamespace?]
  simp [modelPhrase, ifHotPhrase, acceptPhrase, reportingPhrase, requiringPhrase, unmodelPhrase,
    statementsOf, moduleHot, rememberNode, acceptNode, reportingNode, methodNode, namespaceNode,
    requireNode, applicationNode]
  exact ⟨rfl, rfl⟩

/-- The block of a model is one. -/
theorem isModelBlock_model (app : String) (model : Literal) :
    IsModelBlock ⟨app, 0⟩ ((modelPhrase app model).2.fill .statements) model.value where
  remembered := remembered_model app model
  accepted := by
    simp [accepted, callsTo, methodCalls_fill, methodCalls_model, List.filter_cons]
  unregistered := by
    simp [unregistered, callsTo, methodCalls_fill, methodCalls_model]
  registered := by
    simp [registered, callsTo, methodCalls_fill, methodCalls_model, modelMethod]

/-- The calls of a method in a unit are those in the statements of the router and
those in the blocks of the models. -/
theorem callsTo_tree (method : String) (literals : Literals) :
    (tree app literals).callsTo method =
      (methodCall "log" (identifierNode "console") (literalNode (quoted "[HMR] inited with dva-hmr")) ::
        methodCall "router" (identifierNode app) (requireNode literals.router) ::
        (usePhrase app literals.router literals.container).2.methodCalls).filter
          (·.method = method) ++
        literals.models.flatMap fun model => (modelPhrase app model).2.callsTo method := by
  have hmodels : (statementsOf (literals.models.map (modelPhrase app))).flatMap methodCalls =
      literals.models.flatMap fun model => (modelPhrase app model).2.methodCalls := by
    simp [statementsOf, List.flatMap_map]
  have hstatements : (statementsOf (phrases app literals)).flatMap methodCalls =
      logNode.methodCalls ++ ((methodNode app "router" (requireNode literals.router)).methodCalls ++
        ((usePhrase app literals.router literals.container).2.methodCalls ++
          (statementsOf (literals.models.map (modelPhrase app))).flatMap methodCalls)) := rfl
  unfold callsTo
  rw [methodCalls_tree, hstatements, hmodels, methodCalls_log, methodCalls_requiring,
    ← List.filter_flatMap, ← List.filter_append]
  rfl

/-- Trees that fill a field are the children that fill it. -/
theorem children_ofList (ts : List (Tree Node)) (f : Field) :
    (Forest.ofList (childrenOf ts f)).children f = childrenOf ts f := by
  unfold Forest.children
  rw [Forest.toList_ofList, List.filter_eq_self]
  intro t ht
  obtain ⟨t, -, rfl⟩ := List.mem_map.mp ht
  exact beq_self_eq_true f

/-- The blocks of a unit are those of its models. -/
theorem invokedBlocks_tree (literals : Literals) : (tree app literals).invokedBlocks =
    literals.models.map fun model => (modelPhrase app model).2.fill .statements := by
  have hbody : (tree app literals).invokedBody? =
      some ((blockNode (statementsOf (phrases app literals))).fill .body) := rfl
  have hmodels : (statementsOf (literals.models.map (modelPhrase app))).filter
      (·.label = .ifStatement) = statementsOf (literals.models.map (modelPhrase app)) := by
    refine List.filter_eq_self.mpr fun s hs => ?_
    simp only [statementsOf, List.map_map, List.mem_map] at hs
    obtain ⟨model, -, rfl⟩ := hs
    rfl
  unfold invokedBlocks
  rw [hbody]
  show List.filter _ ((Forest.ofList (childrenOf (statementsOf (phrases app literals))
    .statements)).children .statements) = _
  rw [children_ofList, childrenOf, List.filter_map]
  show List.map _ ((statementsOf (literals.models.map (modelPhrase app))).filter
    (·.label = .ifStatement)) = _
  rw [hmodels, statementsOf, List.map_map, List.map_map]
  rfl

/-- **A unit carries the values of its literals.** -/
theorem carries_tree (app : String) (literals : Literals) :
    Carries ⟨app, 0⟩ literals.router.value literals.container.value
      (literals.models.map Literal.value) (tree app literals) where
  registered := by
    have hmodels : ∀ model, (modelPhrase app model).2.callsTo routerMethod = [] := by
      simp [callsTo, methodCalls_model, routerMethod]
    rw [registered, callsTo_tree]
    simp only [hmodels]
    simp [methodCalls_use, routerMethod]
  accepted := by
    have hmodels : ∀ model, (modelPhrase app model).2.callsTo "accept" =
        [methodCall "accept" moduleHot (literalNode model)] := by
      simp [callsTo, methodCalls_model]
    rw [accepted, callsTo_tree]
    simp only [hmodels, ← List.map_eq_flatMap]
    simp [methodCalls_use, List.filter_cons, List.filter_map, Function.comp_def]
  selected := by
    have hmodels : ∀ model, (modelPhrase app model).2.callsTo "querySelector" = [] := by
      simp [callsTo, methodCalls_model]
    rw [selected, callsTo_tree]
    simp only [hmodels]
    simp [methodCalls_use]
  blocks := by
    rw [invokedBlocks_tree, List.forall₂_map_left_iff, List.forall₂_map_right_iff,
      List.forall₂_same]
    exact fun model _ => isModelBlock_model app model

end HotUnit

/-! ### In a program -/

section Adoption

variable (app : Ident) {block unit : Tree Node} {router container model : String}
  {models : List String}

/-- Adoption gives the application its place. -/
theorem adopt_application : Ident.adopt app ⟨app.name, 0⟩ = app := if_pos rfl

theorem IsModelBlock.adopt (h : IsModelBlock ⟨app.name, 0⟩ block model) :
    IsModelBlock app (block.adopt app) model where
  remembered := by
    rw [Tree.remembered_adopt, h.remembered]
  accepted := by
    rw [Tree.accepted_adopt, h.accepted]
  unregistered := by
    rw [Tree.unregistered_adopt, h.unregistered]
    simp [adopt_application]
  registered := by
    rw [Tree.registered_adopt, h.registered]
    simp [adopt_application]

/-- What a unit carries it carries in a program, too, where the application takes its
place. -/
theorem Carries.adopt (h : Carries ⟨app.name, 0⟩ router container models unit) :
    Carries app router container models (unit.adopt app) where
  registered := by
    rw [Tree.registered_adopt, h.registered]
    simp [adopt_application]
  accepted := by
    rw [Tree.accepted_adopt, h.accepted]
  selected := by
    rw [Tree.selected_adopt, h.selected]
  blocks := by
    rw [Tree.invokedBlocks_adopt, List.forall₂_map_left_iff]
    exact h.blocks.imp fun block model hblock => hblock.adopt app

/-- In a program a unit carries the values of its literals. -/
theorem HotUnit.carries_adopted (literals : Literals) :
    Carries app literals.router.value literals.container.value (literals.models.map Literal.value)
      ((tree app.name literals).adopt app) :=
  (carries_tree app.name literals).adopt app

end Adoption

end HotReload
