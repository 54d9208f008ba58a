/-
# Which identifiers of a unit mean the application

The name of the application is put into the text of a unit, the text is read, and every
identifier of that name is given the application's scope. What this reaches is told by
the identifiers of the unit in their places: what each is there for, the method that is
called on it, and what is declared around it. The slots for the application always refer
to it. But the text of a unit brings names of its own: if the application has one of
these, identifiers of the text become the application as well, and if it is named as the
map of namespaces is, the slots of the models are captured by that
(`rewriteProgram_reaches_application`, `template_name_reaches_application`).

Key definitions: `Label.bounds`, `Forest.reaching`, `Occurrence`, `Tree.occurrences`,
`Occurrence.isSlot`, `HotUnit.templateNames`, `HotUnit.Reaches`.
Key theorems: `Tree.occurrences_adopt`, `HotUnit.slots_tree`, `HotUnit.names_tree`,
`HotUnit.captured_iff`, `HotUnit.Reaches.hygienic`, `rewriteProgram_reaches_application`,
`template_name_reaches_application`.
-/
import HotReload.Proofs.References
import Mathlib.Data.List.Permutation

namespace HotReload

open Script HotUnit

/-! ### Occurrences and what is declared around them -/

/-- Whether a declaration of the given extent reaches no further than a node of this
kind. -/
def Label.bounds : Label → Extent → Bool
  | moduleRoot _, _ | scriptRoot _, _ | functionPart _ _, _ | arrow _ _, _ | getter, _ | setter, _
  | constructorMember, _ | staticBlock, _ => true
  | block, .block | forStatement, .block | forInStatement, .block | forOfStatement _, .block
  | switchStatement, .block | catchClause, .block | functionExpression, .block
  | classExpression, .block => true
  | _, _ => false

/-- The identifiers whose declarations, of the given extent, reach beyond the trees of
the forest that they stand in. -/
def Forest.reaching (e : Extent) (l : Label) (outer : Use) : Forest Node → List Ident
  | .nil => []
  | .cons n kids rest =>
    (if l.use outer n.field = .declares e then n.ident?.toList else []) ++
      (if n.label.bounds e then [] else kids.reaching e n.label (l.use outer n.field)) ++
      rest.reaching e l outer

/-- An identifier in its place: what it is there for, the method that is called on it,
and the identifiers that are declared around it. -/
structure Occurrence where
  ident : Ident
  use : Use
  method : Option String
  visible : List Ident
deriving DecidableEq

/-- The identifiers that a node declares for everything below it. -/
def Tree.bound (t : Tree Node) (use : Use) : List Ident :=
  (if t.label.bounds .block then t.children.reaching .block t.label use else []) ++
    if t.label.bounds .function then t.children.reaching .function t.label use else []

/-- The identifiers of a forest in their places. The forest holds children of a node
of the kind `l`, in whose place identifiers are there for `outer`; the node is a member
with the name `method`, if it is one, and `visible` are declared around the forest. -/
def Forest.occurrences (l : Label) (outer : Use) (method : Option String) (visible : List Ident) :
    Forest Node → List Occurrence
  | .nil => []
  | .cons n kids rest =>
    (n.ident?.map fun id =>
      ⟨id, l.use outer n.field, if n.field = .object then method else none, visible⟩).toList ++
      kids.occurrences n.label (l.use outer n.field) (Tree.memberName? ⟨n, kids⟩)
        (visible ++ Tree.bound ⟨n, kids⟩ (l.use outer n.field)) ++
      rest.occurrences l outer method visible

namespace Tree

variable (t : Tree Node)

/-- The identifiers of a statement in their places, where `visible` are declared around
it. -/
def occurrencesIn (visible : List Ident) : List Occurrence :=
  t.toForest.occurrences .hole .refers none visible

/-- The identifiers that a statement declares beyond itself. -/
def declaring (e : Extent) : List Ident := t.toForest.reaching e .hole .refers

/-- The identifiers of a statement in their places, where nothing is declared around
it. -/
def occurrences : List Occurrence := t.occurrencesIn (t.declaring .block ++ t.declaring .function)

end Tree

/-! ### Adoption -/

/-- The occurrence in a program in which `app` is the application. -/
def Occurrence.adopt (app : Ident) (o : Occurrence) : Occurrence :=
  ⟨Ident.adopt app o.ident, o.use, o.method, o.visible.map (Ident.adopt app)⟩

theorem Label.use_unplaced (l : Label) : l.unplaced.use = l.use := by
  funext outer f
  cases l with
  | restElement dots => cases f <;> rfl
  | _ => rfl

theorem Label.bounds_unplaced (l : Label) (e : Extent) : l.unplaced.bounds e = l.bounds e := by
  cases l <;> rfl

namespace Forest

variable (app : Ident)

theorem reaching_adopt (e : Extent) (l : Label) (outer : Use) (f : Forest Node) :
    (f.map (Node.adopt app)).reaching e l.unplaced outer =
      (f.reaching e l outer).map (Ident.adopt app) := by
  induction f generalizing l outer with
  | nil => rfl
  | cons n kids rest ihk ihr =>
    have hident : (n.adopt app).ident? = n.ident?.map (Ident.adopt app) :=
      (rescopes_adopt app).ident? n
    have hlabel : (n.adopt app).label = n.label.unplaced := rfl
    have hfield : (n.adopt app).field = n.field := rfl
    simp only [map, reaching, List.map_append, ihr, hident, hlabel, hfield, Label.use_unplaced,
      Label.bounds_unplaced, ihk]
    refine congrArg (· ++ _) (congrArg₂ (· ++ ·) ?_ ?_)
    · split
      · cases n.ident? <;> rfl
      · rfl
    · split <;> rfl

end Forest

theorem Tree.bound_adopt (app : Ident) (t : Tree Node) (use : Use) :
    (t.adopt app).bound use = (t.bound use).map (Ident.adopt app) := by
  have hreaching (e : Extent) : (t.adopt app).children.reaching e t.label.unplaced use =
      (t.children.reaching e t.label use).map (Ident.adopt app) :=
    Forest.reaching_adopt app e t.label use t.children
  simp only [bound, label_adopt, Label.bounds_unplaced, hreaching, List.map_append,
    apply_ite (List.map (Ident.adopt app)), List.map_nil]

theorem Forest.occurrences_adopt (app : Ident) (l : Label) (outer : Use) (method : Option String)
    (visible : List Ident) (f : Forest Node) :
    (f.map (Node.adopt app)).occurrences l.unplaced outer method (visible.map (Ident.adopt app)) =
      (f.occurrences l outer method visible).map (Occurrence.adopt app) := by
  induction f generalizing l outer method visible with
  | nil => rfl
  | cons n kids rest ihk ihr =>
    have hident : (n.adopt app).ident? = n.ident?.map (Ident.adopt app) :=
      (rescopes_adopt app).ident? n
    have hlabel : (n.adopt app).label = n.label.unplaced := rfl
    have hfield : (n.adopt app).field = n.field := rfl
    have hmember : Tree.memberName? ⟨n.adopt app, kids.map (Node.adopt app)⟩ =
        Tree.memberName? ⟨n, kids⟩ := Tree.memberName?_adopt app ⟨n, kids⟩
    have hbound : Tree.bound ⟨n.adopt app, kids.map (Node.adopt app)⟩ (l.use outer n.field) =
        (Tree.bound ⟨n, kids⟩ (l.use outer n.field)).map (Ident.adopt app) :=
      Tree.bound_adopt app ⟨n, kids⟩ _
    have hkids := ihk n.label (l.use outer n.field) (Tree.memberName? ⟨n, kids⟩)
      (visible ++ Tree.bound ⟨n, kids⟩ (l.use outer n.field))
    rw [List.map_append] at hkids
    simp only [map, occurrences, List.map_append, ihr, hident, hlabel, hfield, Label.use_unplaced,
      hmember, hbound, hkids, List.append_cancel_right_eq]
    cases n.ident? <;> rfl

/-- Adopting a statement adopts the identifiers in their places. -/
theorem Tree.occurrences_adopt (app : Ident) (t : Tree Node) :
    (t.adopt app).occurrences = t.occurrences.map (Occurrence.adopt app) := by
  have hdeclaring (e : Extent) : (t.adopt app).declaring e =
      (t.declaring e).map (Ident.adopt app) := Forest.reaching_adopt app e .hole .refers t.toForest
  unfold occurrences
  rw [hdeclaring, hdeclaring, ← List.map_append]
  exact Forest.occurrences_adopt app .hole .refers none _ t.toForest

/-! ### Statements one after the other -/

/-- Statements one after the other declare nothing if none of them does. -/
theorem reaching_childrenOf (e : Extent) (l : Label) (outer : Use) {ts : List (Tree Node)}
    (h : ∀ t ∈ ts, t.declaring e = []) :
    (Forest.ofList (childrenOf ts .statements)).reaching e l outer = [] := by
  induction ts with
  | nil => rfl
  | cons t ts ih =>
    have huse : l.use outer .statements = .refers := l.use_of_holdsStatement outer rfl
    have ht : t.declaring e = [] := h t List.mem_cons_self
    have hts : (Forest.ofList (childrenOf ts .statements)).reaching e l outer = [] :=
      ih fun s hs => h s (List.mem_cons_of_mem _ hs)
    have hfirst : (Forest.ofList (childrenOf (t :: ts) .statements)).reaching e l outer =
        t.declaring e ++ (Forest.ofList (childrenOf ts .statements)).reaching e l outer := by
      simp only [childrenOf, List.map_cons, Forest.ofList, Forest.reaching, Tree.fill, huse,
        Tree.declaring, Tree.toForest, List.append_nil]
      rfl
    rw [hfirst, ht, hts, List.append_nil]

/-- The identifiers of statements one after the other. -/
theorem occurrences_childrenOf (l : Label) (outer : Use) (visible : List Ident)
    (ts : List (Tree Node)) :
    (Forest.ofList (childrenOf ts .statements)).occurrences l outer none visible =
      ts.flatMap (·.occurrencesIn visible) := by
  induction ts with
  | nil => rfl
  | cons t ts ih =>
    have huse : l.use outer .statements = .refers := l.use_of_holdsStatement outer rfl
    have hfirst : (Forest.ofList (childrenOf (t :: ts) .statements)).occurrences l outer none
        visible = t.occurrencesIn visible ++
          (Forest.ofList (childrenOf ts .statements)).occurrences l outer none visible := by
      simp only [childrenOf, List.map_cons, Forest.ofList, Forest.occurrences, Tree.fill, huse,
        Tree.occurrencesIn, Tree.toForest, List.append_nil, ite_self]
      rfl
    rw [hfirst, ih, List.flatMap_cons]

/-- The identifiers of a function that is called at once are those of its statements, if
these declare nothing beyond themselves. -/
theorem occurrences_selfInvocation {ts : List (Tree Node)}
    (h : ∀ t ∈ ts, ∀ e, t.declaring e = []) :
    (selfInvocationNode (blockNode ts)).occurrences = ts.flatMap (·.occurrencesIn []) := by
  have hreaching (e : Extent) :
      (Forest.ofList (childrenOf ts .statements)).reaching e .block .refers = [] :=
    reaching_childrenOf e .block .refers fun t ht => h t ht e
  rw [← occurrences_childrenOf .block .refers]
  unfold blockNode Tree.ofLabel
  generalize Forest.ofList (childrenOf ts .statements) = kids at hreaching ⊢
  simp [selfInvocationNode, statementNode, callNode, functionNode, Tree.ofLabel, Forest.ofList,
    Tree.fill, Tree.occurrences, Tree.occurrencesIn, Tree.declaring, Tree.toForest,
    Forest.occurrences, Forest.reaching, Tree.bound, Tree.label, hreaching, Label.use, Label.bounds,
    Node.ident?, Tree.memberName?]

/-! ### The identifiers of a unit -/

/-- Whether the identifier stands where a unit puts the name of the application. -/
def Occurrence.isSlot (o : Occurrence) : Bool := o.method.any (applicationMethods.contains ·)

namespace HotUnit

/-- The name in a slot, where the given method is called on it. -/
def slotOccurrence (name method : String) (visible : List Ident) : Occurrence :=
  ⟨⟨name, 0⟩, .refers, some method, visible⟩

/-- The map of the namespaces of models, as the text of a unit has it. -/
def namespaces : Ident := ⟨Tree.namespaceMap, 0⟩

/-- The names in the text of a unit, the slots and the blocks of models apart. -/
def routerNames : List String :=
  ["console", "require", "render", "module", "renderNormally", "render", "renderException",
   "error", "RedBox", "require", "ReactDOM", "React", "RedBox", "error", "document", "newRender",
   "router", "renderNormally", "router", "error", "console", "error", "renderException", "error",
   "module", "router", "require", "newRender", "router"]

/-- The names in the text of the block of a model, the slots apart. -/
def modelNames : List String :=
  ["module", "modelNamespaceMap", "modelNamespaceMap", "require", "module", "modelNamespaceMap",
   "require", "e", "console", "e"]

/-- The names in the text of a unit, the slots apart. -/
def templateNames (u : HotUnit) : List String :=
  routerNames ++ u.reloaded.flatMap fun _ => modelNames

section Template

variable (app : String) (literals : Literals)

/-- The statements before the blocks of the models. -/
def frontStatements : List (Tree Node) :=
  [logNode, methodNode app "router" (requireNode literals.router),
    (usePhrase app literals.router literals.container).2]

theorem statementsOf_phrases : statementsOf (phrases app literals) =
    frontStatements app literals ++ literals.models.map fun m => (modelPhrase app m).2 := by
  simp [statementsOf, phrases, frontStatements, requiringPhrase, Function.comp_def]

/-- No statement of a unit declares anything beyond itself. -/
theorem declaring_statements (e : Extent) :
    ∀ t ∈ statementsOf (phrases app literals), t.declaring e = [] := by
  have hlog : logNode.declaring e = [] := by cases e <;> cbv
  have hrouter : (methodNode app "router" (requireNode literals.router)).declaring e = [] := by
    cases e <;> cbv
  have huse : (usePhrase app literals.router literals.container).2.declaring e = [] := by
    cases e <;> cbv
  have hmodel (m : Literal) : (modelPhrase app m).2.declaring e = [] := by cases e <;> cbv
  rw [statementsOf_phrases]
  simp [frontStatements, hlog, hrouter, huse, hmodel]

theorem occurrences_tree : (tree app literals).occurrences =
    (frontStatements app literals).flatMap (·.occurrencesIn []) ++
      literals.models.flatMap fun m => (modelPhrase app m).2.occurrencesIn [] := by
  unfold tree
  rw [occurrences_selfInvocation fun t ht e => declaring_statements app literals e t ht,
    statementsOf_phrases, List.flatMap_append, List.flatMap_map]

theorem slots_frontStatements :
    ((frontStatements app literals).flatMap (·.occurrencesIn [])).filter (·.isSlot) =
      [slotOccurrence app "router" [], slotOccurrence app "use" []] := by cbv

theorem names_frontStatements :
    (((frontStatements app literals).flatMap (·.occurrencesIn [])).filter (!·.isSlot)).map
      (·.ident) = routerNames.map (⟨·, 0⟩) := by cbv

theorem slots_model (model : Literal) :
    ((modelPhrase app model).2.occurrencesIn []).filter (·.isSlot) =
      [slotOccurrence app "unmodel" [namespaces], slotOccurrence app "model" [namespaces]] := by cbv

theorem names_model (model : Literal) :
    (((modelPhrase app model).2.occurrencesIn []).filter (!·.isSlot)).map (·.ident) =
      modelNames.map (⟨·, 0⟩) := by cbv

/-- The slots of a unit: nothing is declared around those of the router, and the map of
namespaces is declared around those of a model. -/
theorem slots_tree : (tree app literals).occurrences.filter (·.isSlot) =
    slotOccurrence app "router" [] :: slotOccurrence app "use" [] ::
      literals.models.flatMap fun _ =>
        [slotOccurrence app "unmodel" [namespaces], slotOccurrence app "model" [namespaces]] := by
  rw [occurrences_tree, List.filter_append, slots_frontStatements, List.filter_flatMap]
  simp only [slots_model]
  rfl

/-- The other identifiers of a unit are in no scope. -/
theorem names_tree : ((tree app literals).occurrences.filter (!·.isSlot)).map (·.ident) =
    (routerNames ++ literals.models.flatMap fun _ => modelNames).map (⟨·, 0⟩) := by
  rw [occurrences_tree, List.filter_append, List.map_append, names_frontStatements,
    List.filter_flatMap, List.map_flatMap, List.map_append, List.map_flatMap]
  simp only [names_model]

end Template

/-! ### The unit in the program -/

/-- A member of a list that is repeated for every member of another. -/
theorem mem_flatMap_const {α β : Type} {as : List α} {bs : List β} {b : β} :
    b ∈ (as.flatMap fun _ => bs) ↔ as ≠ [] ∧ b ∈ bs := by
  cases as <;> simp

section Adopted

variable {app : Ident} {literals : Literals} {unit : Tree Node}

/-- A name in no scope becomes the application if it is the application's name, and only
then. -/
theorem adopt_eq_iff {name : String} : Ident.adopt app ⟨name, 0⟩ = app ↔ name = app.name := by
  constructor
  · intro h
    rw [← h, Ident.name_adopt]
  · rintro rfl
    exact if_pos rfl

/-- What stands in the slots of a unit in the program. -/
theorem mem_slots_adopt {o : Occurrence} :
    (o ∈ ((tree app.name literals).adopt app).occurrences ∧ o.isSlot = true) ↔
      o = ⟨app, .refers, some "router", []⟩ ∨ o = ⟨app, .refers, some "use", []⟩ ∨
      literals.models ≠ [] ∧
        (o = ⟨app, .refers, some "unmodel", [Ident.adopt app namespaces]⟩ ∨
          o = ⟨app, .refers, some "model", [Ident.adopt app namespaces]⟩) := by
  have hslot (method : String) (visible : List Ident) :
      (slotOccurrence app.name method visible).adopt app =
        ⟨app, .refers, some method, visible.map (Ident.adopt app)⟩ :=
    congrArg (Occurrence.mk · _ _ _) (adopt_eq_iff.mpr rfl)
  have hslots : (((tree app.name literals).adopt app).occurrences.filter (·.isSlot)) =
      ((tree app.name literals).occurrences.filter (·.isSlot)).map (Occurrence.adopt app) := by
    rw [Tree.occurrences_adopt, List.filter_map]
    rfl
  rw [← List.mem_filter, hslots, slots_tree]
  simp only [List.map_cons, hslot, List.mem_cons, List.map_flatMap, List.map_nil]
  rw [mem_flatMap_const]
  simp only [List.mem_cons, List.not_mem_nil, or_false]

/-- The other identifiers of a unit in the program. -/
theorem mem_names_adopt {id : Ident} :
    (∃ o ∈ ((tree app.name literals).adopt app).occurrences, o.isSlot = false ∧ o.ident = id) ↔
      ∃ name ∈ routerNames ++ literals.models.flatMap fun _ => modelNames,
        Ident.adopt app ⟨name, 0⟩ = id := by
  have hnames : ((((tree app.name literals).adopt app).occurrences.filter (!·.isSlot)).map
      (·.ident)) = (((tree app.name literals).occurrences.filter (!·.isSlot)).map (·.ident)).map
        (Ident.adopt app) := by
    rw [Tree.occurrences_adopt, List.filter_map, List.map_map, List.map_map]
    rfl
  rw [names_tree, List.map_map] at hnames
  have hmem := congrArg (id ∈ ·) hnames
  simpa only [List.mem_map, List.mem_filter, Bool.not_eq_true', and_assoc, Function.comp_apply,
    eq_iff_iff] using hmem

/-- The slots of a unit are captured exactly if the application is named as the map of
namespaces is, and there is a model. -/
theorem captured_iff :
    (∃ o ∈ ((tree app.name literals).adopt app).occurrences, o.isSlot = true ∧
      o.ident ∈ o.visible) ↔ app.name = Tree.namespaceMap ∧ literals.models ≠ [] := by
  have hcaptured : app ∈ [Ident.adopt app namespaces] ↔ app.name = Tree.namespaceMap := by
    rw [List.mem_singleton, eq_comm, namespaces, adopt_eq_iff, eq_comm]
  simp only [← and_assoc, mem_slots_adopt]
  constructor
  · rintro ⟨o, rfl | rfl | ⟨hmodels, rfl | rfl⟩, hvisible⟩
    · cases hvisible
    · cases hvisible
    · exact ⟨hcaptured.mp hvisible, hmodels⟩
    · exact ⟨hcaptured.mp hvisible, hmodels⟩
  · rintro ⟨hname, hmodels⟩
    exact ⟨_, Or.inr (Or.inr ⟨hmodels, Or.inl rfl⟩), hcaptured.mpr hname⟩

/-- What the name of the application reaches in its unit: all slots for it; a slot is
captured exactly if the application is named as the map of namespaces is and a model is
reloaded; and another identifier becomes the application exactly if the text of the unit
has the application's name. -/
structure Reaches (app : Ident) (u : HotUnit) (unit : Tree Node) : Prop where
  slots : ∀ o ∈ unit.occurrences, o.isSlot = true → o.ident = app ∧ o.use = .refers
  captured : (∃ o ∈ unit.occurrences, o.isSlot = true ∧ o.ident ∈ o.visible) ↔
    app.name = Tree.namespaceMap ∧ u.reloaded ≠ []
  names : (∃ o ∈ unit.occurrences, o.isSlot = false ∧ o.ident = app) ↔ app.name ∈ u.templateNames

theorem reaches_of_isReadAs {u : HotUnit} (happ : u.app = app.name)
    (hname : isVariableName app.name = true) (hunit : u.adopted app = .ok unit)
    (h : u.IsReadAs literals) : Reaches app u unit := by
  have hmodels : literals.models ≠ [] ↔ u.reloaded ≠ [] := by
    rw [← List.length_pos_iff, ← List.length_pos_iff, h.models.length_eq]
  rw [adopted_of_isReadAs happ hname hunit h]
  refine ⟨fun o ho hslot => ?_, captured_iff.trans (and_congr_right' hmodels), ?_⟩
  · rcases mem_slots_adopt.mp ⟨ho, hslot⟩ with rfl | rfl | ⟨-, rfl | rfl⟩ <;> exact ⟨rfl, rfl⟩
  · simp only [mem_names_adopt, adopt_eq_iff, exists_eq_right, templateNames, List.mem_append,
      mem_flatMap_const, hmodels]

/-- If the text of the unit does not have the application's name, then no slot is captured
and no other identifier becomes the application. -/
theorem Reaches.hygienic {u : HotUnit} (h : Reaches app u unit)
    (happ : app.name ∉ u.templateNames) :
    ∀ o ∈ unit.occurrences,
      if o.isSlot then o.ident = app ∧ o.ident ∉ o.visible else o.ident ≠ app := by
  intro o ho
  split
  · rename_i hslot
    refine ⟨(h.slots o ho hslot).1, fun hvisible => happ ?_⟩
    obtain ⟨hname, hreloaded⟩ := h.captured.mp ⟨o, ho, hslot, hvisible⟩
    rw [templateNames, List.mem_append, mem_flatMap_const, hname]
    exact Or.inr ⟨hreloaded, by decide⟩
  · rename_i hslot
    exact fun hident => happ (h.names.mp ⟨o, ho, by simpa using hslot, hident⟩)

end Adopted

end HotUnit

variable (options : Options) (file : FileIdentity) (program : Tree Node) (sessions : Sessions)

/-- **What the name of the application reaches.** The names that the program defines are
names of variables. If a statement was rewritten and the slots of the unit are read as
literals, then every slot for the application refers to it, and it is known when a slot
is captured and when another identifier of the unit becomes the application. -/
theorem rewriteProgram_reaches_application
    (hnames : ∀ d ∈ (Scope.ofProgram program).definitions, isVariableName d.1.name = true) :
    ∃ output outcome stored,
      rewriteProgram options file program sessions = (output, outcome, stored) ∧
      ∀ router, outcome.router = some router →
        ∃ hit u, (Job.ofProgram options file program).IsFirstCandidate program.callSites hit ∧
          output = program.replaceAt (Trail.toStatement hit.site.trail).address hit.statement ∧
          u = (Job.ofProgram options file program).unitFor hit.app router outcome.models ∧
          ∀ literals, u.IsReadAs literals → Reaches hit.app u hit.unit := by
  rcases hrun : rewriteProgram options file program sessions with ⟨output, outcome, stored⟩
  refine ⟨output, outcome, stored, rfl, fun router hrouter => ?_⟩
  obtain ⟨hit, hfirst, rfl⟩ := exists_isFirstCandidate_of_router options file program sessions
    (by rw [hrun]; exact hrouter)
  rw [rewriteProgram_of_isFirstCandidate options file program sessions hfirst] at hrun
  cases hrun
  obtain ⟨d, hd, happ⟩ := Scope.mem_definitions_of_callRole hfirst.candidate.role
  have hname : isVariableName hit.app.name = true := happ ▸ hnames d hd
  exact ⟨hit, _, hfirst, rfl, rfl, fun literals h =>
    reaches_of_isReadAs rfl hname hfirst.candidate.parses h⟩

/-- An application with the name `app` and with two models is reached by its slots and by
nothing else. -/
theorem plainModels_reach_application :
    (∀ d ∈ (Scope.ofProgram (registeringModels plainModels)).definitions,
      isVariableName d.1.name = true) ∧
    ∃ hit, (Job.ofProgram .standard ⟨"index.js"⟩ (registeringModels plainModels)).IsFirstCandidate
        (registeringModels plainModels).callSites hit ∧
      (∃ o ∈ hit.unit.occurrences, o.isSlot = true ∧ o.method = some modelMethod) ∧
      ∀ o ∈ hit.unit.occurrences,
        if o.isSlot then o.ident = hit.app ∧ o.ident ∉ o.visible else o.ident ≠ hit.app := by
  have hnames := isVariableName_plainModels
  obtain ⟨output, outcome, stored, hrun, hreaches⟩ := rewriteProgram_reaches_application .standard
    ⟨"index.js"⟩ (registeringModels plainModels) ⟨[]⟩ hnames
  obtain ⟨houtcome, other, hother, happ, hunit⟩ := rewriteProgram_plainModels ⟨"index.js"⟩ ⟨[]⟩
  rw [hrun] at houtcome
  obtain rfl : outcome = _ := houtcome
  obtain ⟨hit, u, hfirst, -, rfl, hread⟩ := hreaches "./router" rfl
  obtain rfl := hfirst.unique hother
  have hmodel : ∃ o ∈ hit.unit.occurrences, o.isSlot = true ∧ o.method = some modelMethod := by
    rw [hunit]
    decide +kernel
  have hliterals := isReadAs_plainModels hit.app.name
  refine ⟨hnames, hit, hfirst, hmodel, (hread _ hliterals).hygienic ?_⟩
  rw [happ]
  decide

/-- The program that creates an application with the name `module` and registers a
router. -/
def namedModule : Tree Node :=
  programNode [constantsNode [(⟨"module", 2⟩, factoryNode)],
    statementNode (registrationNode ⟨"module", 2⟩)]

/-- In its unit, `module.hot` is a property of the application. -/
theorem template_name_reaches_application :
    ∃ output outcome stored,
      rewriteProgram .standard ⟨"index.js"⟩ namedModule ⟨[]⟩ = (output, outcome, stored) ∧
      outcome.router = some "./router" ∧
      ∃ hit o, (Job.ofProgram .standard ⟨"index.js"⟩ namedModule).IsFirstCandidate
          namedModule.callSites hit ∧
        o ∈ hit.unit.occurrences ∧ o.isSlot = false ∧ o.method = some "hot" ∧
        o.ident = hit.app := by
  obtain ⟨factory, call, required, hsites, hfactory, hrole, hpath, hstands⟩ :
      ∃ factory call required, namedModule.callSites = [factory, call, required] ∧
        (Scope.ofProgram namedModule).callRole factory.call = .factory ∧
        (Scope.ofProgram namedModule).callRole call.call = .router ⟨"module", 2⟩ ∧
        (Scope.ofProgram namedModule).modulePath? call.call = some "./router" ∧
        decide call.trail.StandsInStatement = true := ⟨_, _, _, rfl, rfl, rfl, rfl, rfl⟩
  obtain ⟨houtcome, hfirst⟩ := rewriteProgram_behind_factory .standard ⟨"index.js"⟩ namedModule
    ⟨[]⟩ hsites hfactory hrole hpath (of_decide_eq_true hstands) (by decide) (by decide)
    (isReadAs_standard "module")
  have hmodule : ∃ o ∈ ((tree "module" ⟨quoted "./router", quoted "#root", []⟩).adopt
      ⟨"module", 2⟩).occurrences,
      o.isSlot = false ∧ o.method = some "hot" ∧ o.ident = ⟨"module", 2⟩ := by
    decide +kernel
  obtain ⟨o, ho, hslot, hmethod, hident⟩ := hmodule
  have hrun := rewriteProgram_of_isFirstCandidate .standard ⟨"index.js"⟩ namedModule ⟨[]⟩ hfirst
  exact ⟨_, _, _, hrun, rfl, _, o, hfirst, ho, hslot, hmethod, hident⟩

end HotReload
