/-
# What is put into a unit can be read back

The text of a unit is put together from fixed pieces and the texts in its slots,
and then read as a script. Without a quotation mark and a backslash in a slot,
whatever else stands there stays in its literal: reading succeeds exactly if no
line ends in a slot, and then gives the tree of the unit, in which the name of
the application and the texts of all slots stand where they were put. So they can
be read back from the tree, the models as far as they are reloaded
(`statement_reads_back`).

Key definitions: `isAsciiName`, `Tree.invokedStatements`, `HotUnit.ofTree?`,
`HotUnit.ReadsBack`.
Key theorems: `HotUnit.isVariableName_of_isAsciiName`, `HotUnit.carries_tree`,
`HotUnit.required_tree`, `HotUnit.invokedStatements_tree`,
`Carries.ofTree?_eq`, `HotUnit.statement_reads_back`.
-/
import HotReload.Proofs.HotUnit.Carries
import HotReload.Proofs.HotUnit.Text

namespace HotReload

open Script

/-! ### Names -/

/-- Whether the text is a name of ASCII letters and digits, dollar signs and
underscores that does not begin with a digit. -/
def isAsciiName (name : String) : Bool :=
  name.toList.head?.any (fun c => c.isAlpha || c == '$' || c == '_') &&
    name.toList.all fun c => c.isAlphanum || c == '$' || c == '_'

/-- A name in ASCII that is no word of the grammar is the name of a variable. -/
theorem isVariableName_of_isAsciiName {name : String} (h : isAsciiName name = true)
    (hword : Word.ofText? name = none) : isVariableName name = true := by
  unfold isAsciiName at h
  rw [Bool.and_eq_true, Option.any_eq_true, List.all_eq_true] at h
  obtain ⟨⟨first, hfirst, hstart⟩, hparts⟩ := h
  have hhead : name.toList.head?.any isNameStart = true := by
    rw [hfirst]
    unfold isNameStart
    exact Bool.or_eq_true _ _ |>.mpr (Or.inl hstart)
  have hall : name.toList.all isNamePart = true := by
    rw [List.all_eq_true]
    intro c hc
    unfold isNamePart
    exact Bool.or_eq_true _ _ |>.mpr (Or.inl (hparts c hc))
  unfold isVariableName
  rw [hhead, hall, hword]
  rfl

/-! ### Slots in which a line ends -/

/-- Where no quotation mark and no backslash stands, everything stands for itself exactly
if no line ends. -/
theorem HotUnit.isPlain_iff {s : String} (h : IsUnescaped s) :
    IsPlain s ↔ '\n' ∉ s.toList ∧ '\r' ∉ s.toList := by
  have hunescaped := List.all_eq_true.mp h
  unfold IsPlain
  rw [List.all_eq_true]
  constructor
  · intro hplain
    constructor
    · intro hmem
      have hfeed := hplain _ hmem
      cases hfeed
    · intro hmem
      have hreturn := hplain _ hmem
      cases hreturn
  · rintro ⟨hfeed, hreturn⟩ c hc
    have hne : c ≠ '\n' := fun heq => hfeed (heq ▸ hc)
    have hne' : c ≠ '\r' := fun heq => hreturn (heq ▸ hc)
    simp only [isPlain, hunescaped c hc, hne, hne', Bool.true_and, Bool.and_eq_true, bne_iff_ne,
      ne_eq, not_false_eq_true, and_self]

/-! ### What is read back -/

/-- The statements of a function that is called at once. -/
def Tree.invokedStatements (t : Tree Node) : List (Tree Node) :=
  t.invokedBody?.elim [] fun body => body.children.children .statements

/-- The unit that the tree names: its application and router from the registration of
the router, the container from the element that is looked for, and the models from
the modules, behind that of the router, whose replacements are accepted. -/
def HotUnit.ofTree? (t : Tree Node) : Option HotUnit :=
  match t.registered routerMethod, t.selected, t.accepted with
  | [(some app, some router)], [some container], _ :: models =>
    some ⟨app.name, router, container, models.filterMap id, true⟩
  | _, _, _ => none

/-- What a tree carries can be read back from it. -/
theorem Carries.ofTree?_eq {app : Ident} {router container : String} {models : List String}
    {t : Tree Node} (h : Carries app router container models t) :
    HotUnit.ofTree? t = some ⟨app.name, router, container, models, true⟩ := by
  have hmodels : (models.map some).filterMap id = models := by
    rw [List.filterMap_map]
    exact List.filterMap_some
  unfold HotUnit.ofTree?
  rw [h.registered, h.selected, h.accepted, List.map_cons]
  dsimp only
  rw [hmodels]

/-! ### The modules that a tree requires -/

namespace Tree

@[simp] theorem isObserver_requiredModule? : IsObserver requiredModule? where
  fill _ _ := rfl
  quiet t hcall _ := by
    have hroot : t.root.isCall ≠ true := by simpa [Node.isCall, label] using hcall
    have hcalled : t.calledIdent? = none := if_neg hroot
    unfold requiredModule? isRequire
    rw [hcalled]
    rfl

@[simp] theorem requiredModule?_requireNode (l : Literal) :
    requiredModule? (invocationNode (identifierNode "require") [literalNode l]) =
      some l.value := rfl

@[simp] theorem requiredModule?_property (object : Tree Node) (name : String)
    (arguments : List (Tree Node)) :
    requiredModule? (invocationNode (propertyNode object name) arguments) = none := rfl

@[simp] theorem requiredModule?_assignment (operator : String) (left right : Tree Node) :
    requiredModule? (assignmentNode operator left right) = none := rfl

/-- A call of any other plain name requires nothing. -/
theorem requiredModule?_application {name : String} (h : name ≠ "require")
    (arguments : List (Tree Node)) :
    requiredModule? (invocationNode (identifierNode name) arguments) = none := by
  have hcalled : (invocationNode (identifierNode name) arguments).calledIdent? =
      some ⟨name, 0⟩ := rfl
  have hrequire : (invocationNode (identifierNode name) arguments).isRequire = false := by
    unfold isRequire
    rw [hcalled]
    simpa [requireName] using h
  unfold requiredModule?
  rw [hrequire]
  rfl

end Tree

namespace HotUnit

open HotReload.Tree

variable (app : String) (router container model : Literal) (literals : Literals)

theorem required_use : (usePhrase app router container).2.collect requiredModule? =
    ["redbox-react", router.value] := by
  have hnormally : ("renderNormally" : String) ≠ "require" := by decide
  have hexception : ("renderException" : String) ≠ "require" := by decide
  have hnew : ("newRender" : String) ≠ "require" := by decide
  simp [usePhrase, methodNode]
  simp [optionsNode, hotRouterPhrase, ifHotPhrase, acceptPhrase, statementsOf, moduleHot,
    renderExceptionNode, redBoxNode, newRenderNode, acceptNode, requireNode, applicationNode,
    requiredModule?_application hnormally, requiredModule?_application hexception,
    requiredModule?_application hnew, quoted]

theorem required_model : (modelPhrase app model).2.collect requiredModule? =
    [model.value, model.value] := by
  simp [modelPhrase, ifHotPhrase, acceptPhrase, reportingPhrase, requiringPhrase, unmodelPhrase,
    statementsOf, moduleHot, rememberNode, acceptNode, reportingNode, methodNode, namespaceNode,
    requireNode, applicationNode]

/-- The modules that a unit requires: that of the router when it is registered and when
it is replaced, the one that shows errors, and that of every model when its namespace is
remembered and when it is registered anew. -/
theorem required_tree : (tree app literals).collect requiredModule? =
    literals.router.value :: "redbox-react" :: literals.router.value ::
      literals.models.flatMap fun model => [model.value, model.value] := by
  have hlog : logNode.collect requiredModule? = [] := by
    simp [logNode]
  have hrouter : (methodNode app "router" (requireNode literals.router)).collect
      requiredModule? = [literals.router.value] := by
    simp [methodNode, requireNode, applicationNode]
  have hmodels : (statementsOf (literals.models.map (modelPhrase app))).flatMap
      (collect requiredModule?) =
        literals.models.flatMap fun model => [model.value, model.value] := by
    simp [statementsOf, List.flatMap_map, required_model]
  have hstatements : (statementsOf (phrases app literals)).flatMap (collect requiredModule?) =
      logNode.collect requiredModule? ++
        ((methodNode app "router" (requireNode literals.router)).collect requiredModule? ++
          ((usePhrase app literals.router literals.container).2.collect requiredModule? ++
            (statementsOf (literals.models.map (modelPhrase app))).flatMap
              (collect requiredModule?))) := rfl
  rw [collect_tree app isObserver_requiredModule? (fun _ => rfl), hstatements, hlog, hrouter,
    required_use, hmodels]
  rfl

/-- The calls of the methods of the application are calls on it. -/
theorem receivers_tree : ∀ c ∈ (tree app literals).methodCalls, c.method ∈ applicationMethods →
    c.object.ident? = some ⟨app, 0⟩ := by
  have hlog : ∀ c ∈ logNode.methodCalls, c.method ∈ applicationMethods →
      c.object.ident? = some ⟨app, 0⟩ := by
    simp [methodCalls_log, applicationMethods, routerMethod, modelMethod]
  have hrouter : ∀ c ∈ (methodNode app "router" (requireNode literals.router)).methodCalls,
      c.method ∈ applicationMethods → c.object.ident? = some ⟨app, 0⟩ := by
    simp [methodCalls_requiring]
  have huse : ∀ c ∈ (usePhrase app literals.router literals.container).2.methodCalls,
      c.method ∈ applicationMethods → c.object.ident? = some ⟨app, 0⟩ := by
    simp [methodCalls_use, applicationMethods, routerMethod, modelMethod]
  have hmodel : ∀ model, ∀ c ∈ (modelPhrase app model).2.methodCalls,
      c.method ∈ applicationMethods → c.object.ident? = some ⟨app, 0⟩ := by
    simp [methodCalls_model, applicationMethods, routerMethod, modelMethod]
  intro c hc
  rw [methodCalls_tree] at hc
  obtain ⟨statement, hstatement, hc⟩ := List.mem_flatMap.mp hc
  obtain ⟨phrase, hphrase, rfl⟩ := List.mem_map.mp hstatement
  rcases List.mem_cons.mp hphrase with rfl | hphrase
  · exact hlog c hc
  rcases List.mem_cons.mp hphrase with rfl | hphrase
  · exact hrouter c hc
  rcases List.mem_cons.mp hphrase with rfl | hphrase
  · exact huse c hc
  · obtain ⟨model, -, rfl⟩ := List.mem_map.mp hphrase
    exact hmodel model c hc

/-- The statements of a unit are the greeting, the registrations of the router and of its
reloading, and the blocks of the models. -/
theorem invokedStatements_tree : (tree app literals).invokedStatements =
    logNode.fill .statements ::
      (methodNode app "router" (requireNode literals.router)).fill .statements ::
      (usePhrase app literals.router literals.container).2.fill .statements ::
      (tree app literals).invokedBlocks := by
  have hbody : (tree app literals).invokedBody? =
      some ((blockNode (statementsOf (phrases app literals))).fill .body) := rfl
  have hstatements : childrenOf (statementsOf (phrases app literals)) .statements =
      logNode.fill .statements ::
        (methodNode app "router" (requireNode literals.router)).fill .statements ::
        (usePhrase app literals.router literals.container).2.fill .statements ::
        childrenOf (statementsOf (literals.models.map (modelPhrase app))) .statements := rfl
  unfold invokedStatements
  rw [hbody, invokedBlocks_tree]
  show (Forest.ofList (childrenOf (statementsOf (phrases app literals)) .statements)).children
    .statements = _
  rw [children_ofList, hstatements, childrenOf, statementsOf, List.map_map, List.map_map]
  rfl

/-- The tree is the self-invoking function of the template with the name of the
application and the texts of the slots in their places. -/
structure ReadsBack (u : HotUnit) (t : Tree Node) : Prop where
  /-- The tree is that of the template. -/
  tree : t = HotUnit.tree u.app u.literals
  /-- Its statements are three for the router, of which the third uses the options, and
  one condition for each model. -/
  statements : ∃ greeting registration options,
    t.invokedStatements = greeting :: registration :: options :: t.invokedBlocks ∧
    registration.registered routerMethod = [(some ⟨u.app, 0⟩, some u.router)] ∧
    (options.callsTo "use").map (·.object.ident?) = [some ⟨u.app, 0⟩]
  /-- The router, the container and the models are where they were put. -/
  carries : Carries ⟨u.app, 0⟩ u.router u.container u.reloaded t
  /-- The application is what its methods are called on. -/
  receivers : ∀ c ∈ t.methodCalls, c.method ∈ applicationMethods →
    c.object.ident? = some ⟨u.app, 0⟩
  /-- The modules that are required are those of the slots. -/
  required : t.collect requiredModule? =
    u.router :: "redbox-react" :: u.router :: u.reloaded.flatMap fun model => [model, model]
  /-- The slots can be read off the tree. -/
  ofTree?_eq : ofTree? t = some ⟨u.app, u.router, u.container, u.reloaded, true⟩

/-- The tree of a unit reads back as the unit. -/
theorem readsBack_tree (u : HotUnit) : ReadsBack u (HotUnit.tree u.app u.literals) := by
  have hvalues := values_literals u
  have hcarries : Carries ⟨u.app, 0⟩ u.router u.container u.reloaded
      (HotUnit.tree u.app u.literals) := by
    rw [← hvalues]
    exact carries_tree u.app u.literals
  exact {
    tree := rfl
    statements := by
      refine ⟨_, _, _, invokedStatements_tree u.app u.literals, ?_, ?_⟩
      · unfold registered callsTo
        rw [methodCalls_fill, methodCalls_requiring]
        rfl
      · unfold callsTo
        rw [methodCalls_fill, methodCalls_use]
        simp
    carries := hcarries
    receivers := receivers_tree u.app u.literals
    required := by
      rw [required_tree, ← hvalues, List.flatMap_map]
      rfl
    ofTree?_eq := hcarries.ofTree?_eq }

/-- **What is put into a unit can be read back.** The name of the application is a name
in ASCII and no word of the grammar, and no slot holds a quotation mark or a backslash.
Then the text of the unit is a script exactly if no line ends in a slot; and if it is
one, it is the tree of the template, with the name of the application and the texts of
the slots in their places. -/
theorem statement_reads_back (u : HotUnit) (happ : isAsciiName u.app = true)
    (hword : Word.ofText? u.app = none) (h : ∀ s ∈ u.slots, IsUnescaped s) :
    ((∃ t, u.statement = .ok t) ↔ ∀ s ∈ u.slots, '\n' ∉ s.toList ∧ '\r' ∉ s.toList) ∧
    ∀ t, u.statement = .ok t → ReadsBack u t := by
  have hname := isVariableName_of_isAsciiName happ hword
  have hawait : u.app ≠ "await" := by
    intro heq
    rw [heq] at hword
    cases hword
  have hplain : (∀ s ∈ u.slots, IsPlain s) ↔
      ∀ s ∈ u.slots, '\n' ∉ s.toList ∧ '\r' ∉ s.toList :=
    forall₂_congr fun s hs => isPlain_iff (h s hs)
  rw [← hplain]
  by_cases hall : ∀ s ∈ u.slots, IsPlain s
  · have hread : u.statement = .ok (HotUnit.tree u.app u.literals) :=
      statement_of_isReadAs (isReadAs_literals hall) hname hawait
    refine ⟨⟨fun _ => hall, fun _ => ⟨_, hread⟩⟩, fun t ht => ?_⟩
    rw [hread] at ht
    cases ht
    exact readsBack_tree u
  · have hread := statement_of_unescaped hname hawait h hall
    refine ⟨⟨fun ⟨t, ht⟩ => ?_, fun hall' => absurd hall' hall⟩, fun t ht => ?_⟩
    · rw [hread] at ht
      cases ht
    · rw [hread] at ht
      cases ht

/-- A unit with two models and with a quotation mark of the other kind, a comment and a
brace in its container. -/
def twoModels : HotUnit := ⟨"app", "./router", "#root \x22 // \x7b", ["./a", "./b"], true⟩

/-- It is read back. -/
theorem twoModels_reads_back :
    isAsciiName twoModels.app = true ∧ Word.ofText? twoModels.app = none ∧
    (∀ s ∈ twoModels.slots, IsUnescaped s) ∧
    ∃ t, twoModels.statement = .ok t ∧ ReadsBack twoModels t ∧ ofTree? t = some twoModels := by
  have happ : isAsciiName twoModels.app = true := by decide
  have hword : Word.ofText? twoModels.app = none := by decide
  have hslots : ∀ s ∈ twoModels.slots, IsUnescaped s := by decide
  have hlines : ∀ s ∈ twoModels.slots, '\n' ∉ s.toList ∧ '\r' ∉ s.toList := by decide
  obtain ⟨hiff, hreads⟩ := statement_reads_back twoModels happ hword hslots
  obtain ⟨t, ht⟩ := hiff.mpr hlines
  exact ⟨happ, hword, hslots, t, ht, hreads t ht, (hreads t ht).ofTree?_eq⟩

end HotUnit

end HotReload
