/-
# Which calls are recognized

Recognition goes by the last introduction of a name. The names of a program are
introduced, in visit order, by its declarators and by the specifiers of its
imports. A name comes from the framework package if its last introduction is by
an import of the package or by a declarator that requires it; it is an
application if its last introduction is by a declarator that calls, directly, a
name which comes from the package. A call registers a router or a model exactly if it is written
as the method of an application (`recognition_is_single_level`): what is
wrapped, spread, computed or passed on by a second assignment is not recognized,
and of several introductions of one name only the last counts. A program in
which no name comes from the package is left as it is.

A visit for the names does not go into an import. What is introduced there, in the
value of an attribute, does not count, and a call that relies on it is not
recognized (`attribute_registration_not_recognized`). Where nothing is introduced
inside an import, all declarators and specifiers of the program count.

Key definitions: `Introduction`, `Introductions`, `Forest.introductions`,
`Tree.allIntroductions`, `Tree.NothingInImports`, `Introductions.Last`,
`Tree.Calls`, `Tree.Requires`, `Introductions.FromFramework`,
`Introductions.IsApplication`, `Tree.RegistersOn`, `Tree.RecognizedBy`.
Key theorems: `Forest.definitions_eq_map_introductions`,
`Tree.allIntroductions_eq`, `Scope.get?_eq_some_iff`,
`Scope.isApplication_iff`, `Scope.callRole_eq_router_iff`,
`recognition_is_single_level`, `attribute_registration_not_recognized`.
-/
import HotReload.Proofs.Programs
import HotReload.Proofs.Tree.Syntax

namespace HotReload

/-! ### Introductions of names -/

/-- How a name is introduced. -/
inductive Introduction where
  /-- By a declarator, with its initializer if it has one. -/
  | declarator (initializer : Option (Tree Node))
  /-- By a specifier of an import from the module `source`. -/
  | specifier (source : String)

/-- What the introduction says about the value of its name. -/
def Introduction.definition : Introduction → Definition
  | declarator none => .other
  | declarator (some initializer) => .ofInitializer initializer
  | specifier source => .imported source

/-- Names and how they are introduced, in order. -/
abbrev Introductions : Type := List (Ident × Introduction)

namespace Tree

/-- The names that a node introduces itself: a declarator the one that it has for
its pattern, an import the local names of its specifiers. -/
def introductions (t : Tree Node) : Introductions :=
  match t.label with
  | .declarator =>
    ((t.child? .pattern).bind ident?).toList.map (·, .declarator (t.child? .initializer))
  | .importDeclaration _ =>
    ((t.child? .source).bind stringValue?).toList.flatMap fun source =>
      (t.children.children .specifiers).filterMap fun specifier =>
        ((specifier.child? .localName).bind ident?).map (·, .specifier source)
  | _ => []

end Tree

/-- The trees of a forest in visit order, at any depth, but nothing of what is
inside an import. -/
def Forest.outsideImports : Forest Node → List (Tree Node)
  | .nil => []
  | .cons n kids rest =>
    ⟨n, kids⟩ ::
      ((match n.label with
        | .importDeclaration _ => []
        | _ => outsideImports kids) ++
      outsideImports rest)

/-- The names that a forest introduces outside of imports, in visit order. -/
def Forest.introductions (f : Forest Node) : Introductions :=
  f.outsideImports.flatMap Tree.introductions

/-- The names that a program introduces, in visit order, those that are introduced
inside an import among them. -/
def Tree.allIntroductions (program : Tree Node) : Introductions :=
  program.preorder.flatMap introductions

/-- Whether a node of this kind is an import. -/
def Label.isImport : Label → Bool
  | importDeclaration _ => true
  | _ => false

/-- No node inside an import of the program introduces a name. -/
def Tree.NothingInImports (program : Tree Node) : Prop :=
  ∀ t ∈ program.preorder, t.label.isImport = true →
    ∀ inner ∈ t.children.preorder, inner.introductions = []

instance (program : Tree Node) : Decidable program.NothingInImports :=
  inferInstanceAs (Decidable (∀ t ∈ program.preorder, t.label.isImport = true →
    ∀ inner ∈ t.children.preorder, inner.introductions = []))

/-- What a node defines is what it introduces. -/
theorem Forest.ownDefinitions_eq (n : Node) (kids : Forest Node) :
    Forest.ownDefinitions n.label kids =
      (Tree.introductions ⟨n, kids⟩).map fun e => (e.1, e.2.definition) := by
  obtain ⟨field, label, context, span⟩ := n
  cases label with
  | declarator =>
    unfold ownDefinitions declaratorDefinition? Tree.introductions
    simp only [Tree.label, Tree.child?]
    cases (kids.child? .pattern).bind Tree.ident? with
    | none => rfl
    | some id => cases kids.child? .initializer <;> rfl
  | importDeclaration phase =>
    unfold ownDefinitions importDefinitions Tree.introductions
    simp only [Tree.label, Tree.child?]
    cases (kids.child? .source).bind Tree.stringValue? with
    | none => rfl
    | some source =>
      simp only [Option.toList_some, List.flatMap_cons, List.flatMap_nil, List.append_nil,
        List.map_filterMap, Option.map_map, Function.comp_def]
      rfl
  | _ => rfl

/-- The definitions of a program are its introductions, each with what it says. -/
theorem Forest.definitions_eq_map_introductions (f : Forest Node) :
    f.definitions = f.introductions.map fun e => (e.1, e.2.definition) := by
  induction f with
  | nil => rfl
  | cons n kids rest ihk ihr =>
    rw [definitions, ownDefinitions_eq, ihr]
    simp only [introductions, outsideImports, List.flatMap_cons, List.flatMap_append,
      List.map_append, List.append_assoc]
    cases hlabel : n.label with
    | importDeclaration phase => rfl
    | _ => rw [ihk, introductions]

/-- Where nothing inside an import introduces a name, as in every program that is
written as a text, all nodes count. -/
theorem Forest.introductions_eq_flatMap_preorder {f : Forest Node}
    (h : ∀ t ∈ f.preorder, t.label.isImport = true →
      ∀ inner ∈ t.children.preorder, inner.introductions = []) :
    f.introductions = f.preorder.flatMap Tree.introductions := by
  induction f with
  | nil => rfl
  | cons n kids rest ihk ihr =>
    have hkids := ihk fun t ht => h t (by simp [preorder, ht])
    have hrest := ihr fun t ht => h t (by simp [preorder, ht])
    have hroot := h ⟨n, kids⟩ (by simp [preorder])
    simp only [introductions] at hkids hrest
    simp only [introductions, outsideImports, preorder, List.flatMap_cons, List.flatMap_append,
      hrest]
    cases hlabel : n.label with
    | importDeclaration phase =>
      have himport : (Tree.label ⟨n, kids⟩).isImport = true := congrArg Label.isImport hlabel
      rw [List.flatMap_eq_nil_iff.mpr (hroot himport), List.flatMap_nil]
    | _ => rw [hkids]

theorem Tree.allIntroductions_eq {program : Tree Node} (h : program.NothingInImports) :
    program.toForest.introductions = program.allIntroductions := by
  rw [allIntroductions, ← preorder_toForest]
  apply Forest.introductions_eq_flatMap_preorder
  rw [preorder_toForest]
  exact h

/-- The last introduction of the identifier `id` is `i`. -/
def Introductions.Last (known : Introductions) (id : Ident) (i : Introduction) : Prop :=
  ∃ before after, known = before ++ (id, i) :: after ∧ ∀ later ∈ after, later.1 ≠ id

/-! ### What makes an application -/

namespace Tree

/-- The tree is a call, and what it calls is directly the identifier `f`. -/
def Calls (t : Tree Node) (f : Ident) : Prop :=
  t.label = .call ∧ ∃ callee, t.child? .callee = some callee ∧ callee.ident? = some f

/-- The tree is a call of a plain identifier named `require`, and its first
argument is the string literal `source` and is not spread. -/
def Requires (t : Tree Node) (source : String) : Prop :=
  (∃ context, t.Calls ⟨requireName, context⟩) ∧
    ∃ argument value raw, t.child? .arguments = some argument ∧ argument.label = .argument none ∧
      argument.child? .expression = some value ∧ value.label = .string source raw

/-- What the tree calls is directly a member of the identifier `x`, and its
property is the plain name `method`. -/
def RegistersOn (call : Tree Node) (method : String) (x : Ident) : Prop :=
  ∃ member object property, call.child? .callee = some member ∧ member.label = .member ∧
    member.child? .object = some object ∧ object.ident? = some x ∧
    member.child? .property = some property ∧ property.label = .propertyName method

end Tree

namespace Introductions

variable (known : Introductions)

/-- The last introduction of the identifier is by an import from the framework
package, or by a declarator whose initializer requires the package. -/
inductive FromFramework (f : Ident) : Prop where
  | imported (h : known.Last f (.specifier frameworkPackage))
  | required (initializer : Tree Node) (h : known.Last f (.declarator (some initializer)))
      (hrequires : initializer.Requires frameworkPackage)

/-- The last introduction of the identifier is by a declarator whose initializer
calls a name, other than `require`, that comes from the framework package. -/
def IsApplication (x : Ident) : Prop :=
  ∃ initializer f, known.Last x (.declarator (some initializer)) ∧
    initializer.Calls f ∧ f.name ≠ requireName ∧ known.FromFramework f

end Introductions

/-! ### The observers of calls -/

namespace Tree

variable {t : Tree Node} {f : Ident} {source : String}

theorem calledIdent?_eq_some_iff : t.calledIdent? = some f ↔ t.Calls f := by
  have hcall : t.root.isCall = true ↔ t.label = .call := beq_iff_eq
  unfold calledIdent? Calls
  rw [← hcall, ← Option.bind_eq_some_iff]
  by_cases h : t.root.isCall = true
  · rw [if_pos h]
    exact ⟨fun hcallee => ⟨h, hcallee⟩, fun hcallee => hcallee.2⟩
  · rw [if_neg h]
    exact ⟨by simp, fun hcallee => absurd hcallee.1 h⟩

theorem isRequire_iff : t.isRequire = true ↔ ∃ context, t.Calls ⟨requireName, context⟩ := by
  unfold isRequire
  rw [Option.any_eq_true]
  constructor
  · rintro ⟨⟨name, context⟩, hcalled, hname⟩
    obtain rfl : name = requireName := by simpa using hname
    exact ⟨context, calledIdent?_eq_some_iff.mp hcalled⟩
  · rintro ⟨context, hcalls⟩
    exact ⟨_, calledIdent?_eq_some_iff.mpr hcalls, by simp⟩

/-- A call that calls a name calls no other name. -/
theorem Calls.unique {g : Ident} (h : t.Calls f) (h' : t.Calls g) : f = g :=
  Option.some.inj ((calledIdent?_eq_some_iff.mpr h).symm.trans (calledIdent?_eq_some_iff.mpr h'))

theorem plainArgument?_eq_some_iff {value : Tree Node} : t.plainArgument? = some value ↔
    t.label = .argument none ∧ t.child? .expression = some value := by
  unfold plainArgument?
  split
  · rename_i hlabel
    exact ⟨fun h => ⟨hlabel, h⟩, fun h => h.2⟩
  · rename_i hlabel
    exact ⟨by simp, fun h => absurd h.1 hlabel⟩

theorem stringValue?_eq_some_iff : t.stringValue? = some source ↔
    ∃ raw, t.label = .string source raw := by
  unfold stringValue?
  split
  · rename_i value raw hlabel
    rw [hlabel]
    simp
  · rename_i hlabel
    exact ⟨by simp, fun ⟨raw, h⟩ => absurd h (hlabel source raw)⟩

theorem requiredModule?_eq_some_iff : t.requiredModule? = some source ↔ t.Requires source := by
  unfold requiredModule? Requires
  rw [← isRequire_iff]
  by_cases h : t.isRequire = true
  · rw [if_pos h, Option.bind_eq_some_iff]
    constructor
    · rintro ⟨value, hvalue, hsource⟩
      obtain ⟨argument, hargument, hplain⟩ := Option.bind_eq_some_iff.mp hvalue
      obtain ⟨hlabel, hexpression⟩ := plainArgument?_eq_some_iff.mp hplain
      obtain ⟨raw, hraw⟩ := stringValue?_eq_some_iff.mp hsource
      exact ⟨h, argument, value, raw, hargument, hlabel, hexpression, hraw⟩
    · rintro ⟨-, argument, value, raw, hargument, hlabel, hexpression, hraw⟩
      have hplain := plainArgument?_eq_some_iff.mpr ⟨hlabel, hexpression⟩
      have hvalue := Option.bind_eq_some_iff.mpr ⟨argument, hargument, hplain⟩
      exact ⟨value, hvalue, stringValue?_eq_some_iff.mpr ⟨raw, hraw⟩⟩
  · rw [if_neg h]
    exact ⟨by simp, fun hrequires => absurd hrequires.1 h⟩

end Tree

namespace Definition

variable {initializer : Tree Node}

/-- An initializer is taken for the call of a factory exactly if it calls a name
other than `require`. -/
theorem ofInitializer_eq_called_iff {f : Ident} :
    ofInitializer initializer = .called f ↔ initializer.Calls f ∧ f.name ≠ requireName := by
  unfold ofInitializer
  by_cases h : initializer.isRequire = true
  · rw [if_pos h]
    obtain ⟨context, hrequire⟩ := Tree.isRequire_iff.mp h
    constructor
    · intro hcalled
      split at hcalled <;> cases hcalled
    · rintro ⟨hcalls, hname⟩
      exact absurd (by rw [hcalls.unique hrequire]) hname
  · rw [if_neg h, ← Tree.calledIdent?_eq_some_iff]
    constructor
    · intro hcalled
      split at hcalled
      · rename_i callee hcallee
        obtain rfl : callee = f := by simpa using hcalled
        refine ⟨hcallee, fun hname => h (Tree.isRequire_iff.mpr ⟨callee.context, ?_⟩)⟩
        rw [← hname]
        exact Tree.calledIdent?_eq_some_iff.mp hcallee
      · cases hcalled
    · rintro ⟨hcallee, -⟩
      rw [hcallee]

/-- An initializer comes from a module exactly if it requires it. -/
theorem module?_ofInitializer_eq_some_iff {source : String} :
    (ofInitializer initializer).module? = some source ↔ initializer.Requires source := by
  rw [← Tree.requiredModule?_eq_some_iff]
  unfold ofInitializer
  by_cases h : initializer.isRequire = true
  · rw [if_pos h]
    cases initializer.requiredModule? with
    | none => simp [module?]
    | some source' => simp [module?]
  · rw [if_neg h, Tree.requiredModule?, if_neg h]
    cases initializer.calledIdent? with
    | none => simp [module?]
    | some callee => simp [module?]

end Definition

/-! ### What the scope of a program says -/

namespace Scope

variable {program : Tree Node}

/-- The scope of a program has for a name what its last introduction outside of imports
says. -/
theorem get?_eq_some_iff {id : Ident} {d : Definition} :
    (ofProgram program).get? id = some d ↔
      ∃ i, program.toForest.introductions.Last id i ∧ i.definition = d := by
  unfold get? ofProgram
  rw [Forest.definitions_eq_map_introductions, ← List.map_reverse, List.find?_map, Option.map_map,
    Option.map_eq_some_iff]
  constructor
  · rintro ⟨⟨id', i⟩, hfind, hd⟩
    obtain ⟨hid, after, before, hsplit, hlater⟩ := List.find?_eq_some_iff_append.mp hfind
    obtain rfl : id' = id := by simpa using hid
    refine ⟨i, ⟨before.reverse, after.reverse, ?_, ?_⟩, hd⟩
    · rw [← List.reverse_reverse program.toForest.introductions, hsplit]
      simp
    · intro later hmem
      simpa using hlater later (List.mem_reverse.mp hmem)
  · rintro ⟨i, ⟨before, after, hsplit, hlater⟩, hd⟩
    refine ⟨(id, i), List.find?_eq_some_iff_append.mpr ⟨by simp, after.reverse, before.reverse,
      ?_, ?_⟩, hd⟩
    · rw [hsplit]
      simp
    · intro later hmem
      simpa using hlater later (List.mem_reverse.mp hmem)

theorem isFactory_iff {f : Ident} :
    (ofProgram program).isFactory f = true ↔ program.toForest.introductions.FromFramework f := by
  unfold isFactory module?
  rw [beq_iff_eq, Option.bind_eq_some_iff]
  constructor
  · rintro ⟨d, hget, hmodule⟩
    obtain ⟨i, hlast, rfl⟩ := get?_eq_some_iff.mp hget
    cases i with
    | declarator initializer =>
      cases initializer with
      | none => cases hmodule
      | some initializer =>
        exact .required initializer hlast (Definition.module?_ofInitializer_eq_some_iff.mp hmodule)
    | specifier source =>
      obtain rfl : source = frameworkPackage := Option.some.inj hmodule
      exact .imported hlast
  · intro h
    cases h with
    | imported hlast => exact ⟨_, get?_eq_some_iff.mpr ⟨_, hlast, rfl⟩, rfl⟩
    | required initializer hlast hrequires =>
      exact ⟨_, get?_eq_some_iff.mpr ⟨_, hlast, rfl⟩,
        Definition.module?_ofInitializer_eq_some_iff.mpr hrequires⟩

/-- A name is an application if it is defined as a call of a factory. -/
theorem isApplication_eq_true_iff {s : Scope} {x : Ident} : s.isApplication x = true ↔
    ∃ f, s.get? x = some (.called f) ∧ s.isFactory f = true := by
  unfold isApplication
  split
  · rename_i callee hget
    rw [hget]
    simp
  · rename_i hget
    exact ⟨by simp, fun ⟨f, hf, _⟩ => absurd hf (hget f)⟩

theorem isApplication_iff {x : Ident} :
    (ofProgram program).isApplication x = true ↔
      program.toForest.introductions.IsApplication x := by
  rw [isApplication_eq_true_iff]
  constructor
  · rintro ⟨f, hget, hfactory⟩
    obtain ⟨i, hlast, hdefinition⟩ := get?_eq_some_iff.mp hget
    cases i with
    | declarator initializer =>
      cases initializer with
      | none => cases hdefinition
      | some initializer =>
        obtain ⟨hcalls, hname⟩ := Definition.ofInitializer_eq_called_iff.mp hdefinition
        exact ⟨initializer, f, hlast, hcalls, hname, isFactory_iff.mp hfactory⟩
    | specifier source => cases hdefinition
  · rintro ⟨initializer, f, hlast, hcalls, hname, hfactory⟩
    have hdefinition := Definition.ofInitializer_eq_called_iff.mpr ⟨hcalls, hname⟩
    exact ⟨f, get?_eq_some_iff.mpr ⟨_, hlast, hdefinition⟩, isFactory_iff.mpr hfactory⟩

/-! ### Roles of calls -/

/-- The role that the method of an application has. -/
theorem callRole_of_registersOn {s : Scope} {call : Tree Node} {method : String} {x : Ident}
    (h : call.RegistersOn method x) (hx : s.isApplication x = true) : s.callRole call =
      if method == routerMethod then .router x
      else if method == modelMethod then .model x
      else .other := by
  obtain ⟨member, object, property, hcallee, hmember, hobject, hident, hproperty, hmethod⟩ := h
  have happ : (member.child? .object).bind Tree.ident? = some x := by
    rw [hobject]
    exact hident
  have hname : (member.child? .property).map Tree.label = some (.propertyName method) := by
    rw [hproperty]
    exact congrArg some hmethod
  simp only [callRole, hcallee, hmember, memberRole, happ, hname, if_pos hx]

/-- A call that registers anything is the method of an application. -/
theorem exists_registersOn {s : Scope} {call : Tree Node} {x : Ident}
    (h : s.callRole call = .router x ∨ s.callRole call = .model x) :
    s.isApplication x = true ∧ ∃ method, call.RegistersOn method x := by
  unfold callRole at h
  split at h
  · rename_i member hcallee
    split at h
    · -- what is called is a plain identifier
      split at h <;> simp at h
    · rename_i hmember
      unfold memberRole at h
      split at h
      · rename_i app method happ hmethod
        obtain ⟨object, hobject, hident⟩ := Option.bind_eq_some_iff.mp happ
        obtain ⟨property, hproperty, hname⟩ := Option.map_eq_some_iff.mp hmethod
        by_cases hx : s.isApplication app = true
        · obtain rfl : app = x := by
            rw [if_pos hx] at h
            split at h
            · simpa using h
            · split at h
              · simpa using h
              · simp at h
          exact ⟨hx, method, member, object, property, hcallee, hmember, hobject, hident,
            hproperty, hname⟩
        · rw [if_neg hx] at h
          simp at h
      · simp at h
    · simp at h
  · simp at h

/-- A call registers a router exactly if it is the method `router` of an
application. -/
theorem callRole_eq_router_iff {s : Scope} {call : Tree Node} {x : Ident} :
    s.callRole call = .router x ↔
      call.RegistersOn routerMethod x ∧ s.isApplication x = true := by
  constructor
  · intro h
    obtain ⟨hx, method, hregisters⟩ := exists_registersOn (Or.inl h)
    obtain rfl : method = routerMethod := by
      rw [callRole_of_registersOn hregisters hx] at h
      split at h
      · rename_i hmethod
        exact beq_iff_eq.mp hmethod
      · split at h <;> cases h
    exact ⟨hregisters, hx⟩
  · rintro ⟨hregisters, hx⟩
    exact callRole_of_registersOn hregisters hx

/-- A call registers a model exactly if it is the method `model` of an
application. -/
theorem callRole_eq_model_iff {s : Scope} {call : Tree Node} {x : Ident} :
    s.callRole call = .model x ↔
      call.RegistersOn modelMethod x ∧ s.isApplication x = true := by
  constructor
  · intro h
    obtain ⟨hx, method, hregisters⟩ := exists_registersOn (Or.inr h)
    obtain rfl : method = modelMethod := by
      rw [callRole_of_registersOn hregisters hx] at h
      split at h
      · cases h
      · split at h
        · rename_i hmethod
          exact beq_iff_eq.mp hmethod
        · cases h
    exact ⟨hregisters, hx⟩
  · rintro ⟨hregisters, hx⟩
    exact callRole_of_registersOn hregisters hx

end Scope

/-! ### Programs without the framework -/

namespace Job

/-- Where no name is an application, no call registers or fails. -/
theorem search_of_noApplication (job : Job) (h : ∀ x, job.scope.isApplication x = false)
    (before sites : List Site) :
    job.NoCandidate before sites ∧ job.modelsOf sites = [] ∧ job.failuresOf before sites = [] := by
  have hrouter : ∀ call x, job.scope.callRole call ≠ .router x := by
    intro call x hrole
    have hx := (Scope.callRole_eq_router_iff.mp hrole).2
    rw [h x] at hx
    cases hx
  have hmodel : ∀ call x, job.scope.callRole call ≠ .model x := by
    intro call x hrole
    have hx := (Scope.callRole_eq_model_iff.mp hrole).2
    rw [h x] at hx
    cases hx
  refine ⟨?_, ?_, failuresOf_eq_nil fun site _ => hrouter site.call⟩
  · exact noCandidate_of_forall fun site _ x hrole => absurd hrole (hrouter site.call x)
  · refine List.filterMap_eq_nil_iff.mpr fun site _ => ?_
    unfold model?
    split
    · rename_i x hrole
      exact absurd hrole (hmodel _ x)
    · rfl

end Job

/-- The introductions `known` tell which calls of the program are recognized: a call
registers a router (a model) of `x` exactly if it calls directly the method `router`
(`model`) of the identifier `x`, written as a plain name, and `x` is an application.
If no name comes from the framework package, the program is left as it is: no router,
no models and no failures. -/
structure Tree.RecognizedBy (program : Tree Node) (known : Introductions) : Prop where
  router : ∀ call x, (Scope.ofProgram program).callRole call = .router x ↔
    call.RegistersOn routerMethod x ∧ known.IsApplication x
  model : ∀ call x, (Scope.ofProgram program).callRole call = .model x ↔
    call.RegistersOn modelMethod x ∧ known.IsApplication x
  unchanged : (∀ f, ¬ known.FromFramework f) → ∀ options file sessions,
    rewriteProgram options file program sessions =
      (program, ⟨file, none, [], []⟩, sessions.set file ⟨false, []⟩)

/-- **Recognition is single-level and goes by the last introduction of a name.** The
introductions outside of imports tell which calls are recognized. If nothing is
introduced inside an import, these are all introductions of the program. -/
theorem recognition_is_single_level (program : Tree Node) :
    program.RecognizedBy program.toForest.introductions ∧
      (program.NothingInImports → program.RecognizedBy program.allIntroductions) := by
  have houter : program.RecognizedBy program.toForest.introductions := by
    refine ⟨fun call x => ?_, fun call x => ?_, fun hframework options file sessions => ?_⟩
    · rw [Scope.callRole_eq_router_iff, Scope.isApplication_iff]
    · rw [Scope.callRole_eq_model_iff, Scope.isApplication_iff]
    · have hno : ∀ x, (Scope.ofProgram program).isApplication x = false := by
        intro x
        rw [← Bool.not_eq_true, Scope.isApplication_iff]
        rintro ⟨initializer, f, -, -, -, hf⟩
        exact hframework f hf
      obtain ⟨hcandidate, hmodels, hfailures⟩ :=
        (Job.ofProgram options file program).search_of_noApplication hno [] program.callSites
      rw [rewriteProgram_of_noCandidate options file program sessions hcandidate, hmodels,
        hfailures]
  refine ⟨houter, fun hnothing => ?_⟩
  rw [← Tree.allIntroductions_eq hnothing]
  exact houter

/-! ### A registration in an attribute -/

open Script HotUnit

/-- The module that imports the factory with an attribute in whose value an application
is created and a router is registered. -/
def attributeRegistering : Tree Node :=
  attributeProgram ⟨"dva", 2⟩ frameworkPackage
    [constantsNode [(⟨"app", 3⟩, factoryNode)], statementNode (registrationNode ⟨"app", 3⟩)]

/-- By all introductions `app` is an application, and the call of its method `router` is
not recognized. -/
theorem attribute_registration_not_recognized :
    attributeRegistering.IsSyntax ∧
    (∃ call ∈ attributeRegistering.preorder, call.label = .call ∧
      call.RegistersOn routerMethod ⟨"app", 3⟩ ∧
      attributeRegistering.allIntroductions.IsApplication ⟨"app", 3⟩ ∧
      (Scope.ofProgram attributeRegistering).callRole call = .other) ∧
    ¬ attributeRegistering.RecognizedBy attributeRegistering.allIntroductions := by
  obtain ⟨call, hcall⟩ : ∃ call, call = (registrationNode ⟨"app", 3⟩).fill .expression := ⟨_, rfl⟩
  have hmem : call ∈ attributeRegistering.preorder := by
    rw [hcall]
    decide +kernel
  have hregisters : call.RegistersOn routerMethod ⟨"app", 3⟩ := by
    rw [hcall]
    exact ⟨_, _, _, rfl, rfl, rfl, rfl, rfl, rfl⟩
  have hother : (Scope.ofProgram attributeRegistering).callRole call = .other := by
    rw [hcall]
    rfl
  have hall : attributeRegistering.allIntroductions =
      [(⟨"dva", 2⟩, .specifier frameworkPackage),
        (⟨"app", 3⟩, .declarator (some (factoryNode.fill .initializer)))] := rfl
  have happlication : attributeRegistering.allIntroductions.IsApplication ⟨"app", 3⟩ := by
    rw [hall]
    refine ⟨factoryNode.fill .initializer, ⟨"dva", 2⟩, ⟨[_], [], rfl, by simp⟩, ?_, by decide, ?_⟩
    · exact ⟨rfl, _, rfl, rfl⟩
    · exact .imported ⟨[], [_], rfl, by simp⟩
  refine ⟨by decide, ⟨call, hmem, by rw [hcall]; rfl, hregisters, happlication, hother⟩, ?_⟩
  intro h
  have hrouter := (h.router call ⟨"app", 3⟩).mpr ⟨hregisters, happlication⟩
  rw [hother] at hrouter
  cases hrouter

end HotReload
