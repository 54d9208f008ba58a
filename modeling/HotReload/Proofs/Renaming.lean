/-
# Scope numbers are names, and places are not looked at

A renaming changes the scope numbers of a program one to one, and the places of
its nodes in any way; it keeps the number of no scope and the place of a node
without a place. Every step of a rewrite commutes with it: two identifiers are
the same after the renaming exactly if they were before, so the look-ups of a
scope agree, and what is read from a unit's text is in no scope and has no place.

Key definitions: `Renaming`, `Tree.rename`, `Scope.rename`, `Progress.rename`.
Key theorems: `Forest.definitions_rename`, `Scope.callRole_rename`,
`Tree.adopt_rename`, `Progress.enter_rename`, `Progress.leave_rename`,
`visit_rename`, `rewriteProgram_rename`.
-/
import HotReload.Proofs.Script.Unscoped
import HotReload.Proofs.Tree.Rescope
import HotReload.Rewrite

namespace HotReload

/-- A change of scope numbers and places: numbers of scopes one to one, places
in any way, and what is in no scope or without a place stays so. -/
structure Renaming where
  context : Nat → Nat
  span : Span → Span
  context_injective : Function.Injective context
  context_zero : context 0 = 0
  span_none : span .none = .none

variable (r : Renaming)

/-! ### What is renamed -/

/-- The identifier with its scope renamed. -/
def Ident.rename (id : Ident) : Ident := ⟨id.name, r.context id.context⟩

/-- The label with its places renamed. -/
def Label.rename : Label → Label
  | spreadElement dots => spreadElement (r.span dots)
  | restElement dots => restElement (r.span dots)
  | argument spread => argument (spread.map r.span)
  | l => l

/-- The node with its place renamed and, if it is an identifier, its scope. -/
def Node.rename (n : Node) : Node where
  field := n.field
  label := n.label.rename r
  context := if n.ident?.isSome then r.context n.context else n.context
  span := r.span n.span

/-- The tree with all its nodes renamed. -/
def Tree.rename (t : Tree Node) : Tree Node := t.map (Node.rename r)

/-- The definition with the scope of the function that is called renamed. -/
def Definition.rename : Definition → Definition
  | called callee => called (callee.rename r)
  | d => d

/-- The role with the scope of its application renamed. -/
def Role.rename : Role → Role
  | router app => router (app.rename r)
  | model app => model (app.rename r)
  | role => role

/-- The scope with the names and their definitions renamed. -/
def Scope.rename (s : Scope) : Scope :=
  ⟨s.definitions.map (Prod.map (Ident.rename r) (Definition.rename r))⟩

/-- The job in the renamed program. -/
def Job.rename (job : Job) : Job := { job with scope := job.scope.rename r }

/-- The state of a visit with the unit that waits renamed. -/
def Progress.rename (s : Progress) : Progress :=
  { s with pending := s.pending.map (Prod.map id (Tree.rename r)) }

theorem Ident.rename_injective : Function.Injective (Ident.rename r) := by
  rintro ⟨name, context⟩ ⟨name', context'⟩ h
  obtain ⟨rfl, hcontext⟩ := Ident.mk.inj h
  exact congrArg (Ident.mk name) (r.context_injective hcontext)

/-- A renaming changes of a node its place and its scope alone. -/
theorem rescopes_rename : Rescopes (Node.rename r) (Ident.rename r) where
  field _ := rfl
  unplaced := fun ⟨_, label, _, _⟩ => by
    cases label with
    | argument spread => cases spread <;> rfl
    | _ => rfl
  ident? := fun ⟨_, label, _, _⟩ => by cases label <;> rfl
  name _ := rfl

/-! ### Definitions -/

namespace Definition

theorem ofInitializer_rename (t : Tree Node) :
    ofInitializer (t.rename r) = (ofInitializer t).rename r := by
  unfold ofInitializer Tree.rename
  rw [(rescopes_rename r).isRequire_map, (rescopes_rename r).requiredModule?_map,
    (rescopes_rename r).calledIdent?_map]
  split
  · cases t.requiredModule? <;> rfl
  · cases t.calledIdent? <;> rfl

theorem module?_rename (d : Definition) : (d.rename r).module? = d.module? := by
  cases d <;> rfl

end Definition

namespace Forest

variable (kids : Forest Node)

theorem declaratorDefinition?_rename :
    (kids.map (Node.rename r)).declaratorDefinition? =
      kids.declaratorDefinition?.map (Prod.map (Ident.rename r) (Definition.rename r)) := by
  have hvalue : (((kids.map (Node.rename r)).child? .initializer).map
      Definition.ofInitializer).getD .other =
      (((kids.child? .initializer).map Definition.ofInitializer).getD .other).rename r := by
    rw [(rescopes_rename r).find?_field]
    cases kids.child? .initializer with
    | none => rfl
    | some initializer => exact Definition.ofInitializer_rename r initializer
  unfold declaratorDefinition?
  rw [hvalue, (rescopes_rename r).find?_field]
  cases kids.child? .pattern with
  | none => rfl
  | some pattern =>
    show ((pattern.map (Node.rename r)).ident?).map _ = (pattern.ident?.map _).map _
    rw [(rescopes_rename r).ident?_map]
    cases pattern.ident? <;> rfl

theorem importDefinitions_rename :
    (kids.map (Node.rename r)).importDefinitions =
      kids.importDefinitions.map (Prod.map (Ident.rename r) (Definition.rename r)) := by
  have hsource : ((kids.map (Node.rename r)).child? .source).bind Tree.stringValue? =
      (kids.child? .source).bind Tree.stringValue? := by
    rw [(rescopes_rename r).find?_field]
    cases kids.child? .source with
    | none => rfl
    | some source => exact (rescopes_rename r).stringValue?_map source
  unfold importDefinitions
  rw [hsource, (rescopes_rename r).children_map]
  cases (kids.child? .source).bind Tree.stringValue? with
  | none => rfl
  | some source =>
    show List.filterMap _ _ = List.map _ (List.filterMap _ _)
    rw [List.filterMap_map, List.map_filterMap]
    refine congrArg (List.filterMap · _) (funext fun specifier => ?_)
    show (((specifier.map (Node.rename r)).child? .localName).bind Tree.ident?).map _ = _
    rw [(rescopes_rename r).child?_map]
    cases specifier.child? .localName with
    | none => rfl
    | some name =>
      show ((name.map (Node.rename r)).ident?).map _ = (name.ident?.map _).map _
      rw [(rescopes_rename r).ident?_map]
      cases name.ident? <;> rfl

theorem ownDefinitions_rename (n : Node) :
    ownDefinitions (n.rename r).label (kids.map (Node.rename r)) =
      (ownDefinitions n.label kids).map (Prod.map (Ident.rename r) (Definition.rename r)) := by
  obtain ⟨field, label, context, span⟩ := n
  cases label with
  | declarator =>
    show (declaratorDefinition? _).toList = (declaratorDefinition? _).toList.map _
    rw [declaratorDefinition?_rename]
    cases kids.declaratorDefinition? <;> rfl
  | importDeclaration phase => exact importDefinitions_rename r kids
  | _ => rfl

/-- Renaming a program renames its definitions, in the same order. -/
theorem definitions_rename (f : Forest Node) :
    (f.map (Node.rename r)).definitions =
      f.definitions.map (Prod.map (Ident.rename r) (Definition.rename r)) := by
  induction f with
  | nil => rfl
  | cons n kids rest ihk ihr =>
    rw [map, definitions, definitions, List.map_append, List.map_append, ihr,
      ownDefinitions_rename, List.append_cancel_right_eq, List.append_cancel_left_eq]
    obtain ⟨field, label, context, span⟩ := n
    cases label with
    | importDeclaration phase => rfl
    | _ => exact ihk

end Forest

/-! ### Roles -/

namespace Scope

variable (s : Scope) (t : Tree Node)

/-- A renaming is one to one, so a name is looked up under its new scope exactly
as under its old one. -/
theorem get?_rename (id : Ident) :
    (s.rename r).get? (id.rename r) = (s.get? id).map (.rename r) := by
  have hfind : (fun d : Ident × Definition => d.1.rename r == id.rename r) =
      fun d => d.1 == id := by
    funext d
    rw [Bool.eq_iff_iff, beq_iff_eq, beq_iff_eq]
    exact (Ident.rename_injective r).eq_iff
  unfold get? rename
  rw [← List.map_reverse, List.find?_map, Function.comp_def]
  simp only [Prod.map_fst, hfind, Option.map_map]
  rfl

theorem module?_rename (id : Ident) : (s.rename r).module? (id.rename r) = s.module? id := by
  unfold module?
  rw [get?_rename]
  cases s.get? id with
  | none => rfl
  | some d => exact Definition.module?_rename r d

theorem isFactory_rename (id : Ident) : (s.rename r).isFactory (id.rename r) = s.isFactory id := by
  unfold isFactory
  rw [module?_rename]

theorem isApplication_rename (id : Ident) :
    (s.rename r).isApplication (id.rename r) = s.isApplication id := by
  unfold isApplication
  rw [get?_rename]
  cases s.get? id with
  | none => rfl
  | some d =>
    cases d with
    | called callee => exact isFactory_rename r s callee
    | _ => rfl

theorem memberRole_rename :
    (s.rename r).memberRole (t.rename r) = (s.memberRole t).rename r := by
  have hobject : ((t.rename r).child? .object).bind Tree.ident? =
      ((t.child? .object).bind Tree.ident?).map (Ident.rename r) := by
    rw [Tree.rename, (rescopes_rename r).child?_map]
    cases t.child? .object with
    | none => rfl
    | some object => exact (rescopes_rename r).ident?_map object
  unfold memberRole
  rw [hobject, Tree.rename, (rescopes_rename r).child?_map]
  cases (t.child? .object).bind Tree.ident? with
  | none => rfl
  | some app =>
    cases t.child? .property with
    | none => rfl
    | some property =>
      obtain ⟨⟨field, label, context, span⟩, kids⟩ := property
      cases label with
      | propertyName method =>
        show (if (s.rename r).isApplication (app.rename r) then _ else Role.other) =
          (if s.isApplication app then _ else Role.other).rename r
        rw [isApplication_rename]
        split
        · show (if method == routerMethod then Role.router (app.rename r) else _) =
            (if method == routerMethod then Role.router app else _).rename r
          split
          · rfl
          · split <;> rfl
        · rfl
      | _ => rfl

theorem callRole_rename : (s.rename r).callRole (t.rename r) = (s.callRole t).rename r := by
  unfold callRole Tree.rename
  rw [(rescopes_rename r).child?_map]
  cases t.child? .callee with
  | none => rfl
  | some callee =>
    obtain ⟨⟨field, label, context, span⟩, kids⟩ := callee
    cases label with
    | identifier name =>
      show (if (s.rename r).isFactory (Ident.rename r ⟨name, context⟩) then Role.factory
        else .other) = (if s.isFactory ⟨name, context⟩ then Role.factory else .other).rename r
      rw [isFactory_rename]
      split <;> rfl
    | member => exact memberRole_rename r s _
    | _ => rfl

theorem argumentPath?_rename : (s.rename r).argumentPath? (t.rename r) = s.argumentPath? t := by
  unfold argumentPath? Tree.rename
  rw [(rescopes_rename r).plainArgument?_map]
  cases t.plainArgument? with
  | none => rfl
  | some argument =>
    have hrequired := (rescopes_rename r).requiredModule?_map argument
    obtain ⟨⟨field, label, context, span⟩, kids⟩ := argument
    cases label with
    | call => exact hrequired
    | identifier name => exact module?_rename r s ⟨name, context⟩
    | _ => rfl

theorem modulePath?_rename : (s.rename r).modulePath? (t.rename r) = s.modulePath? t := by
  unfold modulePath? Tree.rename
  rw [(rescopes_rename r).child?_map]
  cases t.child? .arguments with
  | none => rfl
  | some argument => exact argumentPath?_rename r s argument

end Scope

/-! ### Adoption -/

theorem Node.adopt_rename (app : Ident) {n : Node} (hn : n.context = 0) :
    n.adopt (app.rename r) = (n.adopt app).rename r := by
  obtain ⟨field, label, context, span⟩ := n
  obtain rfl : context = 0 := hn
  cases label with
  | identifier name =>
    by_cases hname : name = app.name
    · simp [adopt, Node.rename, Label.unplaced, Label.rename, Node.ident?, Ident.rename,
        r.span_none, hname]
    · simp [adopt, Node.rename, Label.unplaced, Label.rename, Node.ident?, Ident.rename,
        r.span_none, r.context_zero, hname]
  | argument spread => cases spread <;>
      simp [adopt, Node.rename, Label.unplaced, Label.rename, Node.ident?, r.span_none]
  | _ => simp [adopt, Node.rename, Label.unplaced, Label.rename, Node.ident?, r.span_none]

/-- What is in no scope is adopted into the renamed program as the renaming of what
is adopted into the program. -/
theorem Tree.adopt_rename (app : Ident) {t : Tree Node} (h : t.Unscoped) :
    t.adopt (app.rename r) = (t.adopt app).rename r := by
  have hforest : ∀ f : Forest Node, f.Unscoped →
      f.map (Node.adopt (app.rename r)) = (f.map (Node.adopt app)).map (Node.rename r) := by
    intro f hf
    induction f with
    | nil => rfl
    | cons n kids rest ihk ihr =>
      simp only [Forest.map, Node.adopt_rename r app hf.1, ihk hf.2.1, ihr hf.2.2]
  simp only [adopt, Tree.rename, Tree.map, Node.adopt_rename r app h.1, hforest _ h.2]

theorem HotUnit.adopted_rename (u : HotUnit) (app : Ident) :
    u.adopted (app.rename r) = (u.adopted app).map (Tree.rename r) := by
  unfold adopted
  cases hread : u.statement with
  | error fault => rfl
  | ok t =>
    have ht : t.Unscoped := Script.unscoped_of_readStatement hread
    exact congrArg Except.ok (Tree.adopt_rename r app ht)

/-! ### The visit -/

variable (job : Job) (s : Progress) (t : Tree Node)

namespace Progress

theorem onRouter_rename (app : Ident) (path : Option String) :
    (s.rename r).onRouter (job.rename r) (app.rename r) path =
      (s.onRouter job app path).rename r := by
  have hreplaceable : (s.rename r).replaceable = s.replaceable := rfl
  have hunit (router : String) :
      (s.rename r).unit (job.rename r) (app.rename r) router = s.unit job app router := rfl
  cases path with
  | none => rfl
  | some router =>
    unfold onRouter
    dsimp only
    rw [hreplaceable, hunit, HotUnit.adopted_rename]
    split
    · cases (s.unit job app router).adopted app <;> rfl
    · rfl

theorem onModel_rename (path : Option String) :
    (s.rename r).onModel (job.rename r) path = (s.onModel job path).rename r := by
  cases path <;> rfl

/-- A call does in the renamed program what it does in the program. -/
theorem onCall_rename :
    (s.rename r).onCall (job.rename r) (t.rename r) = (s.onCall job t).rename r := by
  have hdone : ((s.rename r).sessions.get (job.rename r).file).rewritten =
      (s.sessions.get job.file).rewritten := rfl
  have hrole : (job.rename r).scope.callRole (t.rename r) = (job.scope.callRole t).rename r :=
    Scope.callRole_rename r job.scope t
  have hpath : (job.rename r).scope.modulePath? (t.rename r) = job.scope.modulePath? t :=
    Scope.modulePath?_rename r job.scope t
  unfold onCall
  rw [hdone, hrole, hpath]
  split
  · rfl
  · cases job.scope.callRole t with
    | router app => exact onRouter_rename r job s app _
    | model app => exact onModel_rename r job s _
    | factory => rfl
    | other => rfl

theorem enter_rename :
    (s.rename r).enter (job.rename r) (t.rename r) = (s.enter job t).rename r := by
  have hstatement : (t.rename r).root.isStatement = t.root.isStatement :=
    (rescopes_rename r).isStatement t.root
  have hfunction : (t.rename r).root.isFunction = t.root.isFunction :=
    (rescopes_rename r).isFunction t.root
  have hcall : (t.rename r).root.isCall = t.root.isCall := (rescopes_rename r).isCall t.root
  have hcounters : ∀ statement function : Bool,
      (let s := if statement then { s.rename r with depth := s.depth + 1 } else s.rename r
        if function then { s with boundary := some s.depth } else s) =
      (let s := if statement then { s with depth := s.depth + 1 } else s
        if function then { s with boundary := some s.depth } else s).rename r := by
    intro statement function
    cases statement <;> cases function <;> rfl
  have hinside := hcounters t.root.isStatement t.root.isFunction
  dsimp only at hinside
  unfold enter
  rw [hstatement, hfunction, hcall]
  dsimp only [rename] at hinside ⊢
  rw [hinside]
  split
  · exact onCall_rename r job _ t
  · rfl

theorem leave_rename (boundary : Option Nat) :
    (s.rename r).leave boundary (t.rename r) =
      ((s.leave boundary t).1.rename r, (s.leave boundary t).2.rename r) := by
  have hstatement : (t.rename r).root.isStatement = t.root.isStatement :=
    (rescopes_rename r).isStatement t.root
  have hfunction : (t.rename r).root.isFunction = t.root.isFunction :=
    (rescopes_rename r).isFunction t.root
  obtain ⟨sessions, depth, inner, pending, router, failures⟩ := s
  rcases pending with _ | ⟨d, unit⟩
  · unfold leave
    rw [hstatement, hfunction]
    cases t.root.isStatement <;> cases t.root.isFunction <;> rfl
  · unfold leave
    rw [hstatement, hfunction]
    cases t.root.isStatement
    · cases t.root.isFunction <;> rfl
    · by_cases hd : d = depth
      · cases t.root.isFunction <;> simp [rename, hd] <;> rfl
      · cases t.root.isFunction <;> simp [rename, hd]

end Progress

/-- **A visit commutes with a renaming.** Induction on the forest; entering and
leaving a node commute with it, so the states of the two visits correspond
throughout. -/
theorem visit_rename (f : Forest Node) :
    visit (job.rename r) (f.map (Node.rename r)) (s.rename r) =
      ((visit job f s).1.map (Node.rename r), (visit job f s).2.rename r) := by
  induction f generalizing s with
  | nil => rfl
  | cons n kids rest ihk ihr =>
    have henter : (s.rename r).enter (job.rename r) ⟨n.rename r, kids.map (Node.rename r)⟩ =
        (s.enter job ⟨n, kids⟩).rename r := Progress.enter_rename r job s ⟨n, kids⟩
    simp only [Forest.map, visit, henter, ihk]
    have hleave := Progress.leave_rename r (visit job kids (s.enter job ⟨n, kids⟩)).2
      ⟨n, (visit job kids (s.enter job ⟨n, kids⟩)).1⟩ s.boundary
    simp only [Tree.rename, Tree.map] at hleave
    have hboundary : (s.rename r).boundary = s.boundary := rfl
    rw [hboundary, hleave, ihr]

/-- **Scope numbers are only compared, and places are not looked at.** For every
change of the scope numbers of the identifiers that is one to one and keeps the
number of no scope, and every change of places that keeps the place of what has
none, the changed program is rewritten to the changed result, with the same
outcome and the same sessions. -/
theorem rewriteProgram_rename (options : Options) (file : FileIdentity) (program : Tree Node)
    (sessions : Sessions) :
    rewriteProgram options file (program.rename r) sessions =
      ((rewriteProgram options file program sessions).1.rename r,
        (rewriteProgram options file program sessions).2) := by
  have hscope : Scope.ofProgram (program.rename r) = (Scope.ofProgram program).rename r :=
    congrArg Scope.mk (Forest.definitions_rename r program.toForest)
  have hvisit : visit ⟨(Scope.ofProgram program).rename r, options, file⟩
      (program.rename r).toForest (.start (sessions.restart file)) = _ :=
    visit_rename r ⟨.ofProgram program, options, file⟩ (.start (sessions.restart file))
      program.toForest
  unfold rewriteProgram visitProgram
  rw [hscope, hvisit]
  dsimp only
  cases (visit ⟨.ofProgram program, options, file⟩ program.toForest
    (.start (sessions.restart file))).1 <;> rfl

end HotReload
