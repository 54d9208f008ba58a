/-
# References and declarations across a rewrite

An identifier of a program declares a name, refers to one, or only names something
that is no variable. Which of these it does depends on the nodes above it alone, and
a statement stands for itself: replacing it exchanges its identifiers and leaves all
others as they were. So a rewrite keeps every declaration outside of the statement
that it replaces; with the statement go the declarations in it, also those that are
referred to elsewhere (`declaration_dropped`).

Key definitions: `Extent`, `Use`, `Label.use`, `Forest.uses`, `Tree.references`,
`Tree.declarations`.
Key theorems: `Tree.exists_uses_replaceAt`, `rewriteProgram_keeps_declarations`,
`declaration_dropped`.
-/
import HotReload.Proofs.Slots

namespace HotReload

/-- How far a declaration reaches. -/
inductive Extent where
  /-- To the end of the nearest block, function or clause around it. -/
  | block
  /-- To the end of the nearest function around it. -/
  | function
deriving DecidableEq

/-- What an identifier is there for. -/
inductive Use where
  /-- It declares a variable, a parameter, a function, a class or an import. -/
  | declares (extent : Extent)
  /-- It refers to what it names. -/
  | refers
  /-- It is a label, or a name in another module. -/
  | names
deriving DecidableEq

/-- What identifiers in a field of a node are there for, if those in the node's place
are there for `outer`: parts of patterns are there for what the pattern is. -/
def Label.use (l : Label) (outer : Use) (f : Field) : Use :=
  match l, f with
  | .variableDeclaration .functionScoped, .declarators => .declares .function
  | .variableDeclaration _, .declarators | .usingDeclaration _, .declarators => .declares .block
  | .functionDeclaration, .name | .functionExpression, .name | .classDeclaration, .name
  | .classExpression, .name => .declares .block
  | .parameter, .pattern | .arrow _ _, .parameters | .setter, .parameter
  | .catchClause, .parameter => .declares .block
  | .importDefault, .localName | .importNamespace, .localName
  | .importNamed, .localName => .declares .block
  | .declarator, .pattern | .arrayPattern, .elements | .objectPattern, .properties
  | .restElement _, .argument | .assignmentPattern, .left | .keyValuePattern, .value
  | .shorthandPattern, .key => outer
  | .labeledStatement, .labelName | .breakStatement, .labelName
  | .continueStatement, .labelName => .names
  | .importNamed, .imported | .exportSpecifier, .exported | .exportNamespace, .exported => .names
  | _, _ => .refers

/-- Nothing that stands as a statement is part of a pattern or of a declaration. -/
theorem Label.use_of_holdsStatement (l : Label) (outer : Use) {f : Field}
    (h : f.holdsStatement = true) : l.use outer f = .refers := by
  have hf : f = .statements ∨ f = .statement ∨ f = .thenBranch ∨ f = .elseBranch := by
    unfold Field.holdsStatement at h
    split at h <;> simp_all
  rcases hf with rfl | rfl | rfl | rfl <;> cases l with
  | variableDeclaration kind => cases kind <;> rfl
  | _ => rfl

/-- The identifiers of a forest and what they are there for, in the order of a visit.
The forest holds children of a node of the kind `l`, in whose place identifiers are
there for `outer`. -/
def Forest.uses (l : Label) (outer : Use) : Forest Node → List (Ident × Use)
  | .nil => []
  | .cons n kids rest =>
    (n.ident?.map (·, l.use outer n.field)).toList ++
      kids.uses n.label (l.use outer n.field) ++ rest.uses l outer

namespace Tree

variable (t : Tree Node)

/-- The identifiers of a program or of a statement and what they are there for, in the
order of a visit. -/
def uses : List (Ident × Use) := t.toForest.uses .hole .refers

/-- What is referred to. -/
def references : List Ident := (t.uses.filter (·.2 = .refers)).map (·.1)

/-- What is declared. -/
def declarations : List Ident := (t.uses.filter (·.2 matches .declares _)).map (·.1)

theorem mem_declarations {id : Ident} :
    id ∈ t.declarations ↔ ∃ extent, (id, .declares extent) ∈ t.uses := by
  unfold declarations
  rw [List.mem_map]
  constructor
  · rintro ⟨⟨id, use⟩, h, rfl⟩
    obtain ⟨hmem, huse⟩ := List.mem_filter.mp h
    cases use with
    | declares extent => exact ⟨extent, hmem⟩
    | refers => cases huse
    | names => cases huse
  · rintro ⟨extent, h⟩
    exact ⟨_, List.mem_filter.mpr ⟨h, rfl⟩, rfl⟩

end Tree

namespace Forest

/-- Replacing a statement exchanges its identifiers and no others. -/
theorem exists_uses_replaceAt {f : Forest Node} {i : Nat} {p : List Nat} {statement : Tree Node}
    (h : f.treeAt? i p = some statement) (hs : statement.root.field.holdsStatement = true)
    (unit : Tree Node) (l : Label) (outer : Use) :
    ∃ before after, f.uses l outer = before ++ statement.uses ++ after ∧
      (f.replaceAt i p (unit.fill statement.root.field)).uses l outer =
        before ++ unit.uses ++ after := by
  induction f generalizing i p l outer with
  | nil => simp [treeAt?] at h
  | cons n kids rest ihk ihr =>
    rcases i with _ | i
    · rcases p with _ | ⟨j, p⟩
      · obtain rfl : ⟨n, kids⟩ = statement := by simpa [treeAt?] using h
        have huse : l.use outer n.field = .refers := l.use_of_holdsStatement outer hs
        refine ⟨[], rest.uses l outer, ?_, ?_⟩
        · simp only [uses, huse, Tree.uses, Tree.toForest, List.nil_append, List.append_nil]
          rfl
        · simp only [replaceAt, uses, Tree.uses, Tree.toForest, Tree.fill, huse, List.nil_append,
            List.append_nil]
          rfl
      · obtain ⟨before, after, hbefore, hafter⟩ := ihk h n.label (l.use outer n.field)
        refine ⟨(n.ident?.map (·, l.use outer n.field)).toList ++ before,
          after ++ rest.uses l outer, ?_, ?_⟩
        · simp only [uses, hbefore, List.append_assoc]
        · simp only [replaceAt, uses, hafter, List.append_assoc]
    · obtain ⟨before, after, hbefore, hafter⟩ := ihr h l outer
      refine ⟨(n.ident?.map (·, l.use outer n.field)).toList ++
        kids.uses n.label (l.use outer n.field) ++ before, after, ?_, ?_⟩
      · simp only [uses, hbefore, List.append_assoc]
      · simp only [replaceAt, uses, hafter, List.append_assoc]

end Forest

/-- **Replacing a statement of a program exchanges its identifiers**, and leaves those
before and behind it as they were. -/
theorem Tree.exists_uses_replaceAt {program statement : Tree Node} {address : List Nat}
    (h : program.treeAt? address = some statement)
    (hs : statement.root.field.holdsStatement = true) (unit : Tree Node) :
    ∃ before after, program.uses = before ++ statement.uses ++ after ∧
      (program.replaceAt address (unit.fill statement.root.field)).uses =
        before ++ unit.uses ++ after := by
  have hforest : program.toForest.treeAt? 0 address = some statement := by
    rcases address with _ | ⟨i, p⟩ <;> exact h
  obtain ⟨before, after, hbefore, hafter⟩ :=
    Forest.exists_uses_replaceAt hforest hs unit .hole .refers
  rw [Tree.replaceAt_toForest] at hafter
  exact ⟨before, after, hbefore, hafter⟩

/-- The last statement on the trail of the first candidate is a statement of the
program, and the unit takes its place. -/
theorem Job.IsFirstCandidate.exists_statement {job : Job} {program : Tree Node} {hit : Hit}
    (hfirst : job.IsFirstCandidate program.callSites hit) :
    ∃ statement, program.treeAt? (Trail.toStatement hit.site.trail).address = some statement ∧
      statement.root.isStatement = true ∧
      hit.statement = hit.unit.fill statement.root.field := by
  obtain ⟨outer, step, inner, htrail, hto, hs, -⟩ := hfirst.candidate.stands.exists_split
  obtain ⟨-, -, hnodes⟩ := Tree.trail_of_mem_callSites hfirst.site_mem
  obtain ⟨statement, hstatement, hroot⟩ :=
    Option.map_eq_some_iff.mp (hnodes outer step inner htrail)
  rw [← hto] at hstatement
  refine ⟨statement, hstatement, by rw [hroot, hs], ?_⟩
  simp [Hit.statement, hto, Trail.field, hroot]

variable (options : Options) (file : FileIdentity) (program : Tree Node) (sessions : Sessions)

/-- **A rewrite keeps the declarations around it.** If a statement is rewritten, the
identifiers before and behind it stay what they are, and those in it give way to those
of the unit. So whatever is referred to in the output and declared outside of the
statement is still declared; what is no longer declared was declared in the statement
alone. -/
theorem rewriteProgram_keeps_declarations :
    ∃ output outcome stored,
      rewriteProgram options file program sessions = (output, outcome, stored) ∧
      ∀ router, outcome.router = some router →
        ∃ hit statement before after, hit.router = router ∧
          (Job.ofProgram options file program).IsFirstCandidate program.callSites hit ∧
          program.treeAt? (Trail.toStatement hit.site.trail).address = some statement ∧
          statement.root.isStatement = true ∧
          program.uses = before ++ statement.uses ++ after ∧
          output.uses = before ++ hit.unit.uses ++ after ∧
          (∀ id ∈ output.references, ∀ extent, (id, .declares extent) ∈ before ++ after →
            id ∈ output.declarations) ∧
          ∀ id ∈ output.references, id ∈ program.declarations → id ∉ output.declarations →
            id ∈ statement.declarations ∧ id ∉ hit.unit.declarations ∧
              ∀ extent, (id, .declares extent) ∉ before ++ after := by
  rcases hrun : rewriteProgram options file program sessions with ⟨output, outcome, stored⟩
  refine ⟨output, outcome, stored, rfl, fun router hrouter => ?_⟩
  obtain ⟨hit, hfirst, rfl⟩ := exists_isFirstCandidate_of_router options file program sessions
    (by rw [hrun]; exact hrouter)
  obtain ⟨statement, hstatement, hs, hreplaced⟩ := hfirst.exists_statement
  have hfield : statement.root.field.holdsStatement = true := by
    unfold Node.isStatement at hs
    exact (Bool.and_eq_true _ _ ▸ hs).1
  obtain ⟨before, after, hbefore, hafter⟩ :=
    Tree.exists_uses_replaceAt hstatement hfield hit.unit
  have houtput : output.uses = before ++ hit.unit.uses ++ after := by
    rw [rewriteProgram_of_isFirstCandidate options file program sessions hfirst] at hrun
    rw [← (Prod.mk.inj hrun).1, hreplaced]
    exact hafter
  have hkeeps (id : Ident) (extent : Extent) (h : (id, .declares extent) ∈ before ++ after) :
      id ∈ output.declarations := by
    rw [Tree.mem_declarations, houtput]
    refine ⟨extent, ?_⟩
    simp only [List.mem_append] at h ⊢
    tauto
  refine ⟨hit, statement, before, after, rfl, hfirst, hstatement, hs, hbefore, houtput,
    fun id _ => hkeeps id, fun id _ hdeclared hdropped => ?_⟩
  have houtside : ∀ extent, (id, .declares extent) ∉ before ++ after := fun extent h =>
    hdropped (hkeeps id extent h)
  rw [Tree.mem_declarations, houtput] at hdropped
  rw [Tree.mem_declarations, hbefore] at hdeclared
  refine ⟨?_, fun hunit => ?_, houtside⟩
  · obtain ⟨extent, hmem⟩ := hdeclared
    have := houtside extent
    refine (Tree.mem_declarations _).mpr ⟨extent, ?_⟩
    simp only [List.mem_append] at hmem this
    tauto
  · obtain ⟨extent, hmem⟩ := (Tree.mem_declarations _).mp hunit
    exact hdropped ⟨extent, by simp [hmem]⟩

/-! ### A declaration that goes with its statement -/

open Script HotUnit

/-- The program that defines an application and what its registration of a router gives
in one statement. -/
def definingBoth : Tree Node :=
  programNode [constantsNode
    [(⟨"app", 2⟩, factoryNode), (⟨"routes", 2⟩, registrationNode ⟨"app", 2⟩)]]

/-- The unit takes the place of the definition of the application that it refers to. -/
theorem declaration_dropped :
    ∃ output outcome stored,
      rewriteProgram .standard ⟨"index.js"⟩ definingBoth ⟨[]⟩ = (output, outcome, stored) ∧
      outcome.router = some "./router" ∧
      ⟨"app", 2⟩ ∈ output.references ∧ ⟨"app", 2⟩ ∈ definingBoth.declarations ∧
      ⟨"app", 2⟩ ∉ output.declarations := by
  obtain ⟨factory, call, required, hsites, hfactory, hrole, hpath, hstands, haddress, hfield⟩ :
      ∃ factory call required, definingBoth.callSites = [factory, call, required] ∧
        (Scope.ofProgram definingBoth).callRole factory.call = .factory ∧
        (Scope.ofProgram definingBoth).callRole call.call = .router ⟨"app", 2⟩ ∧
        (Scope.ofProgram definingBoth).modulePath? call.call = some "./router" ∧
        decide call.trail.StandsInStatement = true ∧
        (Trail.toStatement call.trail).address = [1] ∧
        (Trail.toStatement call.trail).field = .statements :=
    ⟨_, _, _, rfl, rfl, rfl, rfl, rfl, rfl, rfl⟩
  obtain ⟨houtcome, hfirst⟩ := rewriteProgram_behind_factory .standard ⟨"index.js"⟩ definingBoth
    ⟨[]⟩ hsites hfactory hrole hpath (of_decide_eq_true hstands) (by decide) (by decide)
    (isReadAs_standard "app")
  have hrun := rewriteProgram_of_isFirstCandidate .standard ⟨"index.js"⟩ definingBoth ⟨[]⟩ hfirst
  rw [haddress, Hit.statement, hfield] at hrun
  dsimp only at hrun
  refine ⟨_, _, _, hrun, rfl, ?_, ?_, ?_⟩
  · decide +kernel
  · decide +kernel
  · decide +kernel

end HotReload
