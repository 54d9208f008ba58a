/-
# Which functions a rewrite crosses

The statement that is replaced for a registration of a router is the last one
around it. If a function stands between the two, the registration does not run
where the statement does, and replacing the statement swallows the function. A
visit therefore leaves alone what stands in a function but in no statement of
it. Functions and methods are told by the part that they share, and arrows by
themselves; constructors, and setters of objects, have no such part. Their bodies
are blocks, so whatever stands there stands in a statement. Their parameters are
not guarded: a rewrite crosses a constructor or a setter if the registration is
in a default value of a parameter, and no other function
(`rewriteProgram_crosses_parameters`, `constructor_parameter_crossed`).

Key definitions: `Label.encloses`, `Label.takesParameter`, `Trail.Crosses`,
`Job.LeavesAlone`.
Key theorems: `Trail.isFunction_of_standsInStatement`,
`Tree.IsSyntax.statement_of_body`, `rewriteProgram_crosses_parameters`,
`constructor_parameter_crossed`.
-/
import HotReload.Proofs.Slots
import HotReload.Proofs.Tree.Syntax

namespace HotReload

open Script HotUnit

namespace Label

/-- Whether a child in this field is inside of the function that a node of this kind
is: everything in a function or an arrow, and the parameters and the body of a
constructor, a getter or a setter. The key of a member is outside. -/
def encloses : Label → Field → Bool
  | functionPart _ _, _ | arrow _ _, _ => true
  | constructorMember, .parameters | constructorMember, .body => true
  | getter, .body => true
  | setter, .parameter | setter, .body => true
  | _, _ => false

/-- Whether a child in this field is a parameter of a constructor, or of the setter of
an object. -/
def takesParameter : Label → Field → Bool
  | constructorMember, .parameters | setter, .parameter => true
  | _, _ => false

/-- A function that bounds no visit encloses parameters or a body. -/
theorem takesParameter_or_body {l : Label} {f : Field} (h : l.encloses f = true)
    (hfunction : l.isFunction = false) : l.takesParameter f = true ∨ f = .body := by
  unfold encloses at h
  split at h
  · cases hfunction
  · cases hfunction
  · exact Or.inl rfl
  · exact Or.inr rfl
  · exact Or.inr rfl
  · exact Or.inl rfl
  · exact Or.inr rfl
  · cases h

end Label

namespace Trail

/-- The node `f` is a function on the trail and stands below its last statement, and
the trail goes on inside of it, at the node `next`. -/
structure Crosses (trail : Trail) (f next : Step) : Prop where
  split : ∃ outer inner, trail = outer ++ f :: next :: inner ∧
    ∀ step ∈ f :: next :: inner, step.node.isStatement = false
  encloses : f.node.label.encloses next.node.field = true

/-- A visit finds no function below the last statement of what it replaces a
statement for. -/
theorem isFunction_of_standsInStatement {outer inner : Trail}
    (h : StandsInStatement (outer ++ inner))
    (hinner : ∀ step ∈ inner, step.node.isStatement = false) :
    ∀ step ∈ inner, step.node.isFunction = false := by
  induction inner using List.reverseRecOn with
  | nil => simp
  | append_singleton inner last ih =>
    rw [← List.append_assoc, standsInStatement_concat] at h
    obtain ⟨hfunction, hstatement | hstands⟩ := h
    · have hnone := hinner last (by simp)
      rw [hnone] at hstatement
      cases hstatement
    · have hrest := ih hstands fun step hstep => hinner step (by simp [hstep])
      intro step hstep
      rcases List.mem_append.mp hstep with hstep | hstep
      · exact hrest step hstep
      · rw [List.mem_singleton.mp hstep]
        exact hfunction

end Trail

/-- What stands in the body of a function that is no arrow stands in a statement
there. -/
theorem Tree.IsSyntax.statement_of_body {program : Tree Node} (h : program.IsSyntax) {site : Site}
    (hsite : site ∈ program.callSites) {outer inner : Trail} {f next : Step}
    (htrail : site.trail = outer ++ f :: next :: inner) (hbody : next.node.field = .body)
    (harrow : f.node.label.isArrow = false) :
    ∃ step ∈ inner, step.node.isStatement = true := by
  have hblock : next.node.label = .block := by
    rcases (h.admits_of_mem_callSites hsite htrail).body hbody with hf | hblock
    · rw [harrow] at hf
      cases hf
    · exact hblock
  rcases inner with _ | ⟨statement, inner⟩
  · -- a call is no block, so the trail does not end there
    obtain ⟨above, index, hlast⟩ := Forest.last_of_mem_sites hsite
    have hcall := Tree.isCall_of_mem_callSites hsite
    have hsplit : above ++ [⟨index, site.call.root⟩] = (outer ++ [f]) ++ [next] := by
      rw [← hlast, htrail]
      simp
    obtain ⟨-, hnext⟩ := List.append_inj' hsplit rfl
    obtain rfl : (⟨index, site.call.root⟩ : Step) = next := by simpa using hnext
    have hlabel : site.call.root.label = .call := by simpa [Node.isCall] using hcall
    rw [hblock] at hlabel
    cases hlabel
  · have hchild : site.trail = (outer ++ [f]) ++ next :: statement :: inner := by
      rw [htrail]
      simp
    have hadmits := h.admits_of_mem_callSites hsite hchild
    rw [hblock] at hadmits
    have hfield : statement.node.field = .statements := by simpa [Label.layout] using hadmits.field
    have hmodule : statement.node.label.isModuleDeclaration = false := by
      by_contra hne
      have hroot := hadmits.declaration (by simpa using hne)
      cases hroot
    refine ⟨statement, List.mem_cons_self, ?_⟩
    unfold Node.isStatement
    rw [hfield, hmodule]
    rfl

/-- What stands in a statement of its own, as a visit sees it, is in no function below
the statement but in the parameters of constructors and setters. -/
theorem Tree.IsSyntax.takesParameter_of_crosses {program : Tree Node} (h : program.IsSyntax)
    {site : Site} (hsite : site ∈ program.callSites) (hstands : site.trail.StandsInStatement)
    {f next : Step} (hcrosses : site.trail.Crosses f next) :
    f.node.label.takesParameter next.node.field = true := by
  obtain ⟨⟨outer, inner, htrail, hnone⟩, hencloses⟩ := hcrosses
  rw [htrail] at hstands
  have hfunction : f.node.label.isFunction = false :=
    Trail.isFunction_of_standsInStatement hstands hnone f List.mem_cons_self
  rcases Label.takesParameter_or_body hencloses hfunction with hparameter | hbody
  · exact hparameter
  · have harrow : f.node.label.isArrow = false := by
      cases hlabel : f.node.label with
      | arrow async generator =>
        rw [hlabel] at hfunction
        cases hfunction
      | _ => rfl
    obtain ⟨step, hstep, hstatement⟩ := h.statement_of_body hsite htrail hbody harrow
    have hstep := hnone step (List.mem_cons_of_mem _ (List.mem_cons_of_mem _ hstep))
    rw [hstatement] at hstep
    cases hstep

/-! ### What is left alone -/

/-- A registration of a router that does not stand in a statement of its own function
does nothing but, if it names no module, to fail. -/
theorem Progress.onCall_of_not_standsInStatement {job : Job} {s : Progress} {site : Site}
    {app : Ident} (hrole : job.scope.callRole site.call = .router app)
    (hdepth : s.depth = site.trail.depth) (hboundary : s.boundary = site.trail.boundary)
    (hstands : ¬ site.trail.StandsInStatement) :
    s.onCall job site.call = s ∨
      s.onCall job site.call = s.fail (.unresolvedRouter job.file) := by
  have hreplaceable : ¬ s.replaceable = true := by
    rw [replaceable, hdepth, hboundary, Trail.replaceable_counters_iff]
    exact hstands
  unfold onCall
  split
  · exact Or.inl rfl
  · rw [hrole]
    dsimp only
    unfold onRouter
    split
    · exact Or.inr rfl
    · rw [if_neg hreplaceable]
      exact Or.inl rfl

/-- A visit that makes `output` of the program, and `stored` of the sessions, leaves the
call alone: the call is not what a statement is replaced for, it changes no session when
it is met, the session is marked for another call if it is marked, and, unless the call
stands in the statement that is replaced for another one, it is still there. -/
structure Job.LeavesAlone (job : Job) (program output : Tree Node) (stored : Sessions)
    (site : Site) : Prop where
  notFirst : ∀ hit, job.IsFirstCandidate program.callSites hit → hit.site ≠ site
  unmarked : ∀ s : Progress, s.depth = site.trail.depth → s.boundary = site.trail.boundary →
    (s.onCall job site.call).sessions = s.sessions ∧
      (s.onCall job site.call).pending = s.pending ∧ (s.onCall job site.call).router = s.router
  markedByOther : (stored.get job.file).rewritten = true →
    ∃ hit, job.IsFirstCandidate program.callSites hit ∧ hit.site ≠ site
  kept : (∀ hit, job.IsFirstCandidate program.callSites hit →
      ¬ (Trail.toStatement hit.site.trail).address <+: site.trail.address) →
    output.nodeAt? site.trail.address = some site.call.root

variable (options : Options) (file : FileIdentity) (program : Tree Node) (sessions : Sessions)

/-- A registration that does not stand in a statement of its own function is left
alone. -/
theorem leavesAlone_of_not_standsInStatement {site : Site} {app : Ident}
    (hsite : site ∈ program.callSites)
    (hrole : (Scope.ofProgram program).callRole site.call = .router app)
    (hstands : ¬ site.trail.StandsInStatement) {output : Tree Node} {outcome : Outcome}
    {stored : Sessions}
    (hrun : rewriteProgram options file program sessions = (output, outcome, stored)) :
    (Job.ofProgram options file program).LeavesAlone program output stored site := by
  have hnot : ∀ hit, (Job.ofProgram options file program).IsFirstCandidate program.callSites hit →
      hit.site ≠ site := by
    intro hit hfirst heq
    have hcandidate := hfirst.candidate.stands
    rw [heq] at hcandidate
    exact hstands hcandidate
  have hunmarked : ∀ s : Progress, s.depth = site.trail.depth → s.boundary = site.trail.boundary →
      (s.onCall (.ofProgram options file program) site.call).sessions = s.sessions ∧
        (s.onCall (.ofProgram options file program) site.call).pending = s.pending ∧
        (s.onCall (.ofProgram options file program) site.call).router = s.router := by
    intro s hdepth hboundary
    have hrole : (Job.ofProgram options file program).scope.callRole site.call = .router app :=
      hrole
    rcases Progress.onCall_of_not_standsInStatement hrole hdepth hboundary hstands with h | h
    · rw [h]
      exact ⟨rfl, rfl, rfl⟩
    · rw [h]
      exact ⟨rfl, rfl, rfl⟩
  have hnode : program.nodeAt? site.trail.address = some site.call.root := by
    obtain ⟨outer, index, htrail⟩ := Forest.last_of_mem_sites hsite
    obtain ⟨-, -, hnodes⟩ := Tree.trail_of_mem_callSites hsite
    rw [htrail]
    exact hnodes outer ⟨index, site.call.root⟩ [] htrail
  cases hhit : (Job.ofProgram options file program).firstHit [] program.callSites with
  | none =>
    rw [rewriteProgram_of_noCandidate options file program sessions
      (Job.firstHit_eq_none_iff.mp hhit)] at hrun
    cases hrun
    refine ⟨hnot, hunmarked, fun hmarked => ?_, fun _ => hnode⟩
    have hget := Sessions.get_set_self sessions file
      ⟨false, (Job.ofProgram options file program).modelsOf program.callSites⟩
    rw [show (Job.ofProgram options file program).file = file from rfl, hget] at hmarked
    cases hmarked
  | some hit =>
    have hfirst := Job.firstHit_nil_eq_some_iff.mp hhit
    rw [rewriteProgram_of_isFirstCandidate options file program sessions hfirst] at hrun
    cases hrun
    refine ⟨hnot, hunmarked, fun _ => ⟨hit, hfirst, hnot hit hfirst⟩, fun hkept => ?_⟩
    exact (Tree.nodeAt?_replaceAt program _ _ (hkept hit hfirst)).trans hnode

/-- **Which functions a rewrite crosses.** If a statement of a program that is syntax is
replaced, it is the last one around the call that it is replaced for, and the functions
between the two are constructors and setters with the call in their parameters: no
function, no arrow, no method and no getter. A registration that stands, below its last
statement, in a function in any other way is left alone. -/
theorem rewriteProgram_crosses_parameters (hprogram : program.IsSyntax) :
    ∃ output outcome stored,
      rewriteProgram options file program sessions = (output, outcome, stored) ∧
      (∀ router, outcome.router = some router →
        ∃ hit, (Job.ofProgram options file program).IsFirstCandidate program.callSites hit ∧
          output = program.replaceAt (Trail.toStatement hit.site.trail).address hit.statement ∧
          ∀ f next, hit.site.trail.Crosses f next →
            f.node.label.takesParameter next.node.field = true) ∧
      ∀ site ∈ program.callSites, ∀ app f next,
        (Scope.ofProgram program).callRole site.call = .router app →
        site.trail.Crosses f next → f.node.label.takesParameter next.node.field = false →
        (Job.ofProgram options file program).LeavesAlone program output stored site := by
  rcases hrun : rewriteProgram options file program sessions with ⟨output, outcome, stored⟩
  refine ⟨output, outcome, stored, rfl, fun router hrouter => ?_,
    fun site hsite app f next hrole hcrosses hother => ?_⟩
  · obtain ⟨hit, hfirst, -⟩ := exists_isFirstCandidate_of_router options file program sessions
      (by rw [hrun]; exact hrouter)
    rw [rewriteProgram_of_isFirstCandidate options file program sessions hfirst] at hrun
    cases hrun
    exact ⟨hit, hfirst, rfl, fun f next hcrosses =>
      hprogram.takesParameter_of_crosses hfirst.site_mem hfirst.candidate.stands hcrosses⟩
  · have hstands : ¬ site.trail.StandsInStatement := by
      intro hstands
      have hparameter := hprogram.takesParameter_of_crosses hsite hstands hcrosses
      rw [hother] at hparameter
      cases hparameter
    exact leavesAlone_of_not_standsInStatement options file program sessions hsite hrole hstands
      hrun

/-! ### A registration in an arrow and in a constructor -/

/-- The program that creates an application and goes on with the given statement. -/
def withApplication (statement : Tree Node) : Tree Node :=
  programNode [constantsNode [(⟨"app", 2⟩, factoryNode)], statement]

/-- The registration of a router as what an arrow function gives. -/
def inArrow : Tree Node :=
  withApplication (constantsNode [(⟨"start", 2⟩,
    .ofLabel (.arrow false false) [(registrationNode ⟨"app", 2⟩).fill .body])])

/-- The arrow is not crossed: the registration is left alone. -/
theorem router_in_arrow_left_alone :
    inArrow.IsSyntax ∧ ∃ site ∈ inArrow.callSites,
      (Scope.ofProgram inArrow).callRole site.call = .router ⟨"app", 2⟩ ∧
      ∃ output outcome stored,
        rewriteProgram .standard ⟨"index.js"⟩ inArrow ⟨[]⟩ = (output, outcome, stored) ∧
        (Job.ofProgram .standard ⟨"index.js"⟩ inArrow).LeavesAlone inArrow output stored site := by
  have hprogram : inArrow.IsSyntax := by decide +kernel
  obtain ⟨factory, call, required, f, next, hsites, hrole, htrail, hnone, hencloses, hother⟩ :
      ∃ (factory call required : Site) (f next : Step),
        inArrow.callSites = [factory, call, required] ∧
        (Scope.ofProgram inArrow).callRole call.call = .router ⟨"app", 2⟩ ∧
        call.trail.drop 3 = [f, next] ∧
        decide (∀ step ∈ [f, next], step.node.isStatement = false) = true ∧
        f.node.label.encloses next.node.field = true ∧
        f.node.label.takesParameter next.node.field = false :=
    ⟨_, _, _, _, _, rfl, rfl, rfl, rfl, rfl, rfl⟩
  have hsite : call ∈ inArrow.callSites := by
    rw [hsites]
    simp
  have hcrosses : call.trail.Crosses f next :=
    ⟨⟨call.trail.take 3, [], by rw [← htrail, List.take_append_drop], of_decide_eq_true hnone⟩,
      hencloses⟩
  obtain ⟨output, outcome, stored, hrun, -, halone⟩ :=
    rewriteProgram_crosses_parameters .standard ⟨"index.js"⟩ inArrow ⟨[]⟩ hprogram
  exact ⟨hprogram, call, hsite, hrole, output, outcome, stored, hrun,
    halone call hsite ⟨"app", 2⟩ f next hrole hcrosses hother⟩

/-- The registration of a router as the default value of a parameter of a
constructor. -/
def inConstructor : Tree Node :=
  withApplication (.ofLabel .classDeclaration
    [(namedNode ⟨"A", 2⟩).fill .name,
     Tree.fill (.ofLabel .constructorMember
      [Tree.fill (.ofLabel (.propertyName "constructor") []) .key,
       Tree.fill (.ofLabel .parameter [Tree.fill (.ofLabel .assignmentPattern
        [(namedNode ⟨"x", 3⟩).fill .left, (registrationNode ⟨"app", 2⟩).fill .right])
          .pattern]) .parameters,
       (blockNode []).fill .body]) .members])

/-- The constructor is crossed: the class is replaced by the unit. -/
theorem constructor_parameter_crossed :
    inConstructor.IsSyntax ∧
    (rewriteProgram .standard ⟨"index.js"⟩ inConstructor ⟨[]⟩).2.1 =
      ⟨⟨"index.js"⟩, some "./router", [], []⟩ ∧
    ∃ hit f next, (Job.ofProgram .standard ⟨"index.js"⟩ inConstructor).IsFirstCandidate
        inConstructor.callSites hit ∧
      hit.site.trail.Crosses f next ∧ f.node.label = .constructorMember := by
  obtain ⟨factory, call, required, f, next, pattern, last, hsites, hfactory, hrole, hpath,
      hstands, htrail, hnone, hencloses, hlabel⟩ :
      ∃ (factory call required : Site) (f next pattern last : Step),
        inConstructor.callSites = [factory, call, required] ∧
        (Scope.ofProgram inConstructor).callRole factory.call = .factory ∧
        (Scope.ofProgram inConstructor).callRole call.call = .router ⟨"app", 2⟩ ∧
        (Scope.ofProgram inConstructor).modulePath? call.call = some "./router" ∧
        decide call.trail.StandsInStatement = true ∧
        call.trail.drop 2 = [f, next, pattern, last] ∧
        decide (∀ step ∈ [f, next, pattern, last], step.node.isStatement = false) = true ∧
        f.node.label.encloses next.node.field = true ∧ f.node.label = .constructorMember :=
    ⟨_, _, _, _, _, _, _, rfl, rfl, rfl, rfl, rfl, rfl, rfl, rfl, rfl⟩
  obtain ⟨houtcome, hfirst⟩ := rewriteProgram_behind_factory .standard ⟨"index.js"⟩ inConstructor
    ⟨[]⟩ hsites hfactory hrole hpath (of_decide_eq_true hstands) (by decide) (by decide)
    (isReadAs_standard "app")
  have hcrosses : call.trail.Crosses f next :=
    ⟨⟨call.trail.take 2, [pattern, last], by rw [← htrail, List.take_append_drop],
      of_decide_eq_true hnone⟩, hencloses⟩
  have hprogram : inConstructor.IsSyntax := by decide +kernel
  exact ⟨hprogram, houtcome, _, f, next, hfirst, hcrosses, hlabel⟩

end HotReload
