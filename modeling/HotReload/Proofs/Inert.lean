/-
# Registrations that nothing comes of

A registration of a router is left behind without a rewrite if it has no module path, does
not stand in a statement of its function, has a unit that is no script, or is visited after
the rewrite. Whatever number of such registrations a program has, and however they are
nested, it is rewritten as if each of them were a call of some other method: with their
properties renamed the router, the models and the sessions are the same, the failures are
the other failures in their order, and the output is the output with those properties
renamed that are still there (`rewriteProgram_renameMethods`).

Key definitions: `Tree.renameMethods`, `Site.methodAddress`, `Job.PerformsNoRewrite`,
`Job.failuresAt`.
Key theorems: `Job.performsNoRewrite_iff`, `rewriteProgram_renameMethods`.
-/
import HotReload.Proofs.Correspondence
import HotReload.Proofs.Slots

namespace HotReload

open List (Forall₂)

/-! ### Renaming the methods of calls -/

/-- The node with the new name of its address, if it is the name of a property and the
address has a new name. -/
def Node.renameMethod (names : List Nat → Option String) (address : List Nat) (n : Node) : Node :=
  match names address, n.label with
  | some name, .propertyName _ => { n with label := .propertyName name }
  | _, _ => n

/-- The tree with new names for the properties at the addresses that have one. -/
def Tree.renameMethods (names : List Nat → Option String) (t : Tree Node) : Tree Node :=
  t.mapAt (Node.renameMethod names)

/-- The address of the property of what a call calls. -/
def Site.methodAddress (site : Site) : List Nat :=
  site.trail.address ++ site.call.addressOf [.callee, .property]

namespace Node

variable {names : List Nat → Option String} {address : List Nat}

theorem renameMethod_of_none (h : names address = none) (n : Node) :
    n.renameMethod names address = n := by
  simp only [renameMethod, h]

theorem renameMethod_of_some {name method : String} {n : Node} (h : names address = some name)
    (hn : n.label = .propertyName method) :
    (n.renameMethod names address).label = .propertyName name := by
  simp only [renameMethod, h, hn]

theorem keepsShape_renameMethod (names : List Nat → Option String) :
    KeepsShape fun address n => n.renameMethod names address := by
  have hcases : ∀ address (n : Node), n.renameMethod names address = n ∨
      ∃ old new, n.label = .propertyName old ∧
        n.renameMethod names address = { n with label := .propertyName new } := by
    intro address n
    unfold renameMethod
    split
    · rename_i name old _ hlabel
      exact Or.inr ⟨old, name, hlabel, rfl⟩
    · exact Or.inl rfl
  constructor
  · intro address n
    rcases hcases address n with h | ⟨old, new, -, h⟩ <;> rw [h]
  · intro address n
    rcases hcases address n with h | ⟨old, new, -, h⟩ <;> rw [h]
  · intro address n
    rcases hcases address n with h | ⟨old, new, hlabel, h⟩
    · rw [h]
    · rw [h, hlabel]
      rfl

/-- Strings are not renamed. -/
theorem stringValue?_renameMethod (names : List Nat → Option String) (t : Tree Node)
    (start : List Nat) :
    (t.mapAt fun p n => n.renameMethod names (start ++ p)).stringValue? = t.stringValue? := by
  obtain ⟨⟨field, label, context, span⟩, kids⟩ := t
  show Tree.stringValue? ⟨Node.renameMethod names (start ++ []) ⟨field, label, context, span⟩, _⟩ =
    Tree.stringValue? ⟨⟨field, label, context, span⟩, _⟩
  unfold renameMethod
  split
  · rename_i hlabel
    obtain rfl : label = _ := hlabel
    rfl
  · rfl

theorem requiredModule?_renameMethod (names : List Nat → Option String) (t : Tree Node)
    (start : List Nat) :
    (t.mapAt fun p n => n.renameMethod names (start ++ p)).requiredModule? =
      t.requiredModule? := by
  apply ((keepsShape_renameMethod names).below start).requiredModule?_mapAt
  intro value _
  have hvalue := stringValue?_renameMethod names value
    (start ++ t.addressOf [.arguments, .expression])
  simp only [List.append_assoc] at hvalue
  exact hvalue

end Node

/-- A renamed program says of its names what it did. -/
theorem Job.ofProgram_renameMethods (options : Options) (file : FileIdentity)
    (program : Tree Node) (names : List Nat → Option String) :
    Job.ofProgram options file (program.renameMethods names) =
      Job.ofProgram options file program := by
  have hscope := (Node.keepsShape_renameMethod names).ofProgram_mapAt program
    (fun address t _ _ => Node.stringValue?_renameMethod names t address)
    (fun address t _ _ => Node.requiredModule?_renameMethod names t address)
  unfold Job.ofProgram Tree.renameMethods
  rw [hscope]

/-- Replacing a statement and renaming around it are one after the other in either
order. -/
theorem Tree.renameMethods_replaceAt (t u : Tree Node) (address : List Nat)
    (names : List Nat → Option String) :
    ((t.replaceAt address u).renameMethods fun other =>
        if address <+: other then none else names other) =
      (t.renameMethods names).replaceAt address u := by
  apply Tree.replaceAt_mapAt
  · intro q n
    exact Node.renameMethod_of_none (if_pos (List.prefix_append address q)) n
  · intro other n houtside
    simp only [Node.renameMethod, if_neg houtside]

/-! ### Calls at their addresses -/

namespace Tree

variable {program : Tree Node} {before before' later later' : List Site} {a b : Site}

/-- The calls of a program split in one way only at a call of a given address. -/
theorem split_unique_of_address (ha : program.callSites = before ++ a :: later)
    (hb : program.callSites = before' ++ b :: later')
    (haddress : a.trail.address = b.trail.address) : before = before' ∧ a = b := by
  have hpairwise := program.pairwise_address_callSites
  rcases split_cases (ha.symm.trans hb) with ⟨between, rfl⟩ | ⟨hbefore, hab, -⟩ | ⟨between, rfl⟩
  · rw [hb, List.pairwise_append] at hpairwise
    exact absurd haddress (hpairwise.2.2 a (by simp) b (by simp))
  · exact ⟨hbefore, hab⟩
  · rw [ha, List.pairwise_append] at hpairwise
    exact absurd haddress.symm (hpairwise.2.2 b (by simp) a (by simp))

/-- Two calls of a program whose methods have one address are one call, met once. -/
theorem split_unique_of_methodAddress (ha : program.callSites = before ++ a :: later)
    (hb : program.callSites = before' ++ b :: later')
    (haddress : a.methodAddress = b.methodAddress) : before = before' ∧ a = b := by
  have hlength : (a.call.addressOf [.callee, .property]).length =
      (b.call.addressOf [.callee, .property]).length := by
    rw [length_addressOf, length_addressOf]
  exact split_unique_of_address ha hb (List.append_inj' haddress hlength).1

end Tree

/-! ### What performs no rewrite -/

namespace Job

variable {job : Job} {before later : List Site} {site : Site}

/-- The registration of a router, visited after the calls `before`, performs no rewrite: it
has no module path, it does not stand in a statement of its function (there is none, or the
last one lies outside of the last function), its unit is no script, or there was a
candidate before it. -/
inductive PerformsNoRewrite (job : Job) (before : List Site) (site : Site) : Prop where
  | unresolved (h : job.scope.modulePath? site.call = none)
  | outside (h : ¬ site.trail.StandsInStatement)
  | unparsable (app : Ident) (router : String) (fault : Script.Fault)
      (hrole : job.scope.callRole site.call = .router app)
      (hpath : job.scope.modulePath? site.call = some router)
      (hfault : (job.unitFor app router (job.modelsOf before)).adopted app = .error fault)
  | late (h : ¬ job.NoCandidate [] before)

/-- **The reasons are all there are.** The registration of a router performs no rewrite
exactly if it is not the first candidate. -/
theorem performsNoRewrite_iff {app : Ident} {sites : List Site}
    (hsplit : sites = before ++ site :: later)
    (hrole : job.scope.callRole site.call = .router app) : job.PerformsNoRewrite before site ↔
      ∀ hit, job.IsFirstCandidate sites hit → ¬ (hit.before = before ∧ hit.site = site) := by
  constructor
  · rintro hnone hit hfirst ⟨rfl, rfl⟩
    have hcandidate := hfirst.candidate
    cases hnone with
    | unresolved h =>
      have hpath := hcandidate.path
      rw [h] at hpath
      cases hpath
    | outside h => exact h hcandidate.stands
    | unparsable app' router fault hrole' hpath hfault =>
      obtain rfl : app' = hit.app := Role.router.inj (hrole'.symm.trans hcandidate.role)
      obtain rfl : router = hit.router := Option.some.inj (hpath.symm.trans hcandidate.path)
      cases hfault.symm.trans hcandidate.parses
    | late h => exact h hfirst.first
  · intro hnot
    cases hpath : job.scope.modulePath? site.call with
    | none => exact .unresolved hpath
    | some router =>
      by_cases hstands : site.trail.StandsInStatement
      · cases hread : (job.unitFor app router (job.modelsOf before)).adopted app with
        | error fault => exact .unparsable app router fault hrole hpath hread
        | ok unit =>
          refine .late fun hno => ?_
          have hcandidate : job.IsCandidate ⟨before, site, app, router, unit⟩ :=
            ⟨hrole, hpath, hstands, hread⟩
          exact hnot _ ⟨⟨later, hsplit⟩, hcandidate, hno⟩ ⟨rfl, rfl⟩
      · exact .outside hstands

/-- What goes wrong at the given calls, with the calls, in order, after the calls
`before`. -/
def failuresAt (job : Job) : List Site → List Site → List (Site × Failure)
  | _, [] => []
  | before, site :: sites =>
    ((job.failure? before site).map fun f => (site, f)).toList ++
      failuresAt job (before ++ [site]) sites

theorem map_failuresAt (before sites : List Site) :
    (job.failuresAt before sites).map Prod.snd = job.failuresOf before sites := by
  induction sites generalizing before with
  | nil => rfl
  | cons site sites ih =>
    rw [failuresAt, failuresOf, List.map_append, ih]
    cases job.failure? before site <;> rfl

theorem failuresAt_append (before sites more : List Site) :
    job.failuresAt before (sites ++ more) =
      job.failuresAt before sites ++ job.failuresAt (before ++ sites) more := by
  induction sites generalizing before with
  | nil => simp [failuresAt]
  | cons site sites ih => simp [failuresAt, ih]

/-- Nothing goes wrong at the first candidate. -/
theorem IsFirstCandidate.failuresAt_met {sites : List Site} {hit : Hit}
    (h : job.IsFirstCandidate sites hit) :
    job.failuresAt [] (hit.before ++ [hit.site]) = job.failuresAt [] hit.before := by
  rw [failuresAt_append, List.nil_append, failuresAt, failuresAt, h.candidate.failure?_eq_none]
  simp

/-! ### Searches on renamed calls -/

/-- The call `b` is the call `a` in a renamed program. If its method is renamed it
registers nothing, and otherwise it does what it did. -/
structure Renames (job : Job) (names : List Nat → Option String) (a b : Site) : Prop where
  trail : a.trail.Alike b.trail
  path : job.scope.modulePath? b.call = job.scope.modulePath? a.call
  kept : names a.methodAddress = none → job.scope.callRole b.call = job.scope.callRole a.call
  renamed : names a.methodAddress ≠ none →
    (∃ app, job.scope.callRole a.call = .router app) ∧ job.scope.callRole b.call = .other

namespace Renames

variable {names : List Nat → Option String} {a b : Site} {before' sites sites' : List Site}

theorem model?_eq (h : job.Renames names a b) : job.model? b = job.model? a := by
  by_cases hname : names a.methodAddress = none
  · unfold model?
    rw [h.kept hname, h.path]
  · obtain ⟨⟨app, ha⟩, hb⟩ := h.renamed hname
    simp only [model?, ha, hb]

theorem modelsOf_eq (h : Forall₂ (job.Renames names) before before') :
    job.modelsOf before' = job.modelsOf before := by
  unfold modelsOf
  induction h with
  | nil => rfl
  | cons hab _ ih => rw [List.filterMap_cons, List.filterMap_cons, hab.model?_eq, ih]

/-- A renamed call is a candidate only if the call was one. -/
theorem hit?_eq_none (hbefore : Forall₂ (job.Renames names) before before')
    (h : job.Renames names a b) (ha : job.hit? before a = none) : job.hit? before' b = none := by
  rw [hit?_eq_none_iff] at ha ⊢
  intro app router unit hb
  by_cases hname : names a.methodAddress = none
  · apply ha app router unit
    refine ⟨?_, ?_, h.trail.standsInStatement_iff.mpr hb.stands, ?_⟩
    · rw [← h.kept hname]
      exact hb.role
    · rw [← h.path]
      exact hb.path
    · rw [← modelsOf_eq hbefore]
      exact hb.parses
  · have hother := (h.renamed hname).2
    rw [hb.role] at hother
    cases hother

theorem isCandidate {hit : Hit} (hbefore : Forall₂ (job.Renames names) hit.before before')
    (h : job.Renames names hit.site b) (hname : names hit.site.methodAddress = none)
    (hhit : job.IsCandidate hit) : job.IsCandidate { hit with before := before', site := b } := by
  refine ⟨?_, ?_, h.trail.standsInStatement_iff.mp hhit.stands, ?_⟩
  · rw [h.kept hname]
    exact hhit.role
  · rw [h.path]
    exact hhit.path
  · rw [modelsOf_eq hbefore]
    exact hhit.parses

theorem failure?_eq (hbefore : Forall₂ (job.Renames names) before before')
    (h : job.Renames names a b) : job.failure? before' b =
      if names a.methodAddress = none then job.failure? before a else none := by
  by_cases hname : names a.methodAddress = none
  · rw [if_pos hname]
    unfold failure?
    rw [h.kept hname, h.path, modelsOf_eq hbefore]
    simp only [h.trail.standsInStatement_iff]
  · rw [if_neg hname]
    simp only [failure?, (h.renamed hname).2]

/-- Of the failures at the calls, those at the calls that are not renamed remain. -/
theorem failuresOf_eq (hbefore : Forall₂ (job.Renames names) before before')
    (h : Forall₂ (job.Renames names) sites sites') : job.failuresOf before' sites' =
      ((job.failuresAt before sites).filter
        fun entry => (names entry.1.methodAddress).isNone).map Prod.snd := by
  induction h generalizing before before' with
  | nil => rfl
  | @cons a b sites sites' hab hsites ih =>
    have hrest := ih (List.rel_append hbefore (.cons hab .nil))
    rw [failuresOf, failuresAt, List.filter_append, List.map_append, hrest,
      hab.failure?_eq hbefore]
    congr 1
    by_cases hname : names a.methodAddress = none
    · rw [if_pos hname]
      cases job.failure? before a <;> simp [hname]
    · rw [if_neg hname]
      cases job.failure? before a <;> simp [hname]

end Renames

end Job

/-! ### Rewriting a renamed program -/

section

variable {options : Options} {file : FileIdentity} {program : Tree Node}
  {names : List Nat → Option String}

/-- The calls of a renamed program are renamed calls, if only registrations of routers are
renamed, and to names that register nothing. -/
theorem Job.forall₂_renames
    (hnames : ∀ address name, names address = some name →
      name ≠ routerMethod ∧ name ≠ modelMethod ∧
      ∃ before site later app, program.callSites = before ++ site :: later ∧
        site.methodAddress = address ∧
        (Scope.ofProgram program).callRole site.call = .router app) :
    Forall₂ ((Job.ofProgram options file program).Renames names) program.callSites
      (program.renameMethods names).callSites := by
  have hshape := Node.keepsShape_renameMethod names
  have hchanged := (List.forall₂_and_left program.callSites _).mpr
    ⟨fun a ha => ha, Tree.forall₂_callSites_mapAt hshape program⟩
  refine hchanged.imp ?_
  rintro a b ⟨ha, htrail, hcall⟩
  have hbelow := hshape.below a.trail.address
  refine ⟨htrail, ?_, fun hname => ?_, fun hname => ?_⟩
  · rw [hcall]
    apply hbelow.modulePath?_mapAt
    intro value _
    have hvalue := Node.requiredModule?_renameMethod names value
      (a.trail.address ++ a.call.addressOf [.arguments, .expression])
    simp only [List.append_assoc] at hvalue
    exact hvalue
  · rw [hcall]
    apply hbelow.callRole_mapAt
    intro property _
    exact congrArg Node.label (Node.renameMethod_of_none hname property.root)
  · obtain ⟨name, hsome⟩ := Option.ne_none_iff_exists'.mp hname
    obtain ⟨hrouter, hmodel, before, site, later, app, hsplit, haddress, hrole⟩ :=
      hnames _ name hsome
    obtain ⟨before', later', hsplit'⟩ := List.append_of_mem ha
    obtain ⟨-, rfl⟩ := Tree.split_unique_of_methodAddress hsplit hsplit' haddress
    obtain ⟨hregisters, happ⟩ := Scope.callRole_eq_router_iff.mp hrole
    refine ⟨⟨app, hrole⟩, ?_⟩
    have hother : b.call.RegistersOn name app := by
      rw [hcall]
      apply hbelow.registersOn_mapAt site.call hregisters
      intro property hproperty
      obtain ⟨member, -, property', hcallee, -, -, -, hproperty', hmethod⟩ := hregisters
      obtain rfl : property' = property := Option.some.inj
        ((Tree.descend?_pair.mpr ⟨member, hcallee, hproperty'⟩).symm.trans hproperty)
      exact Node.renameMethod_of_some hsome hmethod
    rw [Job.ofProgram, Scope.callRole_of_registersOn hother happ]
    simp [hrouter, hmodel]

/-- The first candidate keeps its method, if only calls that perform no rewrite are
renamed. -/
theorem Job.IsFirstCandidate.method_kept {job : Job} {hit : Hit}
    (hfirst : job.IsFirstCandidate program.callSites hit)
    (hnames : ∀ address name, names address = some name →
      ∃ before site later app, program.callSites = before ++ site :: later ∧
        site.methodAddress = address ∧ job.scope.callRole site.call = .router app ∧
        job.PerformsNoRewrite before site) :
    names hit.site.methodAddress = none := by
  by_contra hname
  obtain ⟨name, hsome⟩ := Option.ne_none_iff_exists'.mp hname
  obtain ⟨before, site, later, app, hsplit, haddress, hrole, hnone⟩ := hnames _ name hsome
  obtain ⟨later', hsplit'⟩ := hfirst.split
  have hsame := Tree.split_unique_of_methodAddress hsplit' hsplit haddress.symm
  exact (Job.performsNoRewrite_iff hsplit hrole).mp hnone hit hfirst hsame

end

variable (options : Options) (file : FileIdentity) (program : Tree Node) (sessions : Sessions)

/-- **Registrations that perform no rewrite are inert.** Give new names, other than those
of the registering methods, to the properties of any registrations of routers that perform
no rewrite. Then the router, the models and all sessions are those of the program, the
failures are those of the calls that kept their names, in order, and the output is that of
the program with the properties renamed that are not in the statement that is replaced. -/
theorem rewriteProgram_renameMethods (names : List Nat → Option String)
    (hnames : ∀ address name, names address = some name →
      name ≠ routerMethod ∧ name ≠ modelMethod ∧
      ∃ before site later app, program.callSites = before ++ site :: later ∧
        site.methodAddress = address ∧
        (Scope.ofProgram program).callRole site.call = .router app ∧
        (Job.ofProgram options file program).PerformsNoRewrite before site) :
    ∃ output outcome stored renamed met later,
      rewriteProgram options file program sessions = (output, outcome, stored) ∧
      program.callSites = met ++ later ∧
      (Job.ofProgram options file program).Meets program.callSites met ∧
      outcome.failures =
        ((Job.ofProgram options file program).failuresAt [] met).map Prod.snd ∧
      rewriteProgram options file (program.renameMethods names) sessions =
        (renamed,
          { outcome with failures :=
              (((Job.ofProgram options file program).failuresAt [] met).filter
                fun entry => (names entry.1.methodAddress).isNone).map Prod.snd },
          stored) ∧
      ((Job.ofProgram options file program).NoCandidate [] program.callSites →
        renamed = output.renameMethods names) ∧
      ∀ hit, (Job.ofProgram options file program).IsFirstCandidate program.callSites hit →
        renamed = output.renameMethods fun address =>
          if (Trail.toStatement hit.site.trail).address <+: address then none
          else names address := by
  obtain ⟨job, hjob⟩ : ∃ job, job = Job.ofProgram options file program := ⟨_, rfl⟩
  have hscope : Scope.ofProgram program = job.scope := by rw [hjob, Job.ofProgram]
  have hrenamed := Job.ofProgram_renameMethods options file program names
  have hsites : Forall₂ (job.Renames names) program.callSites
      (program.renameMethods names).callSites := by
    rw [hjob]
    apply Job.forall₂_renames
    intro address name hname
    obtain ⟨hrouter, hmodel, before, site, later, app, hsplit, haddress, hrole, -⟩ :=
      hnames address name hname
    exact ⟨hrouter, hmodel, before, site, later, app, hsplit, haddress, hrole⟩
  rw [← hjob] at hrenamed hnames ⊢
  cases hhit : job.firstHit [] program.callSites with
  | none =>
    have hno := Job.firstHit_eq_none_iff.mp hhit
    have hno' : job.NoCandidate [] (program.renameMethods names).callSites :=
      Job.noCandidate_of_forall₂ (fun _ _ _ _ => Job.Renames.hit?_eq_none) .nil hsites hno
    have hrun := Job.rewriteProgram_eq_of_noCandidate sessions hjob.symm hno
    have hrun' := Job.rewriteProgram_eq_of_noCandidate sessions hrenamed hno'
    rw [Job.Renames.modelsOf_eq hsites, Job.Renames.failuresOf_eq .nil hsites] at hrun'
    refine ⟨_, _, _, _, _, [], hrun, by simp, .all hno rfl, ?_, hrun', fun _ => rfl, ?_⟩
    · exact (Job.map_failuresAt [] program.callSites).symm
    · exact fun hit hfirst => absurd hno hfirst.not_noCandidate
  | some hit =>
    have hfirst := Job.firstHit_nil_eq_some_iff.mp hhit
    obtain ⟨later, hsplit⟩ := hfirst.split
    have hkept : names hit.site.methodAddress = none := by
      apply hfirst.method_kept
      intro address name hname
      rw [← hscope]
      exact (hnames address name hname).2.2
    obtain ⟨before', b, hbefore, hb, hfirst'⟩ :=
      hfirst.of_forall₂ (fun _ _ _ _ => Job.Renames.hit?_eq_none) hsites
        fun before' b hbefore hb => Job.Renames.isCandidate hbefore hb hkept hfirst.candidate
    have hrun := Job.rewriteProgram_eq_of_isFirstCandidate sessions hjob.symm hfirst
    have hrun' := Job.rewriteProgram_eq_of_isFirstCandidate sessions hrenamed hfirst'
    have haddress := hb.trail.toStatement.address
    have hfield := hb.trail.toStatement.field
    rw [Job.Renames.modelsOf_eq hbefore, Job.Renames.failuresOf_eq .nil hbefore,
      Hit.statement, ← haddress, ← hfield] at hrun'
    refine ⟨_, _, _, (program.renameMethods names).replaceAt
        (Trail.toStatement hit.site.trail).address hit.statement,
      hit.before ++ [hit.site], later, hrun, by simp [hsplit], .until hit hfirst rfl, ?_, ?_,
      fun hno => absurd hno hfirst.not_noCandidate, ?_⟩
    · rw [hfirst.failuresAt_met, Job.map_failuresAt]
    · rw [hfirst.failuresAt_met]
      exact hrun'
    · intro other hother
      obtain rfl := hfirst.unique hother
      exact (Tree.renameMethods_replaceAt program hit.statement _ names).symm

/-! ### A registration before and one after the rewrite -/

open Script HotUnit

/-- The program that registers a name that is no module, and then twice a module. -/
def registeringThrice : Tree Node :=
  programNode [constantsNode [(⟨"app", 2⟩, factoryNode)],
    statementNode (invocationNode (propertyNode (namedNode ⟨"app", 2⟩) routerMethod)
      [namedNode ⟨"pages", 2⟩]),
    statementNode (registrationNode ⟨"app", 2⟩), statementNode (registrationNode ⟨"app", 2⟩)]

/-- New names for the method of the first and the last registration. -/
def firstAndLast (address : List Nat) : Option String :=
  if address = [2, 0, 0, 1] then some "first"
  else if address = [4, 0, 0, 1] then some "last"
  else none

/-- The unit of its candidate is a script. -/
theorem exists_adopted_standard : ∃ unit, (⟨"app", "./router", Options.standard.container, [],
      Options.standard.reloadsModels⟩ : HotUnit).adopted ⟨"app", 2⟩ = .ok unit :=
  ⟨_, congrArg (Except.map _)
    (statement_of_isReadAs (isReadAs_standard "app") (by decide) (by decide))⟩

/-- The first registration fails and the last one comes after the rewrite. With both
renamed the rewrite is the same, and nothing fails. -/
theorem first_and_last_inert :
    (∀ address name, firstAndLast address = some name →
      name ≠ routerMethod ∧ name ≠ modelMethod ∧
      ∃ before site later app, registeringThrice.callSites = before ++ site :: later ∧
        site.methodAddress = address ∧
        (Scope.ofProgram registeringThrice).callRole site.call = .router app ∧
        (Job.ofProgram .standard ⟨"index.js"⟩ registeringThrice).PerformsNoRewrite before site) ∧
    (rewriteProgram .standard ⟨"index.js"⟩ registeringThrice ⟨[]⟩).2.1 =
      ⟨⟨"index.js"⟩, some "./router", [], [.unresolvedRouter ⟨"index.js"⟩]⟩ ∧
    (rewriteProgram .standard ⟨"index.js"⟩ (registeringThrice.renameMethods firstAndLast)
        ⟨[]⟩).2.1 = ⟨⟨"index.js"⟩, some "./router", [], []⟩ := by
  obtain ⟨job, hjob⟩ : ∃ job, job = Job.ofProgram .standard ⟨"index.js"⟩ registeringThrice :=
    ⟨_, rfl⟩
  have hscope : Scope.ofProgram registeringThrice = job.scope := by rw [hjob, Job.ofProgram]
  obtain ⟨factory, first, second, required, last, required', hsites, hfactory, hfirst, hsecond,
      hlast, hnopath, hpath, hstands, hfirstAddress, hlastAddress⟩ :
      ∃ factory first second required last required',
        registeringThrice.callSites = [factory, first, second, required, last, required'] ∧
        (Scope.ofProgram registeringThrice).callRole factory.call = .factory ∧
        (Scope.ofProgram registeringThrice).callRole first.call = .router ⟨"app", 2⟩ ∧
        (Scope.ofProgram registeringThrice).callRole second.call = .router ⟨"app", 2⟩ ∧
        (Scope.ofProgram registeringThrice).callRole last.call = .router ⟨"app", 2⟩ ∧
        (Scope.ofProgram registeringThrice).modulePath? first.call = none ∧
        (Scope.ofProgram registeringThrice).modulePath? second.call = some "./router" ∧
        decide second.trail.StandsInStatement = true ∧
        first.methodAddress = [2, 0, 0, 1] ∧ last.methodAddress = [4, 0, 0, 1] :=
    ⟨_, _, _, _, _, _, rfl, rfl, rfl, rfl, rfl, rfl, rfl, rfl, rfl, rfl⟩
  rw [hscope] at hfactory hfirst hsecond hlast hnopath hpath
  have hmodels : job.modelsOf [factory, first] = [] := by
    simp [Job.modelsOf, Job.model?, hfactory, hfirst]
  obtain ⟨unit, hunit⟩ := exists_adopted_standard
  have hcandidate : job.IsCandidate ⟨[factory, first], second, ⟨"app", 2⟩, "./router", unit⟩ := by
    refine ⟨hsecond, hpath, of_decide_eq_true hstands, ?_⟩
    rw [hmodels, hjob]
    exact hunit
  have hhit : job.IsFirstCandidate registeringThrice.callSites
      ⟨[factory, first], second, ⟨"app", 2⟩, "./router", unit⟩ := by
    refine ⟨⟨[required, last, required'], hsites⟩, hcandidate, Job.noCandidate_of_forall ?_⟩
    intro site hsite app hrole
    rcases List.mem_pair.mp hsite with rfl | rfl
    · cases hfactory.symm.trans hrole
    · exact hnopath
  have hnames : ∀ address name, firstAndLast address = some name →
      name ≠ routerMethod ∧ name ≠ modelMethod ∧
      ∃ before site later app, registeringThrice.callSites = before ++ site :: later ∧
        site.methodAddress = address ∧ job.scope.callRole site.call = .router app ∧
        job.PerformsNoRewrite before site := by
    intro address name hname
    unfold firstAndLast at hname
    split at hname
    · rename_i haddress
      cases hname
      refine ⟨by decide, by decide, [factory], first, _, ⟨"app", 2⟩, hsites, ?_, hfirst,
        .unresolved hnopath⟩
      rw [hfirstAddress, haddress]
    · split at hname
      · rename_i haddress
        cases hname
        refine ⟨by decide, by decide, [factory, first, second, required], last, _, ⟨"app", 2⟩,
          hsites, ?_, hlast, .late fun hno => ?_⟩
        · rw [hlastAddress, haddress]
        · exact hno [factory, first] second [required] rfl _ _ _ hcandidate
      · cases hname
  rw [hjob] at hnames
  obtain ⟨output, outcome, stored, renamed, met, later, hrun, -, hmet, -, hrenamed, -⟩ :=
    rewriteProgram_renameMethods .standard ⟨"index.js"⟩ registeringThrice ⟨[]⟩ firstAndLast hnames
  rw [← hjob] at hmet hrenamed
  have hfailures : job.failuresAt [] [factory, first] = [(first, .unresolvedRouter job.file)] := by
    simp [Job.failuresAt, Job.failure?, hfactory, hfirst, hnopath]
  have hfile : job.file = ⟨"index.js"⟩ := by rw [hjob, Job.ofProgram]
  obtain rfl : met = [factory, first] ++ [second] := by
    rcases hmet with ⟨hno, -⟩ | ⟨hit, hhit', rfl⟩
    · exact absurd hno hhit.not_noCandidate
    · rw [← hhit.unique hhit']
  rw [hhit.failuresAt_met, hfailures] at hrenamed
  have hrun' := Job.rewriteProgram_eq_of_isFirstCandidate ⟨[]⟩ hjob.symm hhit
  rw [hmodels, ← Job.map_failuresAt, hfailures, hfile] at hrun'
  rw [hrun'] at hrun
  cases hrun
  refine ⟨hnames, congrArg (·.2.1) hrun', ?_⟩
  rw [hrenamed]
  simp [hfirstAddress, firstAndLast]

end HotReload
