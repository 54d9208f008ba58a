/-
# Model paths that nobody reads

Where models are not reloaded, the text of a unit does not hold their paths. So the paths,
whatever they are, have no influence on the rewrite. Two programs that differ in nothing but
the literals that name models define the same names, their calls have the same roles, and
the registrations of routers have the same module paths; the same registration is the first
candidate in both, if any, with one unit, and the same registrations fail in the same way
(`rewriteProgram_ignores_model_paths`).

Key definitions: `Tree.IsModelPath`, `Tree.DifferInModelPaths`, `Job.Agrees`.
Key theorems: `Tree.DifferInModelPaths.exists_mapAt`, `HotUnit.source_eq_of_not_reloads`,
`rewriteProgram_ignores_model_paths`.
-/
import HotReload.Proofs.Correspondence
import HotReload.Proofs.References

namespace HotReload

open List (Forall₂)

/-! ### Programs that differ in model paths -/

namespace Tree

/-- At the address there is a literal argument of the `require` call that is the first
argument of a registration of a model. -/
structure IsModelPath (program : Tree Node) (address : List Nat) : Prop where
  exists_registration : ∃ place call app required i j,
    program.treeAt? place = some call ∧ (Scope.ofProgram program).callRole call = .model app ∧
    call.descend? [.arguments, .expression] = some required ∧ required.isRequire = true ∧
    (required.nodeAt? [i]).map Node.field = some .arguments ∧
    (required.nodeAt? [i, j]).map Node.field = some .expression ∧
    address = place ++ call.addressOf [.arguments, .expression] ++ [i, j]

/-- The programs differ in nothing but the strings that name models in the first one. -/
def DifferInModelPaths (program other : Tree Node) : Prop :=
  ∀ address, program.nodeAt? address = other.nodeAt? address ∨
    (program.IsModelPath address ∧ ∃ (n : Node) (value : String) (raw : Option String)
        (value' : String) (raw' : Option String),
      program.nodeAt? address = some { n with label := .string value raw } ∧
      other.nodeAt? address = some { n with label := .string value' raw' })

variable {program other : Tree Node} {address : List Nat}

/-- What names a model stands as an expression. -/
theorem IsModelPath.field (h : program.IsModelPath address) :
    (program.nodeAt? address).map Node.field = some .expression := by
  obtain ⟨place, call, app, required, i, j, hcall, -, hrequired, -, -, hfield, rfl⟩ :=
    h.exists_registration
  have hat : program.treeAt? (place ++ call.addressOf [.arguments, .expression]) =
      some required := by
    rw [treeAt?_append, hcall]
    exact (treeAt?_of_descend? hrequired).1
  rw [nodeAt?, treeAt?_append, hat]
  exact hfield

/-- A tree whose literal names a model is the first argument of the registration of a
model. -/
theorem IsModelPath.exists_call {literal : List Nat} (h : program.IsModelPath (address ++ literal))
    (hlength : literal.length = 2) :
    ∃ place call app required, program.treeAt? place = some call ∧
      (Scope.ofProgram program).callRole call = .model app ∧
      call.descend? [.arguments, .expression] = some required ∧
      program.treeAt? address = some required ∧
      address = place ++ call.addressOf [.arguments, .expression] := by
  obtain ⟨place, call, app, required, i, j, hcall, hrole, hrequired, -, -, -, haddress⟩ :=
    h.exists_registration
  obtain ⟨rfl, -⟩ := List.append_inj' haddress hlength
  refine ⟨place, call, app, required, hcall, hrole, hrequired, ?_, rfl⟩
  rw [treeAt?_append, hcall]
  exact (treeAt?_of_descend? hrequired).1

/-- The map changes nothing but strings that name models in the program. -/
def ChangesModelPaths (program : Tree Node) (g : List Nat → Node → Node) : Prop :=
  ∀ address n, g address n = n ∨ (program.IsModelPath address ∧ ∃ value raw value' raw',
    n.label = .string value raw ∧ g address n = { n with label := .string value' raw' })

/-- Of two programs that differ in model paths the second one is the first one with the
strings changed. -/
theorem DifferInModelPaths.exists_mapAt (h : program.DifferInModelPaths other) :
    ∃ g, program.ChangesModelPaths g ∧ other = program.mapAt g := by
  refine ⟨fun address n =>
    if program.nodeAt? address = some n then (other.nodeAt? address).getD n else n, ?_, ?_⟩
  · intro address n
    by_cases hn : program.nodeAt? address = some n
    · simp only [if_pos hn]
      rcases h address with heq | ⟨hpath, m, value, raw, value', raw', hat, hother⟩
      · rw [← heq, hn]
        exact Or.inl rfl
      · obtain rfl := Option.some.inj (hn.symm.trans hat)
        rw [hother]
        exact Or.inr ⟨hpath, value, raw, value', raw', rfl, rfl⟩
    · exact Or.inl (if_neg hn)
  · apply eq_mapAt_of_nodeAt?
    intro address
    rcases h address with heq | ⟨-, m, value, raw, value', raw', hat, hother⟩
    · rw [← heq]
      cases hn : program.nodeAt? address with
      | none => rfl
      | some n => simp
    · rw [hat, hother]
      simp

namespace ChangesModelPaths

variable {g : List Nat → Node → Node} (h : program.ChangesModelPaths g)

include h

theorem keepsShape : KeepsShape g := by
  constructor
  · intro address n
    rcases h address n with hn | ⟨-, value, raw, value', raw', -, hn⟩ <;> rw [hn]
  · intro address n
    rcases h address n with hn | ⟨-, value, raw, value', raw', -, hn⟩ <;> rw [hn]
  · intro address n
    rcases h address n with hn | ⟨-, value, raw, value', raw', hlabel, hn⟩
    · rw [hn]
    · rw [hn, hlabel]
      rfl

/-- What names no model is kept. -/
theorem eq_of_not_isModelPath (hpath : ¬ program.IsModelPath address) (n : Node) :
    g address n = n := by
  rcases h address n with hn | ⟨hmodel, -⟩
  · exact hn
  · exact absurd hmodel hpath

/-- What is no expression is kept. -/
theorem eq_of_field {n : Node} (hat : program.nodeAt? address = some n)
    (hfield : n.field ≠ .expression) : g address n = n := by
  apply h.eq_of_not_isModelPath
  intro hpath
  have hexpression := hpath.field
  rw [hat] at hexpression
  exact hfield (Option.some.inj hexpression)

/-- A tree that is not the first argument of the registration of a model requires what it
did. -/
theorem requiredModule?_eq {t : Tree Node}
    (hpath : ¬ program.IsModelPath (address ++ t.addressOf [.arguments, .expression])) :
    (t.mapAt fun p => g (address ++ p)).requiredModule? = t.requiredModule? := by
  apply (h.keepsShape.below address).requiredModule?_mapAt
  intro value _
  have hkept := h.eq_of_not_isModelPath hpath value.root
  rw [← List.append_nil (address ++ _), List.append_assoc] at hkept
  unfold stringValue? label
  rw [root_mapAt, hkept]

/-- The changed program says of its names what the program does. -/
theorem ofProgram_eq : Scope.ofProgram (program.mapAt g) = Scope.ofProgram program := by
  apply h.keepsShape.ofProgram_mapAt
  · intro address t hat hfield
    have hroot : program.nodeAt? address = some t.root := congrArg (Option.map root) hat
    have hkept := h.eq_of_field hroot (by rw [hfield]; decide)
    unfold stringValue? label
    rw [root_mapAt, List.append_nil, hkept]
  · intro address t hat hfield
    apply h.requiredModule?_eq
    intro hpath
    obtain ⟨place, call, app, required, -, -, hrequired, hsame, -⟩ :=
      hpath.exists_call (length_addressOf t _)
    obtain rfl := Option.some.inj (hat.symm.trans hsame)
    have hexpression := (treeAt?_of_descend? hrequired).2
    rw [hfield] at hexpression
    cases hexpression

/-- A changed call has the role that it had. -/
theorem callRole_eq {call : Tree Node} (hat : program.treeAt? address = some call) (s : Scope) :
    s.callRole (call.mapAt fun p => g (address ++ p)) = s.callRole call := by
  apply (h.keepsShape.below address).callRole_mapAt
  intro property hproperty
  obtain ⟨hbelow, hfield⟩ := treeAt?_of_descend? hproperty
  have hroot : program.nodeAt? (address ++ call.addressOf [.callee, .property]) =
      some property.root := by
    rw [nodeAt?, treeAt?_append, hat]
    exact congrArg (Option.map root) hbelow
  rw [h.eq_of_field hroot (by rw [hfield]; decide)]
  rfl

/-- The registration of a router has the module path that it had. -/
theorem modulePath?_eq {call : Tree Node} {app : Ident}
    (hat : program.treeAt? address = some call)
    (hrole : (Scope.ofProgram program).callRole call = .router app) (s : Scope) :
    s.modulePath? (call.mapAt fun p => g (address ++ p)) = s.modulePath? call := by
  apply (h.keepsShape.below address).modulePath?_mapAt
  intro value _
  have hrequired : ¬ program.IsModelPath (address ++ call.addressOf [.arguments, .expression] ++
      value.addressOf [.arguments, .expression]) := by
    intro hpath
    obtain ⟨place, call', app', -, hcall', hrole', -, -, haddress⟩ :=
      hpath.exists_call (length_addressOf value _)
    have hlength : (call.addressOf [.arguments, .expression]).length =
        (call'.addressOf [.arguments, .expression]).length := by
      rw [length_addressOf, length_addressOf]
    obtain ⟨rfl, -⟩ := List.append_inj' haddress hlength
    obtain rfl := Option.some.inj (hat.symm.trans hcall')
    cases hrole.symm.trans hrole'
  have hkept := h.requiredModule?_eq hrequired
  simp only [List.append_assoc] at hkept
  exact hkept

end ChangesModelPaths

end Tree

/-! ### Units without models -/

/-- Where models are not reloaded, the text of a unit is that of its router. -/
theorem HotUnit.source_eq_of_not_reloads {u : HotUnit} (h : u.reloadsModels = false) :
    u.reloaded = [] ∧ u.source = "\n(function() \x7b\n  // Generated by dva-hmr\n" ++
      routerSource u.app u.router u.container ++ "\x7d)()\n" := by
  have hreloaded : u.reloaded = [] := by
    unfold reloaded
    rw [h]
    rfl
  have hnone : String.join ([].map (modelSource u.app)) = "" := rfl
  refine ⟨hreloaded, ?_⟩
  unfold source
  rw [hreloaded, hnone, String.append_empty]

namespace Job

variable {job : Job}

/-- Where models are not reloaded, a unit is read without regard to them. -/
theorem adopted_unitFor (h : job.options.disableModel = true) (app : Ident) (router : String)
    (models models' : List String) : (job.unitFor app router models).adopted app =
      (job.unitFor app router models').adopted app := by
  have hreloads : job.options.reloadsModels = false := by
    unfold Options.reloadsModels
    rw [h]
    rfl
  have hsource := (HotUnit.source_eq_of_not_reloads (u := job.unitFor app router models) hreloads).2
  have hsource' :=
    (HotUnit.source_eq_of_not_reloads (u := job.unitFor app router models') hreloads).2
  have hsame : (job.unitFor app router models).source = (job.unitFor app router models').source :=
    hsource.trans hsource'.symm
  unfold HotUnit.adopted HotUnit.statement
  rw [hsame]

/-! ### Searches on calls that agree but for models -/

/-- The calls stand in corresponding places, have the same role and, if they register a
router, the same module path. -/
structure Agrees (job : Job) (a b : Site) : Prop where
  trail : a.trail.Alike b.trail
  role : job.scope.callRole b.call = job.scope.callRole a.call
  path : ∀ app, job.scope.callRole a.call = .router app →
    job.scope.modulePath? b.call = job.scope.modulePath? a.call

namespace Agrees

variable {a b : Site} {before before' sites sites' : List Site}
  (hdisabled : job.options.disableModel = true)

include hdisabled

theorem isCandidate (h : job.Agrees a b) {app : Ident} {router : String} {unit : Tree Node}
    (ha : job.IsCandidate ⟨before, a, app, router, unit⟩) :
    job.IsCandidate ⟨before', b, app, router, unit⟩ := by
  refine ⟨?_, ?_, h.trail.standsInStatement_iff.mp ha.stands, ?_⟩
  · rw [h.role]
    exact ha.role
  · rw [h.path app ha.role]
    exact ha.path
  · rw [adopted_unitFor hdisabled app router _ (job.modelsOf before)]
    exact ha.parses

theorem hit?_eq_none (h : job.Agrees a b) (ha : job.hit? before a = none) :
    job.hit? before' b = none := by
  rw [hit?_eq_none_iff] at ha ⊢
  intro app router unit hb
  apply ha app router unit
  have hrole : job.scope.callRole a.call = .router app := h.role.symm.trans hb.role
  refine ⟨hrole, ?_, h.trail.standsInStatement_iff.mpr hb.stands, ?_⟩
  · rw [← h.path app hrole]
    exact hb.path
  · rw [adopted_unitFor hdisabled app router _ (job.modelsOf before')]
    exact hb.parses

theorem failure?_eq (h : job.Agrees a b) : job.failure? before' b = job.failure? before a := by
  unfold failure?
  rw [h.role]
  cases hrole : job.scope.callRole a.call with
  | router app =>
    simp only [h.path app hrole, h.trail.standsInStatement_iff,
      adopted_unitFor hdisabled app _ (job.modelsOf before') (job.modelsOf before)]
  | _ => rfl

theorem failuresOf_eq (h : Forall₂ job.Agrees sites sites') :
    job.failuresOf before' sites' = job.failuresOf before sites := by
  induction h generalizing before before' with
  | nil => rfl
  | cons hab _ ih => rw [failuresOf, failuresOf, hab.failure?_eq hdisabled, ih]

end Agrees

end Job

/-- The calls of two programs that differ in model paths agree but for the models. -/
theorem Tree.ChangesModelPaths.forall₂_agrees {program : Tree Node} {g : List Nat → Node → Node}
    (h : program.ChangesModelPaths g) {job : Job} (hscope : job.scope = Scope.ofProgram program) :
    Forall₂ job.Agrees program.callSites (program.mapAt g).callSites := by
  have hchanged := (List.forall₂_and_left program.callSites _).mpr
    ⟨fun a ha => ha, forall₂_callSites_mapAt h.keepsShape program⟩
  refine hchanged.imp ?_
  rintro a b ⟨ha, htrail, hcall⟩
  have hat := treeAt?_of_mem_callSites ha
  refine ⟨htrail, ?_, fun app hrole => ?_⟩
  · rw [hcall]
    exact h.callRole_eq hat job.scope
  · rw [hcall]
    rw [hscope] at hrole ⊢
    exact h.modulePath?_eq hat hrole _

/-! ### Rewriting without models -/

/-- Two trees with the same tree put in at a place are alike at an address, or there they
are what they were. -/
theorem Tree.nodeAt?_replaceAt_cases {t t' u : Tree Node} {place : List Nat}
    (ht : (t.nodeAt? place).isSome) (ht' : (t'.nodeAt? place).isSome) (address : List Nat) :
    (t.replaceAt place u).nodeAt? address = (t'.replaceAt place u).nodeAt? address ∨
      ((t.replaceAt place u).nodeAt? address = t.nodeAt? address ∧
        (t'.replaceAt place u).nodeAt? address = t'.nodeAt? address) := by
  by_cases hbelow : place <+: address
  · obtain ⟨more, rfl⟩ := hbelow
    rw [nodeAt?, nodeAt?, treeAt?_append, treeAt?_append, treeAt?_replaceAt_self ht,
      treeAt?_replaceAt_self ht']
    exact Or.inl rfl
  · exact Or.inr ⟨nodeAt?_replaceAt t place u hbelow, nodeAt?_replaceAt t' place u hbelow⟩

/-- The unit is made from the text for the router of the application alone. It has no block
for a model, if its slots are read as literals. -/
structure HotUnit.OmitsModels (u : HotUnit) (app : Ident) (router container : String)
    (unit : Tree Node) : Prop where
  adopted : u.adopted app = .ok unit
  reloaded : u.reloaded = []
  source : u.source = "\n(function() \x7b\n  // Generated by dva-hmr\n" ++
    routerSource app.name router container ++ "\x7d)()\n"
  blocks : Script.isVariableName app.name = true → ∀ literals, u.IsReadAs literals →
    unit.invokedBlocks = []

/-- Where models are not reloaded, the unit of a candidate omits them. -/
theorem Job.IsCandidate.omitsModels {job : Job} {hit : Hit} (h : job.IsCandidate hit)
    (hdisabled : job.options.disableModel = true) :
    (job.unitFor hit.app hit.router (job.modelsOf hit.before)).OmitsModels hit.app hit.router
      job.options.container hit.unit := by
  have hreloads : (job.unitFor hit.app hit.router (job.modelsOf hit.before)).reloadsModels =
      false := by
    show (!job.options.disableModel) = false
    rw [hdisabled]
    rfl
  obtain ⟨hreloaded, hsource⟩ := HotUnit.source_eq_of_not_reloads hreloads
  refine ⟨h.parses, hreloaded, hsource, fun hname literals hread => ?_⟩
  have hmodels := hread.models
  rw [hreloaded] at hmodels
  have hblocks := (HotUnit.carries_of_isReadAs rfl hname h.parses hread).blocks
  rw [List.forall₂_nil_left_iff.mp hmodels, List.map_nil] at hblocks
  exact List.forall₂_nil_right_iff.mp hblocks

variable (options : Options) (file : FileIdentity) (program other : Tree Node)
  (sessions : Sessions)

/-- **Without reloading of models their paths have no influence.** Two programs that differ
in model paths are both left as they are, or the statement at the same address is replaced
in both by the same unit, made from the text of a router alone. The router and the failures
are the same, and the outputs differ only where the programs do. -/
theorem rewriteProgram_ignores_model_paths (hdisabled : options.disableModel = true)
    (hdiffer : program.DifferInModelPaths other) :
    ∃ output outcome stored output' outcome' stored',
      rewriteProgram options file program sessions = (output, outcome, stored) ∧
      rewriteProgram options file other sessions = (output', outcome', stored') ∧
      outcome'.router = outcome.router ∧ outcome'.failures = outcome.failures ∧
      (stored'.get file).rewritten = (stored.get file).rewritten ∧
      (outcome.router = none → output = program ∧ output' = other) ∧
      (∀ router, outcome.router = some router →
        ∃ (address : List Nat) (field : Field) (app : Ident) (u : HotUnit) (unit : Tree Node),
          (program.nodeAt? address).map Node.isStatement = some true ∧
          (other.nodeAt? address).map Node.isStatement = some true ∧
          output = program.replaceAt address (unit.fill field) ∧
          output' = other.replaceAt address (unit.fill field) ∧
          u.OmitsModels app router options.container unit) ∧
      ∀ address, output.nodeAt? address = output'.nodeAt? address ∨
        (program.IsModelPath address ∧ output.nodeAt? address = program.nodeAt? address ∧
          output'.nodeAt? address = other.nodeAt? address) := by
  have hinputs : ∀ address, program.nodeAt? address = other.nodeAt? address ∨
      program.IsModelPath address := fun address => (hdiffer address).imp_right And.left
  obtain ⟨g, hchanges, rfl⟩ := hdiffer.exists_mapAt
  obtain ⟨job, hjob⟩ : ∃ job, job = Job.ofProgram options file program := ⟨_, rfl⟩
  have hjob' : Job.ofProgram options file (program.mapAt g) = job := by
    rw [hjob, Job.ofProgram, Job.ofProgram, hchanges.ofProgram_eq]
  have hdisabled' : job.options.disableModel = true := by
    rw [hjob]
    exact hdisabled
  have hsites : Forall₂ job.Agrees program.callSites (program.mapAt g).callSites :=
    hchanges.forall₂_agrees (by rw [hjob, Job.ofProgram])
  cases hhit : job.firstHit [] program.callSites with
  | none =>
    have hno := Job.firstHit_eq_none_iff.mp hhit
    have hno' : job.NoCandidate [] (program.mapAt g).callSites :=
      Job.noCandidate_of_forall₂ (fun _ _ _ _ _ => Job.Agrees.hit?_eq_none hdisabled') .nil
        hsites hno
    refine ⟨_, _, _, _, _, _, Job.rewriteProgram_eq_of_noCandidate sessions hjob.symm hno,
      Job.rewriteProgram_eq_of_noCandidate sessions hjob' hno', rfl, Job.Agrees.failuresOf_eq hdisabled' hsites, ?_,
      fun _ => ⟨rfl, rfl⟩, ?_, fun address => ?_⟩
    · rw [Sessions.get_set_self, Sessions.get_set_self]
    · intro router hrouter
      cases hrouter
    · exact (hinputs address).imp_right fun hpath => ⟨hpath, rfl, rfl⟩
  | some hit =>
    have hfirst := Job.firstHit_nil_eq_some_iff.mp hhit
    obtain ⟨before', b, hbefore, hb, hfirst'⟩ :=
      hfirst.of_forall₂ (fun _ _ _ _ _ => Job.Agrees.hit?_eq_none hdisabled') hsites
        fun before' b _ hb => hb.isCandidate hdisabled' hfirst.candidate
    have hrun' := Job.rewriteProgram_eq_of_isFirstCandidate sessions hjob' hfirst'
    obtain ⟨statement, hat, hs, -⟩ := hfirst.exists_statement
    obtain ⟨statement', hat', hs', -⟩ := hfirst'.exists_statement
    have haddress := hb.trail.toStatement.address
    have hfield := hb.trail.toStatement.field
    have hnode : program.nodeAt? (Trail.toStatement hit.site.trail).address =
        some statement.root := congrArg (Option.map Tree.root) hat
    have hnode' : (program.mapAt g).nodeAt? (Trail.toStatement hit.site.trail).address =
        some statement'.root := by
      rw [haddress]
      exact congrArg (Option.map Tree.root) hat'
    rw [Hit.statement, ← haddress, ← hfield] at hrun'
    have homits := hfirst.candidate.omitsModels hdisabled'
    have hcontainer : job.options.container = options.container := by rw [hjob, Job.ofProgram]
    rw [hcontainer] at homits
    refine ⟨_, _, _, _, _, _, Job.rewriteProgram_eq_of_isFirstCandidate sessions hjob.symm hfirst,
      hrun', rfl, Job.Agrees.failuresOf_eq hdisabled' hbefore, ?_, ?_, ?_, ?_⟩
    · rw [Sessions.get_set_self, Sessions.get_set_self]
    · intro hnone
      cases hnone
    · intro router hrouter
      cases hrouter
      refine ⟨_, _, hit.app, _, hit.unit, ?_, ?_, rfl, rfl, homits⟩
      · rw [hnode, Option.map_some, hs]
      · rw [hnode', Option.map_some, hs']
    · intro address
      rcases Tree.nodeAt?_replaceAt_cases (by rw [hnode]; rfl) (by rw [hnode']; rfl) address with
        hsame | ⟨hkept, hkept'⟩
      · exact Or.inl hsame
      · refine (hinputs address).imp (fun heq => ?_) fun hpath => ⟨hpath, hkept, hkept'⟩
        exact hkept.trans (heq.trans hkept'.symm)

/-! ### A model path with a quotation mark -/

open Script HotUnit

theorem differInModelPaths_registeringModel (path path' : Literal) :
    (registeringModels [path]).DifferInModelPaths (registeringModels [path']) := by
  have hchanged : registeringModels [path'] = (registeringModels [path]).mapAt fun address n =>
      if address = [2, 0, 1, 0, 1, 0] then
        { n with label := .string path'.value (some path'.raw) }
      else n := rfl
  intro address
  rw [hchanged, Tree.nodeAt?_mapAt]
  by_cases haddress : address = [2, 0, 1, 0, 1, 0]
  · subst haddress
    refine Or.inr ⟨⟨[2, 0], _, ⟨"app", 2⟩, _, 1, 0, rfl, rfl, rfl, rfl, rfl, rfl, rfl⟩, ?_⟩
    exact ⟨⟨.expression, .null, 0, .none⟩, path.value, some path.raw, path'.value, some path'.raw,
      rfl, rfl⟩
  · simp only [if_neg haddress]
    exact Or.inl Option.map_id'.symm

/-- Where models are not reloaded, the router behind a plain model is rewritten, and nothing
goes wrong. -/
theorem rewriteProgram_registeringModel :
    (rewriteProgram ⟨false, "#root", true⟩ ⟨"index.js"⟩ (registeringModels [quoted "./model"])
      ⟨[]⟩).2.1 = ⟨⟨"index.js"⟩, some "./router", ["./model"], []⟩ := by
  obtain ⟨program, hprogram⟩ : ∃ program, program = registeringModels [quoted "./model"] :=
    ⟨_, rfl⟩
  obtain ⟨factory, model, required, call, required', hsites, hroles, hmodels, hrole, hpath,
      hstands⟩ :
      ∃ (factory model required call required' : Site),
        program.callSites = [factory, model, required] ++ call :: [required'] ∧
        [factory, model, required].map (fun site => (Scope.ofProgram program).callRole site.call) =
          [.factory, .model ⟨"app", 2⟩, .other] ∧
        (Job.ofProgram ⟨false, "#root", true⟩ ⟨"index.js"⟩ program).modelsOf
          [factory, model, required] = ["./model"] ∧
        (Scope.ofProgram program).callRole call.call = .router ⟨"app", 2⟩ ∧
        (Scope.ofProgram program).modulePath? call.call = some "./router" ∧
        decide call.trail.StandsInStatement = true := by
    rw [hprogram]
    exact ⟨_, _, _, _, _, rfl, rfl, rfl, rfl, rfl, rfl⟩
  rw [← hprogram]
  have hread : IsReadAs ⟨"app", "./router", "#root", ["./model"], false⟩
      ⟨quoted "./router", quoted "#root", []⟩ :=
    ⟨readsAs_quoted (by decide), readsAs_quoted (by decide), .nil⟩
  exact (rewriteProgram_for_first_router ⟨false, "#root", true⟩ ⟨"index.js"⟩ program ⟨[]⟩ hsites
    hroles (by simp) hmodels hrole hpath (of_decide_eq_true hstands) (by decide) (by decide)
    hread).1

/-- The path of a model in double quotation marks, with an apostrophe in it. -/
def apostrophe : Literal := ⟨"./it's", "\x22./it's\x22"⟩

/-- The apostrophe would end the string in a unit that holds the path. Where models are not
reloaded, the router is registered all the same. -/
theorem apostrophe_ignored :
    (⟨false, "#root", true⟩ : Options).disableModel = true ∧
    (registeringModels [quoted "./model"]).DifferInModelPaths (registeringModels [apostrophe]) ∧
    (rewriteProgram ⟨false, "#root", true⟩ ⟨"index.js"⟩ (registeringModels [apostrophe])
      ⟨[]⟩).2.1.router = some "./router" ∧
    (rewriteProgram ⟨false, "#root", true⟩ ⟨"index.js"⟩ (registeringModels [apostrophe])
      ⟨[]⟩).2.1.failures = [] := by
  have hdiffer := differInModelPaths_registeringModel (quoted "./model") apostrophe
  obtain ⟨output, outcome, stored, output', outcome', stored', hrun, hrun', hrouter, hfailures, -⟩ :=
    rewriteProgram_ignores_model_paths ⟨false, "#root", true⟩ ⟨"index.js"⟩ _ _ ⟨[]⟩ rfl hdiffer
  have hplain := rewriteProgram_registeringModel
  rw [hrun] at hplain
  obtain rfl : outcome = _ := hplain
  rw [hrun']
  exact ⟨rfl, hdiffer, hrouter, hfailures⟩

end HotReload
