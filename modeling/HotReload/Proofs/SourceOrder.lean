/-
# Visit order and the order of the source text

A visit takes the children of a node in the order of `Label.layout`. In the text a
`do` loop's body stands before its test, a heritage before the members of its class
and decorators before what they decorate. Where no such node has registrations in
both of the parts that change places, the calls that register something are visited
in the order of the text, and what is collected for the first candidate are the
models before it in the text.

Key definitions: `Label.textOrder`, `Trail.precedes`, `Site.precedes`,
`Forest.parts`, `Tree.KeepsTextOrder`, `Scope.registers`.
Key theorems: `Trail.precedes_asymm`, `Forest.pairwise_precedes_sites`,
`rewriteProgram_in_text_order`, `do_while_out_of_text_order`.
-/
import HotReload.Proofs.Slots

namespace HotReload

/-! ### The order of the source text -/

/-- The parts of a node in the order of the source text, for the kinds of node that
are visited in another order. The parameters and the body of a method count as its
own parts. -/
def Label.textOrder : Label → List Field
  | doWhileStatement => [.statement, .test]
  | classDeclaration | classExpression => [.decorators, .name, .heritage, .members]
  | classProperty _ | privateProperty _ => [.decorators, .key, .value]
  | classMethod _ _ | privateMethod _ _ | method => [.decorators, .key, .parameters, .body]
  | functionPart _ _ => [.decorators, .parameters, .body]
  | _ => []

/-- The number of a part in the order of the source text; all parts of a node that is
visited in that order have the same number. -/
def Label.textRank (l : Label) (f : Field) : Nat := l.textOrder.idxOf f

namespace Trail

/-- The part of a node that a trail below it leads into; the part that functions and
methods share is passed through. -/
def part (step : Step) (rest : Trail) : Field :=
  match step.node.label, rest with
  | .functionPart _ _, next :: _ => next.node.field
  | _, _ => step.node.field

/-- Of two trails below a node of the kind `l`, the first leads to what begins
earlier in the text: to a node around the other, into an earlier part, or into an
earlier child of the same part. -/
def precedes : Label → Trail → Trail → Bool
  | _, _, [] => false
  | _, [], _ :: _ => true
  | l, s :: a, t :: b =>
    if s = t then precedes s.node.label a b
    else if l.textRank (part s a) = l.textRank (part t b) then s.index < t.index
    else l.textRank (part s a) < l.textRank (part t b)

theorem precedes_asymm {l : Label} {a b : Trail} (h : precedes l a b = true) :
    precedes l b a = false := by
  induction a generalizing l b with
  | nil => cases b <;> rfl
  | cons s a ih =>
    rcases b with _ | ⟨t, b⟩
    · cases h
    · by_cases hst : s = t
      · subst hst
        simp only [precedes, if_true] at h ⊢
        exact ih h
      · simp only [precedes, if_neg hst, if_neg (Ne.symm hst)] at h ⊢
        split at h <;> split <;> simp_all <;> omega

end Trail

/-- The one call begins before the other in the text of the program. The root of a
program is no part of anything. -/
def Site.precedes (a b : Site) : Bool := Trail.precedes .hole a.trail b.trail

namespace Forest

/-- The parts that the trees of a forest stand for, in the order of a visit. -/
def parts : Forest Node → List (Tree Node)
  | nil => []
  | cons n kids rest =>
    (match n.label with
      | .functionPart _ _ => kids.toList
      | _ => [⟨n, kids⟩]) ++ rest.parts

/-- Of the parts of a node of the kind `l` that hold a tree with the property `p`,
those that are visited earlier are not later in the text. -/
def KeepsTextOrder (p : Tree Node → Bool) (l : Label) (f : Forest Node) : Prop :=
  f.parts.Pairwise fun a b => a.preorder.any p = true → b.preorder.any p = true →
    l.textRank a.root.field ≤ l.textRank b.root.field

instance (p : Tree Node → Bool) (l : Label) : DecidablePred (KeepsTextOrder p l) := fun f =>
  inferInstanceAs (Decidable (f.parts.Pairwise _))

end Forest

/-- Every node of the program keeps what has the property `p` in the order of the
text. -/
def Tree.KeepsTextOrder (p : Tree Node → Bool) (program : Tree Node) : Prop :=
  ∀ t ∈ program.preorder, t.children.KeepsTextOrder p t.label

instance (p : Tree Node → Bool) : DecidablePred (Tree.KeepsTextOrder p) := fun program =>
  inferInstanceAs (Decidable (∀ t ∈ program.preorder, _))

namespace Forest

variable {p : Tree Node → Bool}

/-- The calls of a forest stand below whatever is above it. -/
theorem sites_append (f : Forest Node) (above trail : Trail) (i : Nat) :
    f.sites (above ++ trail) i =
      (f.sites trail i).map fun s => ⟨above ++ s.trail, s.call⟩ := by
  induction f generalizing trail i with
  | nil => rfl
  | cons n kids rest ihk ihr =>
    have hkids := ihk (trail ++ [⟨i, n⟩]) 0
    rw [← List.append_assoc] at hkids
    rw [sites, sites, hkids, ihr, List.map_append, List.map_append]
    refine congrArg (· ++ _) ?_
    split <;> simp

theorem call_mem_preorder {f : Forest Node} {above : Trail} {i : Nat} {site : Site}
    (h : site ∈ f.sites above i) : site.call ∈ f.preorder := by
  have hcalls : site.call ∈ (f.sites above i).map Site.call := List.mem_map_of_mem h
  rw [map_call_sites] at hcalls
  exact List.mem_of_mem_filter hcalls

/-- The calls of a tree and those of the rest, with the trails below the tree. -/
theorem sites_cons (n : Node) (kids rest : Forest Node) (i : Nat) :
    (cons n kids rest).sites [] i =
      ((if n.isCall then [⟨[⟨i, n⟩], ⟨n, kids⟩⟩] else []) ++
        (kids.sites [] 0).map fun s => ⟨⟨i, n⟩ :: s.trail, s.call⟩) ++ rest.sites [] (i + 1) := by
  have hkids : kids.sites [⟨i, n⟩] 0 = _ := sites_append kids [⟨i, n⟩] [] 0
  simp only [sites, List.nil_append, hkids, List.append_assoc, List.singleton_append]

/-- The first step of a trail into a forest is one of its trees, and the call is in
that. -/
theorem exists_tree_of_mem_sites {f : Forest Node} {i : Nat} {site : Site}
    (h : site ∈ f.sites [] i) :
    ∃ step rest t, site.trail = step :: rest ∧ t ∈ f.toList ∧ t.root = step.node ∧
      site.call ∈ t.preorder := by
  induction f generalizing i with
  | nil => simp [sites] at h
  | cons n kids rest _ ihr =>
    rw [sites_cons] at h
    rcases List.mem_append.mp h with h | h
    · rcases List.mem_append.mp h with h | h
      · obtain ⟨-, rfl⟩ : n.isCall = true ∧ site = ⟨[⟨i, n⟩], ⟨n, kids⟩⟩ := by simpa using h
        exact ⟨⟨i, n⟩, [], ⟨n, kids⟩, rfl, by simp [toList], rfl, by simp [Tree.preorder]⟩
      · obtain ⟨inner, hinner, rfl⟩ := List.mem_map.mp h
        have hcall : inner.call ∈ kids.preorder := call_mem_preorder hinner
        exact ⟨⟨i, n⟩, inner.trail, ⟨n, kids⟩, rfl, by simp [toList], rfl,
          List.mem_cons_of_mem _ hcall⟩
    · obtain ⟨step, more, t, htrail, ht, hroot, hcall⟩ := ihr h
      exact ⟨step, more, t, htrail, List.mem_cons_of_mem _ ht, hroot, hcall⟩

/-- A call stands in the part that its trail leads into, and the first step of the
trail has the number of a tree of the forest. -/
theorem exists_part_of_mem_sites {f : Forest Node} {i : Nat} {site : Site}
    (h : site ∈ f.sites [] i) (hp : p site.call = true) :
    ∃ step rest t, site.trail = step :: rest ∧
      (i ≤ step.index ∧ step.index < i + f.toList.length) ∧
      t ∈ f.parts ∧ t.root.field = Trail.part step rest ∧ t.preorder.any p = true := by
  have hany {t : Tree Node} (ht : site.call ∈ t.preorder) : t.preorder.any p = true :=
    List.any_eq_true.mpr ⟨_, ht, hp⟩
  induction f generalizing i with
  | nil => simp [sites] at h
  | cons n kids rest _ ihr =>
    have hindex : i ≤ i ∧ i < i + (cons n kids rest).toList.length := by simp [toList]
    rw [sites_cons] at h
    rcases List.mem_append.mp h with h | h
    · rcases List.mem_append.mp h with h | h
      · obtain ⟨hcall, rfl⟩ : n.isCall = true ∧ site = ⟨[⟨i, n⟩], ⟨n, kids⟩⟩ := by simpa using h
        have hlabel : n.label = .call := by simpa [Node.isCall] using hcall
        exact ⟨⟨i, n⟩, [], ⟨n, kids⟩, rfl, hindex, by simp [parts, hlabel], by simp [Trail.part],
          hany (by simp [Tree.preorder])⟩
      · obtain ⟨inner, hinner, rfl⟩ := List.mem_map.mp h
        by_cases hfunction : ∃ async generator, n.label = .functionPart async generator
        · obtain ⟨async, generator, hlabel⟩ := hfunction
          obtain ⟨step, more, t, htrail, ht, hroot, hcall⟩ := exists_tree_of_mem_sites hinner
          refine ⟨⟨i, n⟩, inner.trail, t, rfl, hindex, by simp [parts, hlabel, ht], ?_, hany hcall⟩
          simp [htrail, Trail.part, hlabel, hroot]
        · have hparts : ⟨n, kids⟩ ∈ (cons n kids rest).parts := by
            unfold parts
            split
            · exact absurd ⟨_, _, ‹_›⟩ hfunction
            · simp
          have hcall : inner.call ∈ kids.preorder := call_mem_preorder hinner
          refine ⟨⟨i, n⟩, inner.trail, ⟨n, kids⟩, rfl, hindex, hparts, ?_,
            hany (List.mem_cons_of_mem _ hcall)⟩
          unfold Trail.part
          split
          · exact absurd ⟨_, _, ‹_›⟩ hfunction
          · rfl
    · obtain ⟨step, more, t, htrail, ⟨hge, hlt⟩, ht, hfield, hcalls⟩ := ihr h
      refine ⟨step, more, t, htrail, ⟨by omega, ?_⟩, List.mem_append_right _ ht, hfield, hcalls⟩
      simp only [toList, List.length_cons]
      omega

/-- A call that is the first tree of a forest begins before the calls in it. -/
theorem precedes_of_root {n : Node} {kids : Forest Node} {l : Label} {i : Nat} {inner : Site}
    (h : inner ∈ kids.sites [] 0) : Trail.precedes l [⟨i, n⟩] (⟨i, n⟩ :: inner.trail) = true := by
  obtain ⟨step, rest, -, htrail, -⟩ := exists_tree_of_mem_sites h
  simp [Trail.precedes, htrail]

/-- A call in the first tree of a forest begins before one in a later tree, if no part
of the first with such a call is behind a part of the rest with one. -/
theorem precedes_of_rank_le {n : Node} {kids rest : Forest Node} {l : Label} {i : Nat}
    {a b : Site}
    (hrank : ∀ s ∈ (cons n kids nil).parts, ∀ t ∈ rest.parts, s.preorder.any p = true →
      t.preorder.any p = true → l.textRank s.root.field ≤ l.textRank t.root.field)
    (ha : a ∈ (cons n kids nil).sites [] i) (hpa : p a.call = true)
    (hb : b ∈ rest.sites [] (i + 1)) (hpb : p b.call = true) :
    Trail.precedes l a.trail b.trail = true := by
  obtain ⟨s, as, ta, has, ⟨-, hs⟩, hta, hfa, hany⟩ := exists_part_of_mem_sites ha hpa
  obtain ⟨t, bs, tb, hbs, ⟨ht, -⟩, htb, hfb, hany'⟩ := exists_part_of_mem_sites hb hpb
  have hindex : s.index < t.index := by
    simp only [toList, List.length_cons, List.length_nil] at hs
    omega
  have hne : s ≠ t := fun hst => by
    rw [hst] at hindex
    exact lt_irrefl _ hindex
  have hle := hrank ta hta tb htb hany hany'
  rw [hfa, hfb] at hle
  rw [has, hbs, Trail.precedes, if_neg hne]
  split
  · exact decide_eq_true hindex
  · exact decide_eq_true (by omega)

/-- **Where a program keeps the order of the text, so does a visit of it.** Induction
on the forest: two calls in one tree are compared below its root, and calls in two
trees by the parts that these are. -/
theorem pairwise_precedes_sites {f : Forest Node} {l : Label} {i : Nat}
    (hf : f.KeepsTextOrder p l)
    (hbelow : ∀ t ∈ f.preorder, t.children.KeepsTextOrder p t.label) :
    ((f.sites [] i).filter fun s => p s.call).Pairwise
      fun a b => Trail.precedes l a.trail b.trail = true := by
  induction f generalizing l i with
  | nil => simp [sites]
  | cons n kids rest ihk ihr =>
    have hparts : (cons n kids rest).parts = (cons n kids nil).parts ++ rest.parts := by
      simp [parts]
    have hfirst : (cons n kids rest).sites [] i =
        (cons n kids nil).sites [] i ++ rest.sites [] (i + 1) := by
      simp [sites]
    rw [KeepsTextOrder, hparts, List.pairwise_append] at hf
    rw [hfirst, List.filter_append, List.pairwise_append]
    refine ⟨?_, ihr hf.2.1 fun t ht => hbelow t (by simp [preorder, ht]), ?_⟩
    · -- two calls in the first tree: its root stands before all that is below
      have hkids := ihk (l := n.label) (i := 0) (hbelow ⟨n, kids⟩ (by simp [preorder]))
        fun t ht => hbelow t (by simp [preorder, ht])
      rw [sites_cons, sites, List.append_nil, List.filter_append, List.pairwise_append,
        List.filter_map, List.pairwise_map]
      refine ⟨?_, by simpa [Trail.precedes, Function.comp_def] using hkids, ?_⟩
      · exact List.Pairwise.filter _ (by split <;> simp)
      · intro a ha b hb
        obtain ⟨inner, hinner, rfl⟩ := List.mem_map.mp hb
        obtain ⟨-, rfl⟩ : n.isCall = true ∧ a = ⟨[⟨i, n⟩], ⟨n, kids⟩⟩ := by
          simpa using List.mem_of_mem_filter ha
        exact precedes_of_root (List.mem_of_mem_filter hinner)
    · -- a call in the first tree and one behind it
      intro a ha b hb
      obtain ⟨hamem, hap⟩ := List.mem_filter.mp ha
      obtain ⟨hbmem, hbp⟩ := List.mem_filter.mp hb
      exact precedes_of_rank_le hf.2.2 hamem hap hbmem hbp

end Forest

namespace Tree

variable {p : Tree Node → Bool} {program : Tree Node}

/-- A program that keeps the order of the text is visited in it. -/
theorem KeepsTextOrder.pairwise_precedes (h : program.KeepsTextOrder p) :
    (program.callSites.filter fun s => p s.call).Pairwise fun a b => a.precedes b = true := by
  refine Forest.pairwise_precedes_sites (l := .hole) (List.pairwise_of_forall fun _ _ _ _ => ?_)
    fun t ht => h t (by simpa using ht)
  exact le_rfl

end Tree

/-! ### Registrations -/

/-- Whether the call registers a router or a model. -/
def Scope.registers (s : Scope) (call : Tree Node) : Bool :=
  match s.callRole call with
  | .router _ | .model _ => call.root.isCall
  | .factory | .other => false

namespace Job

variable {job : Job} {program : Tree Node} {site : Site}

theorem registers_of_model? (hsite : site ∈ program.callSites) (h : (job.model? site).isSome) :
    job.scope.registers site.call = true := by
  unfold model? at h
  unfold Scope.registers
  split at h
  · rename_i hrole
    rw [hrole]
    exact Tree.isCall_of_mem_callSites hsite
  · cases h

theorem IsCandidate.registers {hit : Hit} (hsite : hit.site ∈ program.callSites)
    (h : job.IsCandidate hit) : job.scope.registers hit.site.call = true := by
  unfold Scope.registers
  rw [h.role]
  exact Tree.isCall_of_mem_callSites hsite

/-- Calls that register no model add nothing. -/
theorem modelsOf_filter (sites : List Site) :
    job.modelsOf (sites.filter fun s => (job.model? s).isSome) = job.modelsOf sites := by
  unfold modelsOf
  rw [List.filterMap_filter]
  refine congrArg (List.filterMap · sites) (funext fun s => ?_)
  cases job.model? s <;> rfl

/-- What registers something stands before the first candidate in the text if it is
visited before it, and behind it if it is visited later. -/
theorem IsFirstCandidate.precedes_of_split {hit : Hit} {later : List Site}
    (hfirst : job.IsFirstCandidate program.callSites hit)
    (hkeeps : program.KeepsTextOrder job.scope.registers)
    (hsplit : program.callSites = hit.before ++ hit.site :: later) :
    (∀ s ∈ hit.before, job.scope.registers s.call = true → s.precedes hit.site = true) ∧
      ∀ s ∈ later, job.scope.registers s.call = true → hit.site.precedes s = true := by
  have hsite : hit.site ∈ program.callSites := by simp [hsplit]
  have hhit : job.scope.registers hit.site.call = true := hfirst.candidate.registers hsite
  have hordered := hkeeps.pairwise_precedes
  rw [hsplit, List.filter_append, List.filter_cons_of_pos (by simpa using hhit),
    List.pairwise_append, List.pairwise_cons] at hordered
  obtain ⟨-, ⟨hbehind, -⟩, hbefore⟩ := hordered
  exact ⟨fun s hs hr => hbefore s (List.mem_filter.mpr ⟨hs, hr⟩) hit.site List.mem_cons_self,
    fun s hs hr => hbehind s (List.mem_filter.mpr ⟨hs, hr⟩)⟩

/-- No call before the first candidate in the text is a candidate. -/
theorem IsFirstCandidate.not_isCandidate_of_precedes {hit : Hit}
    (hfirst : job.IsFirstCandidate program.callSites hit)
    (hkeeps : program.KeepsTextOrder job.scope.registers) {before later : List Site}
    (hsplit : program.callSites = before ++ site :: later)
    (hprecedes : site.precedes hit.site = true) (app : Ident) (router : String)
    (unit : Tree Node) : ¬ job.IsCandidate ⟨before, site, app, router, unit⟩ := by
  intro hcandidate
  have hnot := Trail.precedes_asymm hprecedes
  obtain ⟨later', hsplit'⟩ := hfirst.split
  obtain ⟨-, hbehind⟩ := hfirst.precedes_of_split hkeeps hsplit'
  rcases split_cases (hsplit.symm.trans hsplit') with ⟨between, hc⟩ | ⟨-, rfl, -⟩ | ⟨between, hc⟩
  · exact hfirst.first before site between hc app router unit hcandidate
  · exact absurd (hprecedes.symm.trans hnot) (by simp)
  · have hlater : site ∈ later' := by
      rw [hsplit, hc] at hsplit'
      simp only [List.append_assoc, List.cons_append, List.append_cancel_left_eq,
        List.cons.injEq, true_and] at hsplit'
      simp [← hsplit']
    have hsite : site ∈ program.callSites := by simp [hsplit]
    have hregisters := hcandidate.registers hsite
    exact absurd ((hbehind site hlater hregisters).symm.trans hnot) (by simp)

/-- The registrations of models that are visited before the first candidate are those
before it in the text, in the order of the text. -/
theorem IsFirstCandidate.models_in_text_order {hit : Hit}
    (hfirst : job.IsFirstCandidate program.callSites hit)
    (hkeeps : program.KeepsTextOrder job.scope.registers) :
    ∃ models : List Site,
      (∀ site, site ∈ models ↔ site ∈ program.callSites ∧ (job.model? site).isSome = true ∧
        site.precedes hit.site = true) ∧
      models.Pairwise (fun a b => a.precedes b = true) ∧
      job.modelsOf models = job.modelsOf hit.before := by
  obtain ⟨later, hsplit⟩ := hfirst.split
  obtain ⟨hbefore, hbehind⟩ := hfirst.precedes_of_split hkeeps hsplit
  refine ⟨hit.before.filter fun s => (job.model? s).isSome, fun site => ?_, ?_,
    modelsOf_filter hit.before⟩
  · rw [List.mem_filter]
    constructor
    · rintro ⟨hmem, hmodel⟩
      have hsite : site ∈ program.callSites := by simp [hsplit, hmem]
      exact ⟨hsite, hmodel, hbefore site hmem (registers_of_model? hsite hmodel)⟩
    · rintro ⟨hsite, hmodel, hprecedes⟩
      have hnot := Trail.precedes_asymm hprecedes
      have hregisters := registers_of_model? hsite hmodel
      rw [hsplit, List.mem_append, List.mem_cons] at hsite
      rcases hsite with hmem | rfl | hmem
      · exact ⟨hmem, hmodel⟩
      · exact absurd (hprecedes.symm.trans hnot) (by simp)
      · exact absurd ((hbehind site hmem hregisters).symm.trans hnot) (by simp)
  · have hordered := hkeeps.pairwise_precedes
    rw [hsplit, List.filter_append, List.pairwise_append, List.pairwise_filter] at hordered
    rw [List.pairwise_filter]
    refine hordered.1.imp_of_mem fun {a b} ha hb hab hma hmb => ?_
    have hsite {s : Site} (hs : s ∈ hit.before) : s ∈ program.callSites := by simp [hsplit, hs]
    exact hab (registers_of_model? (hsite ha) hma) (registers_of_model? (hsite hb) hmb)

end Job

variable (options : Options) (file : FileIdentity) (program : Tree Node) (sessions : Sessions)

/-- **Registrations count in the order of the text.** In no node of the program do two
parts that are visited in another order than that of the text both hold
registrations. If a router is rewritten, then no call before it in the text is a
candidate, and the models of the outcome are those of the registrations before it in
the text, in the order of the text. -/
theorem rewriteProgram_in_text_order
    (hkeeps : program.KeepsTextOrder (Scope.ofProgram program).registers) :
    ∃ output outcome stored,
      rewriteProgram options file program sessions = (output, outcome, stored) ∧
      ∀ router, outcome.router = some router →
        ∃ hit models, hit.router = router ∧
          (Job.ofProgram options file program).IsFirstCandidate program.callSites hit ∧
          (∀ before site later, program.callSites = before ++ site :: later →
            site.precedes hit.site = true → ∀ app router unit,
              ¬ (Job.ofProgram options file program).IsCandidate
                ⟨before, site, app, router, unit⟩) ∧
          (∀ site, site ∈ models ↔ site ∈ program.callSites ∧
            ((Job.ofProgram options file program).model? site).isSome = true ∧
            site.precedes hit.site = true) ∧
          models.Pairwise (fun a b => a.precedes b = true) ∧
          outcome.models = (Job.ofProgram options file program).modelsOf models := by
  rcases hrun : rewriteProgram options file program sessions with ⟨output, outcome, stored⟩
  refine ⟨output, outcome, stored, rfl, fun router hrouter => ?_⟩
  obtain ⟨hit, hfirst, rfl⟩ := exists_isFirstCandidate_of_router options file program sessions
    (by rw [hrun]; exact hrouter)
  have hmodels : outcome.models = (Job.ofProgram options file program).modelsOf hit.before := by
    have houtcome := congrArg (·.2.1.models) hrun
    rw [rewriteProgram_of_isFirstCandidate options file program sessions hfirst] at houtcome
    exact houtcome.symm
  obtain ⟨models, hmem, hordered, hof⟩ := hfirst.models_in_text_order hkeeps
  refine ⟨hit, models, rfl, hfirst, ?_, hmem, hordered, hmodels.trans hof.symm⟩
  exact fun before site later hsplit hprecedes =>
    hfirst.not_isCandidate_of_precedes hkeeps hsplit hprecedes

/-! ### Loops -/

open Script HotUnit

/-- The program that creates an application and then runs a `do` loop. -/
def looping (body : List (Tree Node)) (test : Tree Node) : Tree Node :=
  .ofLabel (.moduleRoot none) (childrenOf
    [.ofLabel (.importDeclaration .evaluation)
      [Tree.fill (.ofLabel .importDefault [(identifierNode "dva").fill .localName]) .specifiers,
        (literalNode (quoted frameworkPackage)).fill .source],
      constantNode "app" (applicationNode "dva" []),
      .ofLabel .doWhileStatement [test.fill .test, (blockNode body).fill .statement]] .statements)

/-- A loop that registers two models and a router in its body and nothing in its test. -/
def routerInBody : Tree Node :=
  looping [methodNode "app" modelMethod (requireNode (quoted "./users")),
      methodNode "app" modelMethod (requireNode (quoted "./posts")),
      methodNode "app" routerMethod (requireNode (quoted "./router"))]
    (identifierNode "ready")

/-- A loop that registers a model in its body and a router in its test. -/
def routerInTest : Tree Node :=
  looping [methodNode "app" modelMethod (requireNode (quoted "./model"))]
    (invocationNode (propertyNode (identifierNode "app") routerMethod)
      [requireNode (quoted "./router")])

/-- With all registrations in the body, the loop is visited in the order of the text: the
models before the router are those of the outcome. -/
theorem router_in_body_in_text_order :
    routerInBody.KeepsTextOrder (Scope.ofProgram routerInBody).registers ∧
    ∃ output stored, rewriteProgram .standard ⟨"index.js"⟩ routerInBody ⟨[]⟩ =
        (output, ⟨⟨"index.js"⟩, some "./router", ["./users", "./posts"], []⟩, stored) ∧
      ∃ hit models, hit.router = "./router" ∧
        (Job.ofProgram .standard ⟨"index.js"⟩ routerInBody).IsFirstCandidate
          routerInBody.callSites hit ∧
        (∀ site ∈ models, site.precedes hit.site = true) ∧
        models.Pairwise (fun a b => a.precedes b = true) ∧
        ["./users", "./posts"] =
          (Job.ofProgram .standard ⟨"index.js"⟩ routerInBody).modelsOf models := by
  have hkeeps : routerInBody.KeepsTextOrder (Scope.ofProgram routerInBody).registers := by
    decide +kernel
  obtain ⟨output, outcome, stored, hrun, hrouter⟩ :=
    rewriteProgram_in_text_order .standard ⟨"index.js"⟩ routerInBody ⟨[]⟩ hkeeps
  obtain ⟨factory, users, required, posts, required', call, required'', hsites, hroles, hof,
      hrole, hpath, hstands⟩ :
      ∃ (factory users required posts required' call required'' : Site),
        routerInBody.callSites =
          [factory, users, required, posts, required'] ++ call :: [required''] ∧
        [factory, users, required, posts, required'].map
            (fun site => (Scope.ofProgram routerInBody).callRole site.call) =
          [.factory, .model ⟨"app", 0⟩, .other, .model ⟨"app", 0⟩, .other] ∧
        (Job.ofProgram .standard ⟨"index.js"⟩ routerInBody).modelsOf
          [factory, users, required, posts, required'] = ["./users", "./posts"] ∧
        (Scope.ofProgram routerInBody).callRole call.call = .router ⟨"app", 0⟩ ∧
        (Scope.ofProgram routerInBody).modulePath? call.call = some "./router" ∧
        decide call.trail.StandsInStatement = true :=
    ⟨_, _, _, _, _, _, _, rfl, rfl, rfl, rfl, rfl, rfl⟩
  have houtcome := (rewriteProgram_for_first_router .standard ⟨"index.js"⟩ routerInBody ⟨[]⟩
    hsites hroles (by simp) hof hrole hpath (of_decide_eq_true hstands) (by decide) (by decide)
    (isReadAs_plainModels "app")).1
  rw [hrun] at houtcome
  obtain rfl : outcome = _ := houtcome
  obtain ⟨hit, models, hhit, hfirst, -, hmem, hordered, hmodels⟩ := hrouter "./router" rfl
  have hprecedes : ∀ site ∈ models, site.precedes hit.site = true :=
    fun site hsite => ((hmem site).mp hsite).2.2
  exact ⟨hkeeps, output, stored, hrun, hit, models, hhit, hfirst, hprecedes, hordered, hmodels⟩

/-- With the router in the test, a model that is registered before it in the text is
visited after it, and missed. -/
theorem do_while_out_of_text_order :
    (rewriteProgram .standard ⟨"index.js"⟩ routerInTest ⟨[]⟩).2.1 =
      ⟨⟨"index.js"⟩, some "./router", [], []⟩ ∧
    ∃ hit model, (Job.ofProgram .standard ⟨"index.js"⟩ routerInTest).IsFirstCandidate
        routerInTest.callSites hit ∧
      model ∈ routerInTest.callSites ∧
      (Job.ofProgram .standard ⟨"index.js"⟩ routerInTest).model? model = some "./model" ∧
      model.precedes hit.site = true := by
  obtain ⟨factory, call, required, model, required', hsites, hfactory, hrole, hpath, hstands,
      hmodel, hprecedes⟩ :
      ∃ factory call required model required',
        routerInTest.callSites = [factory, call, required, model, required'] ∧
        (Scope.ofProgram routerInTest).callRole factory.call = .factory ∧
        (Scope.ofProgram routerInTest).callRole call.call = .router ⟨"app", 0⟩ ∧
        (Scope.ofProgram routerInTest).modulePath? call.call = some "./router" ∧
        decide call.trail.StandsInStatement = true ∧
        (Job.ofProgram .standard ⟨"index.js"⟩ routerInTest).model? model = some "./model" ∧
        model.precedes call = true := ⟨_, _, _, _, _, rfl, rfl, rfl, rfl, rfl, rfl, rfl⟩
  obtain ⟨houtcome, hfirst⟩ := rewriteProgram_behind_factory .standard ⟨"index.js"⟩ routerInTest
    ⟨[]⟩ hsites hfactory hrole hpath (of_decide_eq_true hstands) (by decide) (by decide)
    (isReadAs_standard "app")
  exact ⟨houtcome, _, model, hfirst, by simp [hsites], hmodel, hprecedes⟩

end HotReload
