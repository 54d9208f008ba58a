/-
# A visit follows the search for the first candidate

A visit goes up and down a program with two counters, the sessions of all files
and a unit that waits for its statement. Below the nodes of a trail the counters
are those of the trail, so the state of a visit is a function of where it is and
of the calls that it met: `Progress.searching` before the first candidate and
`Progress.found` after it. Visiting a forest leads from the one state to the
other exactly where the search on its calls has a hit, and the unit is taken by
the last statement on the trail of the hit, be it inside of the forest or around
it (`visit_searching`).

Key definitions: `Progress.searching`, `Progress.found`, `Hit.statement`,
`Forest.graft`.
Key theorems: `visit_of_rewritten`, `Progress.onCall_searching`,
`Progress.leave_found_waiting`, `visit_searching`.
-/
import HotReload.Proofs.Search

namespace HotReload

/-- Of two sessions set for a file the second one counts. -/
@[simp] theorem Sessions.set_set (s : Sessions) (file : FileIdentity) (a b : Session) :
    (s.set file a).set file b = s.set file b := by
  simp [set, List.filter_filter]

/-! ### After the rewrite -/

/-- Once the file is rewritten and no statement inside waits for the unit, a
visit changes nothing. -/
theorem visit_of_rewritten (job : Job) (f : Forest Node) (s : Progress)
    (hr : (s.sessions.get job.file).rewritten = true)
    (hp : ∀ d u, s.pending = some (d, u) → d ≤ s.depth) : visit job f s = (f, s) := by
  induction f generalizing s with
  | nil => rfl
  | cons n kids rest ihk ihr =>
    have henter : s.enter job ⟨n, kids⟩ =
        { s with
          depth := if n.isStatement then s.depth + 1 else s.depth
          boundary := if n.isFunction then
            some (if n.isStatement then s.depth + 1 else s.depth) else s.boundary } := by
      cases hs : n.isStatement <;> cases hf : n.isFunction <;>
        simp [Progress.enter, Progress.onCall, hs, hf, hr]
    have hkids : visit job kids (s.enter job ⟨n, kids⟩) = (kids, s.enter job ⟨n, kids⟩) := by
      refine ihk _ (by rw [henter]; exact hr) fun d u h => ?_
      rw [henter] at h ⊢
      have := hp d u h
      simp only
      split <;> omega
    have hleave : (s.enter job ⟨n, kids⟩).leave s.boundary ⟨n, kids⟩ = (⟨n, kids⟩, s) := by
      rw [henter]
      obtain ⟨sessions, depth, boundary, pending, router, failures⟩ := s
      cases hs : n.isStatement
      · cases hf : n.isFunction <;> simp [Progress.leave, hs, hf]
      · -- the pending depth is at most the one outside, so the statement keeps its tree
        rcases pending with _ | ⟨d, u⟩
        · cases hf : n.isFunction <;> simp [Progress.leave, hs, hf]
        · have hd : d ≠ depth + 1 := by
            have : d ≤ depth := hp d u rfl
            omega
          cases hf : n.isFunction <;> simp [Progress.leave, hs, hf, hd]
    rw [visit, hkids]
    simp only
    rw [hleave, ihr s hr hp]

/-! ### The states of a visit -/

variable (job : Job) (store : Sessions)

/-- The field of the node that a trail leads to. -/
def Trail.field (trail : Trail) : Field := (trail.getLast?.map (·.node.field)).getD .root

/-- The unit as the statement that it replaces: it fills the same field. -/
def Hit.statement (hit : Hit) : Tree Node := hit.unit.fill (Trail.toStatement hit.site.trail).field

namespace Progress

/-- A visit below the nodes of `above` that met the calls `before`, none of them
a candidate. -/
def searching (above : Trail) (before : List Site) : Progress where
  sessions := store.set job.file ⟨false, job.modelsOf before⟩
  depth := above.depth
  boundary := above.boundary
  pending := none
  router := none
  failures := job.failuresOf [] before

/-- A visit below the nodes of `above` that met a candidate. -/
def found (above : Trail) (hit : Hit) (pending : Option (Nat × Tree Node)) : Progress where
  sessions := store.set job.file ⟨true, job.modelsOf hit.before⟩
  depth := above.depth
  boundary := above.boundary
  pending := pending
  router := some hit.router
  failures := job.failuresOf [] hit.before

theorem replaceable_searching (above : Trail) (before : List Site) :
    (searching job store above before).replaceable = decide above.StandsInStatement := by
  rw [Bool.eq_iff_iff, decide_eq_true_iff]
  exact above.replaceable_counters_iff

theorem unit_searching (above : Trail) (before : List Site) (app : Ident) (router : String) :
    (searching job store above before).unit job app router =
      job.unitFor app router (job.modelsOf before) := by
  simp [unit, searching, Job.unitFor]

/-- **What a call does.** A candidate makes its unit wait for the last statement;
any other call adds what it registers or what goes wrong at it. -/
theorem onCall_searching (before : List Site) (site : Site) :
    (searching job store site.trail before).onCall job site.call =
      match job.hit? before site with
      | some hit => found job store site.trail hit (some (Trail.depth site.trail, hit.unit))
      | none => searching job store site.trail (before ++ [site]) := by
  have hopen : ((searching job store site.trail before).sessions.get job.file).rewritten =
      false := by simp [searching]
  have hbefore : searching job store site.trail (before ++ [site]) =
      { searching job store site.trail before with
        sessions := store.set job.file
          ⟨false, job.modelsOf before ++ (job.model? site).toList⟩
        failures := job.failuresOf [] before ++ (job.failure? before site).toList } := by
    simp [searching, Job.modelsOf_singleton, Job.failuresOf_append, Job.failuresOf_singleton]
  rw [hbefore, onCall, if_neg (by simp [hopen])]
  cases hrole : job.scope.callRole site.call with
  | router app =>
    cases hpath : job.scope.modulePath? site.call with
    | none =>
      simp [Job.hit?, Job.model?, Job.failure?, onRouter, fail, searching, hrole, hpath]
    | some router =>
      by_cases hstands : Trail.StandsInStatement site.trail
      · cases hread : (job.unitFor app router (job.modelsOf before)).adopted app with
        | ok unit =>
          simp only [Job.hit?, onRouter, replaceable_searching, unit_searching, hrole, hpath,
            hstands, hread, decide_true, if_true]
          simp [searching, found, Sessions.markRewritten, Session.markRewritten]
        | error fault =>
          simp only [Job.hit?, Job.model?, Job.failure?, onRouter, replaceable_searching,
            unit_searching, hrole, hpath, hstands, hread, decide_true, if_true]
          simp [searching, fail]
      · simp only [Job.hit?, Job.model?, Job.failure?, onRouter, replaceable_searching, hrole,
          hpath, hstands, decide_false, Bool.false_eq_true, if_false]
        simp [searching]
  | model app =>
    cases hpath : job.scope.modulePath? site.call <;>
      simp [Job.hit?, Job.model?, Job.failure?, onModel, hrole, hpath, searching,
        Sessions.addModel, Session.addModel]
  | factory => simp [Job.hit?, Job.model?, Job.failure?, hrole, searching]
  | other => simp [Job.hit?, Job.model?, Job.failure?, hrole, searching]

/-- Entering a node goes one step down and, at a call, meets the call. -/
theorem enter_searching (above : Trail) (before : List Site) (step : Step) (kids : Forest Node) :
    (searching job store above before).enter job ⟨step.node, kids⟩ =
      if step.node.isCall then
        (searching job store (above ++ [step]) before).onCall job ⟨step.node, kids⟩
      else searching job store (above ++ [step]) before := by
  cases hs : step.node.isStatement <;> cases hf : step.node.isFunction <;>
    simp [enter, searching, Trail.depth_concat, Trail.boundary_concat, hs, hf]

/-- Leaving a node goes one step up. -/
theorem leave_searching (above : Trail) (before : List Site) (step : Step) (kids : Forest Node) :
    (searching job store (above ++ [step]) before).leave above.boundary ⟨step.node, kids⟩ =
      (⟨step.node, kids⟩, searching job store above before) := by
  cases hs : step.node.isStatement <;> cases hf : step.node.isFunction <;>
    simp [leave, searching, Trail.depth_concat, Trail.boundary_concat, hs, hf]

theorem leave_found_none (above : Trail) (hit : Hit) (step : Step) (kids : Forest Node) :
    (found job store (above ++ [step]) hit none).leave above.boundary ⟨step.node, kids⟩ =
      (⟨step.node, kids⟩, found job store above hit none) := by
  cases hs : step.node.isStatement <;> cases hf : step.node.isFunction <;>
    simp [leave, found, Trail.depth_concat, Trail.boundary_concat, hs, hf]

/-- The unit that waits for the nearest statement is taken by the node that is
left if that is a statement, and waits on otherwise. -/
theorem leave_found_waiting (above : Trail) (hit : Hit) (step : Step) (kids : Forest Node) :
    (found job store (above ++ [step]) hit (some (Trail.depth (above ++ [step]), hit.unit))).leave
        above.boundary ⟨step.node, kids⟩ =
      if step.node.isStatement then
        (hit.unit.fill step.node.field, found job store above hit none)
      else (⟨step.node, kids⟩, found job store above hit (some (above.depth, hit.unit))) := by
  cases hs : step.node.isStatement <;> cases hf : step.node.isFunction <;>
    simp [leave, found, Trail.depth_concat, Trail.boundary_concat, hs, hf, Tree.fill]

theorem visit_found (f : Forest Node) (above : Trail) (hit : Hit)
    {pending : Option (Nat × Tree Node)} (h : ∀ d u, pending = some (d, u) → d ≤ above.depth) :
    visit job f (found job store above hit pending) = (f, found job store above hit pending) :=
  visit_of_rewritten job f _ (by simp [found]) h

end Progress

/-! ### Visiting a forest -/

/-- The forest, whose first tree has the number `i` among its siblings, with `t`
for what the steps lead to; unchanged if there are none. -/
def Forest.graft (f : Forest Node) (i : Nat) (steps : List Step) (t : Tree Node) : Forest Node :=
  match steps with
  | [] => f
  | first :: more => f.replaceAt (first.index - i) (more.map Step.index) t

/-- What becomes of a forest below the nodes of `above`, whose first tree has the
number `i`, in a visit that met the calls `before`. -/
def searched (f : Forest Node) (above : Trail) (i : Nat) (before : List Site) :
    Forest Node × Progress :=
  match job.firstHit before (f.sites above i) with
  | none => (f, .searching job store above (before ++ f.sites above i))
  | some hit =>
    if above.depth < Trail.depth hit.site.trail then
      (f.graft i ((Trail.toStatement hit.site.trail).drop above.length) hit.statement,
        .found job store above hit none)
    else (f, .found job store above hit (some (above.depth, hit.unit)))

/-- The steps to the last statement of a site that stands in a statement of the
forest begin at a root of the forest. -/
theorem exists_steps_toStatement {above trail : Trail} {first : Step} {more : List Step}
    (htrail : trail = above ++ first :: more) (h : above.depth < trail.depth) :
    ∃ more', trail.toStatement = above ++ first :: more' := by
  subst htrail
  rcases Trail.toStatement_append_cases above (first :: more) with ⟨heq, -⟩ | ⟨-, hsplit⟩
  · omega
  · obtain ⟨start, last, rest, hsplit, hto⟩ := hsplit
    rcases start with _ | ⟨first', start⟩
    · obtain ⟨rfl, -⟩ : first = last ∧ more = rest := by simpa using hsplit
      exact ⟨[], by simpa using hto⟩
    · obtain ⟨rfl, -⟩ : first = first' ∧ more = start ++ last :: rest := by simpa using hsplit
      exact ⟨start ++ [last], by simpa using hto⟩

/-- A hit that waits at a node is taken there if the node is a statement. -/
theorem leave_waiting_eq_searched {n : Node} {kids rest : Forest Node} {above : Trail} {i : Nat}
    {before : List Site} {hit : Hit} {inner : List Step} {left : Tree Node × Progress}
    (hhit : job.firstHit before ((Forest.cons n kids rest).sites above i) = some hit)
    (htrail : hit.site.trail = above ++ [⟨i, n⟩] ++ inner)
    (hdepth : Trail.depth (above ++ [⟨i, n⟩]) = Trail.depth hit.site.trail)
    (hleft : left = (Progress.found job store (above ++ [⟨i, n⟩]) hit
      (some (Trail.depth (above ++ [⟨i, n⟩]), hit.unit))).leave above.boundary ⟨n, kids⟩) :
    (Forest.cons left.1.root left.1.children (visit job rest left.2).1,
        (visit job rest left.2).2) =
      searched job store (.cons n kids rest) above i before := by
  rw [Progress.leave_found_waiting job store above hit ⟨i, n⟩ kids] at hleft
  subst hleft
  simp only [searched, hhit]
  by_cases hs : n.isStatement = true
  · have hto : Trail.toStatement hit.site.trail = above ++ [⟨i, n⟩] := by
      rcases Trail.toStatement_append_cases (above ++ [⟨i, n⟩]) inner with ⟨-, h⟩ | ⟨h, -⟩
      · rw [htrail, h, Trail.toStatement_concat_of_statement _ hs]
      · rw [← htrail] at h
        omega
    have hlt : above.depth < Trail.depth hit.site.trail := by
      rw [← hdepth, Trail.depth_concat, if_pos hs]
      omega
    rw [if_pos hs, if_pos hlt, Progress.visit_found job store rest above hit (by simp)]
    simp [Forest.graft, Forest.replaceAt, Hit.statement, hto, Trail.field]
  · have hlt : ¬ above.depth < Trail.depth hit.site.trail := by
      rw [← hdepth, Trail.depth_concat, if_neg hs]
      omega
    rw [if_neg hs, if_neg hlt, Progress.visit_found job store rest above hit (by simp)]

/-- A hit inside of a child is taken there, and the node is left as it is. -/
theorem leave_inside_eq_searched {n : Node} {kids rest : Forest Node} {above : Trail} {i : Nat}
    {before : List Site} {hit : Hit} {first : Step} {more : List Step}
    (hhit : job.firstHit before ((Forest.cons n kids rest).sites above i) = some hit)
    (htrail : hit.site.trail = above ++ [⟨i, n⟩] ++ first :: more)
    (hdepth : Trail.depth (above ++ [⟨i, n⟩]) < Trail.depth hit.site.trail) :
    (Forest.cons n (kids.graft 0
        ((Trail.toStatement hit.site.trail).drop (above ++ [(⟨i, n⟩ : Step)]).length)
        hit.statement) rest, Progress.found job store above hit none) =
      searched job store (.cons n kids rest) above i before := by
  obtain ⟨more', hto⟩ := exists_steps_toStatement htrail hdepth
  have hlt : above.depth < Trail.depth hit.site.trail :=
    lt_of_le_of_lt (above.depth_le_append [⟨i, n⟩]) hdepth
  simp only [searched, hhit, if_pos hlt, hto]
  rw [List.drop_left, List.append_assoc, List.drop_left]
  simp [Forest.graft, Forest.replaceAt]

/-- Where neither the node nor its children have a candidate, the search goes on
in the trees after it. -/
theorem searched_cons_of_none {n : Node} {kids rest : Forest Node} {above : Trail} {i : Nat}
    {before own : List Site}
    (hsites : (Forest.cons n kids rest).sites above i = own ++ rest.sites above (i + 1))
    (hown : job.firstHit before own = none) :
    (Forest.cons n kids (searched job store rest above (i + 1) (before ++ own)).1,
        (searched job store rest above (i + 1) (before ++ own)).2) =
      searched job store (.cons n kids rest) above i before := by
  have hfirst : job.firstHit before ((Forest.cons n kids rest).sites above i) =
      job.firstHit (before ++ own) (rest.sites above (i + 1)) := by
    rw [hsites, Job.firstHit_append, hown, Option.none_or]
  simp only [searched, hfirst]
  cases hrest : job.firstHit (before ++ own) (rest.sites above (i + 1)) with
  | none => simp [hsites]
  | some hit =>
    by_cases hlt : above.depth < Trail.depth hit.site.trail
    · obtain ⟨first, more, htrail, hle, -⟩ := Forest.nodeAt?_of_mem_sites (Job.mem_of_firstHit hrest)
      obtain ⟨more', hto⟩ := exists_steps_toStatement htrail hlt
      obtain ⟨k, hk⟩ : ∃ k, first.index - i = k + 1 := ⟨first.index - (i + 1), by omega⟩
      have hk' : first.index - (i + 1) = k := by omega
      simp only [if_pos hlt, hto, List.drop_left]
      simp [Forest.graft, Forest.replaceAt, hk, hk']
    · simp only [if_neg hlt]

/-- **A visit follows the search.** Visiting a forest changes it at the last
statement of the first candidate, if that statement is in the forest, and
nowhere else. -/
theorem visit_searching (f : Forest Node) (above : Trail) (i : Nat) (before : List Site) :
    visit job f (.searching job store above before) = searched job store f above i before := by
  induction f generalizing above i before with
  | nil => simp [visit, searched, Forest.sites, Job.firstHit]
  | cons n kids rest ihk ihr =>
    set here : Trail := above ++ [⟨i, n⟩] with hhere
    set own : List Site := if n.isCall then [⟨here, ⟨n, kids⟩⟩] else [] with hown
    have hsites : (Forest.cons n kids rest).sites above i =
        own ++ (kids.sites here 0 ++ rest.sites above (i + 1)) := rfl
    have htrail : ∀ site ∈ own, site.trail = here := by
      intro site hsite
      rw [hown] at hsite
      split at hsite <;> simp_all
    -- entering the node meets its own call, if it is one
    have henter : (Progress.searching job store above before).enter job ⟨n, kids⟩ =
        match job.firstHit before own with
        | some hit => .found job store here hit (some (here.depth, hit.unit))
        | none => .searching job store here (before ++ own) := by
      have henter := Progress.enter_searching job store above before ⟨i, n⟩ kids
      simp only [← hhere] at henter
      rw [henter, hown]
      by_cases hcall : n.isCall = true
      · rw [if_pos hcall, if_pos hcall]
        rw [Progress.onCall_searching job store before ⟨here, ⟨n, kids⟩⟩]
        cases hhit : job.hit? before ⟨here, ⟨n, kids⟩⟩ <;> simp [Job.firstHit, hhit]
      · rw [if_neg hcall, if_neg hcall]
        simp [Job.firstHit]
    have hboundary : (Progress.searching job store above before).boundary = above.boundary := rfl
    rw [visit, henter, hboundary]
    cases hfirst : job.firstHit before own with
    | some hit =>
      -- the node is the candidate: its unit waits while the children are visited
      have hhit : job.firstHit before ((Forest.cons n kids rest).sites above i) = some hit := by
        rw [hsites, Job.firstHit_append, hfirst, Option.some_or]
      have hhere' := htrail _ (Job.mem_of_firstHit hfirst)
      have hend : hit.site.trail = above ++ [⟨i, n⟩] ++ [] := by simp [hhere', hhere]
      simp only
      rw [Progress.visit_found job store kids here hit (by simp)]
      exact leave_waiting_eq_searched job store hhit hend (by rw [hhere']) rfl
    | none =>
      simp only
      rw [ihk here 0 (before ++ own), searched]
      cases hkids : job.firstHit (before ++ own) (kids.sites here 0) with
      | none =>
        have hleave := Progress.leave_searching job store above (before ++ own ++ kids.sites here 0)
          ⟨i, n⟩ kids
        simp only [← hhere] at hleave ⊢
        rw [hleave]
        simp only
        rw [ihr above (i + 1)]
        rw [List.append_assoc]
        refine searched_cons_of_none job store (by rw [hsites, List.append_assoc]) ?_
        rw [Job.firstHit_append, hfirst, Option.none_or, hkids]
      | some hit =>
        have hhit : job.firstHit before ((Forest.cons n kids rest).sites above i) = some hit := by
          rw [hsites, Job.firstHit_append, hfirst, Option.none_or, Job.firstHit_append, hkids,
            Option.some_or]
        obtain ⟨first, more, htrail', -⟩ := Forest.nodeAt?_of_mem_sites (Job.mem_of_firstHit hkids)
        by_cases hlt : here.depth < Trail.depth hit.site.trail
        · -- the unit was taken below the node
          simp only [if_pos hlt]
          have hleave := Progress.leave_found_none job store above hit ⟨i, n⟩
            (kids.graft 0 ((Trail.toStatement hit.site.trail).drop here.length) hit.statement)
          simp only [← hhere] at hleave
          rw [hleave]
          simp only
          rw [Progress.visit_found job store rest above hit (by simp)]
          exact leave_inside_eq_searched job store hhit htrail' hlt
        · -- the unit still waits at the node
          have heq : here.depth = Trail.depth hit.site.trail := by
            have := here.depth_le_append (first :: more)
            rw [← htrail'] at this
            omega
          simp only [if_neg hlt]
          exact leave_waiting_eq_searched job store hhit htrail' heq rfl

end HotReload
