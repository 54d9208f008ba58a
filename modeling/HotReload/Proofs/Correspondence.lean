/-
# Programs whose calls correspond

A map of the nodes of a program that keeps the shape keeps the calls in their places: the
trails of corresponding calls go through nodes of the same number that are statements, or
functions, both or neither. Then corresponding calls stand in a statement of their
function both or neither, and the statement has the same address in both programs. If no
call is a candidate where its counterpart is none, a search finds nothing where the other
finds nothing, and the first candidates correspond.

Key definitions: `Step.Alike`, `Trail.Alike`, `Site.Changed`.
Key theorems: `Trail.Alike.standsInStatement_iff`, `Trail.Alike.address_toStatement`,
`Tree.forall₂_callSites_mapAt`, `Tree.treeAt?_of_mem_callSites`,
`Job.IsFirstCandidate.of_forall₂`, `Job.rewriteProgram_eq_of_isFirstCandidate`.
-/
import HotReload.Proofs.Outcome
import HotReload.Proofs.Tree.Texts
import Mathlib.Data.List.Forall2

namespace HotReload

open List (Forall₂)

/-! ### Trails through corresponding nodes -/

/-- The two steps lead to the child of the same number, in the same field, and a visit
counts both or neither as a statement, and as a function. -/
structure Step.Alike (a b : Step) : Prop where
  index : a.index = b.index
  field : a.node.field = b.node.field
  isStatement : a.node.isStatement = b.node.isStatement
  isFunction : a.node.isFunction = b.node.isFunction

namespace Trail

/-- The trails go through corresponding nodes. -/
def Alike (a b : Trail) : Prop := Forall₂ Step.Alike a b

namespace Alike

variable {a b : Trail}

theorem concat (h : a.Alike b) {s t : Step} (hst : s.Alike t) : Alike (a ++ [s]) (b ++ [t]) :=
  List.rel_append h (.cons hst .nil)

theorem map_index (h : a.Alike b) : a.map Step.index = b.map Step.index := by
  induction h with
  | nil => rfl
  | cons hstep _ ih => rw [List.map_cons, List.map_cons, hstep.index, ih]

theorem address (h : a.Alike b) : a.address = b.address :=
  congrArg List.tail h.map_index

theorem counters (h : a.Alike b) : a.counters = b.counters := by
  have hfold : ∀ start, a.foldl descend start = b.foldl descend start := by
    induction h with
    | nil => exact fun start => rfl
    | cons hstep _ ih =>
      intro start
      rw [List.foldl_cons, List.foldl_cons, ih]
      unfold descend
      rw [hstep.isStatement, hstep.isFunction]
  exact hfold (0, none)

/-- A visit counts alike on both trails, so its test has the same result. -/
theorem standsInStatement_iff (h : a.Alike b) : a.StandsInStatement ↔ b.StandsInStatement := by
  rw [← replaceable_counters_iff, ← replaceable_counters_iff, depth, boundary, depth, boundary,
    h.counters]

/-- The last statements of the trails correspond. -/
theorem toStatement (h : a.Alike b) : a.toStatement.Alike b.toStatement := by
  have hdrop : ∀ {c d : Trail}, c.Alike d →
      Trail.Alike (List.dropWhile (fun step => !step.node.isStatement) c)
        (List.dropWhile (fun step => !step.node.isStatement) d) := by
    intro c d hcd
    induction hcd with
    | nil => exact .nil
    | @cons s t c d hstep hcd ih =>
      by_cases hs : s.node.isStatement = true
      · have ht : t.node.isStatement = true := hstep.isStatement ▸ hs
        rw [List.dropWhile_cons_of_neg (by simp [hs]), List.dropWhile_cons_of_neg (by simp [ht])]
        exact .cons hstep hcd
      · have ht : ¬ t.node.isStatement = true := hstep.isStatement ▸ hs
        rw [List.dropWhile_cons_of_pos (by simp [hs]), List.dropWhile_cons_of_pos (by simp [ht])]
        exact ih
  exact List.rel_reverse (hdrop (List.rel_reverse h))

/-- The trails end in the same field. -/
theorem field (h : a.Alike b) : a.field = b.field := by
  have hhead : ∀ {c d : Trail}, c.Alike d →
      c.head?.map (·.node.field) = d.head?.map (·.node.field) := by
    intro c d hcd
    cases hcd with
    | nil => rfl
    | cons hstep _ => exact congrArg some hstep.field
  have hlast := hhead (List.rel_reverse h)
  rw [List.head?_reverse, List.head?_reverse] at hlast
  unfold Trail.field
  rw [hlast]

end Alike

end Trail

/-! ### The calls of a changed program -/

/-- The call `b` is the call `a`, with its nodes changed by `g`, in the same place. -/
structure Site.Changed (g : List Nat → Node → Node) (a b : Site) : Prop where
  trail : a.trail.Alike b.trail
  call : b.call = a.call.mapAt fun p => g (a.trail.address ++ p)

namespace Forest

/-- The calls of a changed forest, one for one. The map is given the numbers of all nodes
from the root of the program on. -/
theorem forall₂_sites_mapAt {g : List Nat → Node → Node} (h : KeepsShape g) (f : Forest Node)
    {above above' : Trail} (habove : above.Alike above') (i : Nat) :
    Forall₂ (fun a b => a.trail.Alike b.trail ∧
        b.call = a.call.mapAt fun p => g (a.trail.map Step.index ++ p))
      (f.sites above i)
      ((f.mapAt (fun p => g (above.map Step.index ++ p)) i).sites above' i) := by
  induction f generalizing above above' i with
  | nil => exact .nil
  | cons n kids rest ihk ihr =>
    have hnumbers : ∀ p, above.map Step.index ++ i :: p =
        (above ++ [(⟨i, n⟩ : Step)]).map Step.index ++ p := by simp
    have hhere : Trail.Alike (above ++ [⟨i, n⟩])
        (above' ++ [⟨i, g (above.map Step.index ++ [i]) n⟩]) :=
      habove.concat ⟨rfl, (h.field _ n).symm, (h.isStatement _ n).symm, (h.isFunction _ n).symm⟩
    have hkids := ihk hhere 0
    have hrest := ihr habove (i + 1)
    simp only [← hnumbers] at hkids
    rw [sites, mapAt, sites, h.isCall]
    refine List.rel_append ?_ (List.rel_append hkids hrest)
    by_cases hcall : n.isCall = true
    · rw [if_pos hcall, if_pos hcall]
      refine .cons ⟨hhere, ?_⟩ .nil
      simp only [← hnumbers]
      rfl
    · rw [if_neg hcall, if_neg hcall]
      exact .nil

/-- A call of a forest is reached by the numbers on its trail. -/
theorem treeAt?_of_mem_sites {f : Forest Node} {above : Trail} {i : Nat} {site : Site}
    (h : site ∈ f.sites above i) :
    ∃ j p, site.trail.map Step.index = above.map Step.index ++ (i + j) :: p ∧
      f.treeAt? j p = some site.call := by
  induction f generalizing above i with
  | nil => simp [sites] at h
  | cons n kids rest ihk ihr =>
    simp only [sites, List.mem_append] at h
    rcases h with h | h | h
    · by_cases hcall : n.isCall = true
      · obtain rfl : site = ⟨above ++ [⟨i, n⟩], ⟨n, kids⟩⟩ := by simpa [hcall] using h
        exact ⟨0, [], by simp, rfl⟩
      · simp [hcall] at h
    · obtain ⟨j, p, htrail, hat⟩ := ihk h
      exact ⟨0, j :: p, by simp [htrail], hat⟩
    · obtain ⟨j, p, htrail, hat⟩ := ihr h
      have hindex : i + 1 + j = i + (j + 1) := by omega
      exact ⟨j + 1, p, by rw [htrail, hindex], hat⟩

/-- No two calls of a forest are reached by the same numbers. -/
theorem pairwise_sites (f : Forest Node) (above : Trail) (i : Nat) :
    (f.sites above i).Pairwise
      fun a b => a.trail.map Step.index ≠ b.trail.map Step.index := by
  induction f generalizing above i with
  | nil => exact .nil
  | cons n kids rest ihk ihr =>
    have hkids : ∀ a ∈ kids.sites (above ++ [⟨i, n⟩]) 0, ∃ j p,
        a.trail.map Step.index = above.map Step.index ++ i :: j :: p := by
      intro a ha
      obtain ⟨j, p, htrail, -⟩ := treeAt?_of_mem_sites ha
      exact ⟨0 + j, p, by rw [htrail]; simp⟩
    have hrest : ∀ b ∈ rest.sites above (i + 1), ∃ j p,
        b.trail.map Step.index = above.map Step.index ++ (i + 1 + j) :: p := by
      intro b hb
      obtain ⟨j, p, htrail, -⟩ := treeAt?_of_mem_sites hb
      exact ⟨j, p, htrail⟩
    rw [sites, List.pairwise_append, List.pairwise_append]
    refine ⟨by split <;> simp, ⟨ihk _ 0, ihr above (i + 1), ?_⟩, ?_⟩
    · intro a ha b hb
      obtain ⟨j, p, hatrail⟩ := hkids a ha
      obtain ⟨k, q, hbtrail⟩ := hrest b hb
      rw [hatrail, hbtrail]
      intro heq
      have hindex := (List.cons.inj (List.append_cancel_left heq)).1
      omega
    · intro a ha b hb
      obtain rfl : a = ⟨above ++ [⟨i, n⟩], ⟨n, kids⟩⟩ := by
        by_cases hcall : n.isCall = true <;> simp [hcall] at ha
        exact ha
      have hatrail : (above ++ [(⟨i, n⟩ : Step)]).map Step.index =
          above.map Step.index ++ [i] := by simp
      rw [hatrail]
      rcases List.mem_append.mp hb with hb | hb
      · obtain ⟨j, p, hbtrail⟩ := hkids b hb
        rw [hbtrail]
        intro heq
        have hrest := (List.cons.inj (List.append_cancel_left heq)).2
        cases hrest
      · obtain ⟨k, q, hbtrail⟩ := hrest b hb
        rw [hbtrail]
        intro heq
        have hindex := (List.cons.inj (List.append_cancel_left heq)).1
        omega

end Forest

namespace Tree

variable {program : Tree Node} {site : Site}

/-- The calls of a changed program, one for one. -/
theorem forall₂_callSites_mapAt {g : List Nat → Node → Node} (h : KeepsShape g)
    (program : Tree Node) :
    Forall₂ (Site.Changed g) program.callSites (program.mapAt g).callSites := by
  have hshape : KeepsShape fun p => g p.tail :=
    ⟨fun p => h.field p.tail, fun p => h.context p.tail, fun p => h.textless p.tail⟩
  have hsites := Forest.forall₂_sites_mapAt hshape program.toForest (.nil : Trail.Alike [] []) 0
  have hboth := (List.forall₂_and_left program.callSites _).mpr ⟨fun a ha => ha, hsites⟩
  refine hboth.imp ?_
  rintro a b ⟨ha, htrail, hcall⟩
  refine ⟨htrail, ?_⟩
  rw [hcall]
  obtain ⟨more, hmore, -⟩ := trail_of_mem_callSites ha
  rw [Trail.address, hmore]
  rfl

/-- A call of a program is at the address that its trail leads to. -/
theorem treeAt?_of_mem_callSites (h : site ∈ program.callSites) :
    program.treeAt? site.trail.address = some site.call := by
  obtain ⟨j, p, htrail, hat⟩ := Forest.treeAt?_of_mem_sites h
  rw [Trail.address, htrail]
  exact (treeAt?_of_toForest hat).2

/-- No two calls of a program have the same address. -/
theorem pairwise_address_callSites (program : Tree Node) :
    program.callSites.Pairwise fun a b => a.trail.address ≠ b.trail.address := by
  refine (Forest.pairwise_sites program.toForest [] 0).imp_of_mem ?_
  intro a b ha hb hne heq
  obtain ⟨more, hmore, -⟩ := trail_of_mem_callSites ha
  obtain ⟨more', hmore', -⟩ := trail_of_mem_callSites hb
  apply hne
  rw [Trail.address, Trail.address, hmore, hmore'] at heq
  rw [hmore, hmore', List.map_cons, List.map_cons]
  exact congrArg (0 :: ·) heq

end Tree

/-! ### Searches on corresponding calls -/

/-- A list that corresponds to a list with a member splits at the counterpart of the
member. -/
theorem exists_split_of_forall₂ {α β : Type} {R : α → β → Prop} {before later : List α} {a : α}
    {bs : List β} (h : Forall₂ R (before ++ a :: later) bs) :
    ∃ before' b later', bs = before' ++ b :: later' ∧ Forall₂ R before before' ∧ R a b ∧
      Forall₂ R later later' := by
  induction before generalizing bs with
  | nil =>
    obtain ⟨b, later', hab, hlater, rfl⟩ := List.forall₂_cons_left_iff.mp h
    exact ⟨[], b, later', rfl, .nil, hab, hlater⟩
  | cons first before ih =>
    obtain ⟨first', rest, hfirst, hrest, rfl⟩ := List.forall₂_cons_left_iff.mp h
    obtain ⟨before', b, later', rfl, hbefore, hab, hlater⟩ := ih hrest
    exact ⟨first' :: before', b, later', rfl, .cons hfirst hbefore, hab, hlater⟩

namespace Job

variable {job job' : Job} {R : Site → Site → Prop}

/-- If no call is a candidate where its counterpart is none, there is no candidate where
there is none among the counterparts. -/
theorem noCandidate_of_forall₂
    (hstep : ∀ before before' a b, Forall₂ R before before' → R a b →
      job.hit? before a = none → job'.hit? before' b = none)
    {before before' sites sites' : List Site} (hbefore : Forall₂ R before before')
    (hsites : Forall₂ R sites sites') (hno : job.NoCandidate before sites) :
    job'.NoCandidate before' sites' := by
  rw [← firstHit_eq_none_iff] at hno ⊢
  induction hsites generalizing before before' with
  | nil => rfl
  | @cons a b sites sites' hab hsites ih =>
    cases hhit : job.hit? before a with
    | some hit => simp [firstHit, hhit] at hno
    | none =>
      have hrest : job.firstHit (before ++ [a]) sites = none := by
        simpa [firstHit, hhit] using hno
      have hb := hstep before before' a b hbefore hab hhit
      have hconcat : Forall₂ R (before ++ [a]) (before' ++ [b]) :=
        List.rel_append hbefore (.cons hab .nil)
      rw [firstHit, hb]
      exact ih hconcat hrest

/-- The counterpart of the first candidate is the first candidate, if it is a candidate
and no call is one where its counterpart is none. -/
theorem IsFirstCandidate.of_forall₂
    (hstep : ∀ before before' a b, Forall₂ R before before' → R a b →
      job.hit? before a = none → job'.hit? before' b = none)
    {sites sites' : List Site} (hsites : Forall₂ R sites sites') {hit : Hit}
    (hfirst : job.IsFirstCandidate sites hit)
    (hcandidate : ∀ before' b, Forall₂ R hit.before before' → R hit.site b →
      job'.IsCandidate { hit with before := before', site := b }) :
    ∃ before' b, Forall₂ R hit.before before' ∧ R hit.site b ∧
      job'.IsFirstCandidate sites' { hit with before := before', site := b } := by
  obtain ⟨later, rfl⟩ := hfirst.split
  obtain ⟨before', b, later', rfl, hbefore, hb, -⟩ := exists_split_of_forall₂ hsites
  refine ⟨before', b, hbefore, hb, ⟨later', rfl⟩, hcandidate before' b hbefore hb, ?_⟩
  exact noCandidate_of_forall₂ hstep .nil hbefore hfirst.first

/-! ### Rewriting for a job that two programs share -/

variable {options : Options} {file : FileIdentity} {program : Tree Node} (sessions : Sessions)

/-- Without a candidate of the job the program stays what it was. -/
theorem rewriteProgram_eq_of_noCandidate (hjob : Job.ofProgram options file program = job)
    (h : job.NoCandidate [] program.callSites) :
    rewriteProgram options file program sessions =
      (program, ⟨file, none, job.modelsOf program.callSites, job.failuresOf [] program.callSites⟩,
        sessions.set file ⟨false, job.modelsOf program.callSites⟩) := by
  subst hjob
  exact rewriteProgram_of_noCandidate options file program sessions h

/-- With a candidate of the job the program is rewritten for the first one. -/
theorem rewriteProgram_eq_of_isFirstCandidate {hit : Hit}
    (hjob : Job.ofProgram options file program = job)
    (h : job.IsFirstCandidate program.callSites hit) :
    rewriteProgram options file program sessions =
      (program.replaceAt (Trail.toStatement hit.site.trail).address hit.statement,
        ⟨file, some hit.router, job.modelsOf hit.before, job.failuresOf [] hit.before⟩,
        sessions.set file ⟨true, job.modelsOf hit.before⟩) := by
  subst hjob
  exact rewriteProgram_of_isFirstCandidate options file program sessions h

end Job

end HotReload
