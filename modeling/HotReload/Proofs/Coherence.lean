/-
# The state of a visit is coherent

A visit goes down and up a program with one state. Whatever node it enters, it
leaves it with the counters that it entered it with; a statement is left one
statement higher, so the count never falls below zero (`visit_counters`). At every
moment the boundary is at most the depth, a unit waits only in a file that is marked
as rewritten, at a depth that a statement around the place has, and the router is
known exactly if the file is marked (`Coherent`). Once the file is marked nothing
that is reported changes any more (`Keeps`). One step has each of these properties
because a call does one of four things (`Responds`), and a visit has them by
induction on the forest (`visit_coherent`).

Key definitions: `Progress.Coherent`, `Progress.Keeps`, `Progress.Responds`, `Stay`,
`stays`, `passes`.
Key theorems: `Progress.responds_onCall`, `visit_counters`, `coherent_passes`,
`isChain_passes`, `visit_coherent`.
-/
import HotReload.Rewrite
import Mathlib.Data.List.Chain

namespace HotReload

variable (job : Job)

namespace Progress

/-! ### The invariant -/

/-- Whether the file of the visit is marked as rewritten. -/
def Marked (s : Progress) : Prop := (s.sessions.get job.file).rewritten = true

/-- What holds of the state of a visit between any two steps. -/
structure Coherent (s : Progress) : Prop where
  boundary_le : ∀ b, s.boundary = some b → b ≤ s.depth
  marked_of_pending : ∀ d unit, s.pending = some (d, unit) → s.Marked job
  pos_of_pending : ∀ d unit, s.pending = some (d, unit) → 1 ≤ d
  pending_le : ∀ d unit, s.pending = some (d, unit) → d ≤ s.depth
  router_iff : s.router.isSome = true ↔ s.Marked job

/-- If the file is marked in the first state, the second one has the same sessions
(so the mark and the models), the same router and the same failures. -/
def Keeps (s s' : Progress) : Prop :=
  s.Marked job → s'.sessions = s.sessions ∧ s'.router = s.router ∧ s'.failures = s.failures

variable {job}

theorem Keeps.refl (s : Progress) : s.Keeps job s := fun _ => ⟨rfl, rfl, rfl⟩

theorem Keeps.trans {s s' s'' : Progress} (h : s.Keeps job s') (h' : s'.Keeps job s'') :
    s.Keeps job s'' := by
  intro hmarked
  obtain ⟨hsessions, hrouter, hfailures⟩ := h hmarked
  have hmarked' : s'.Marked job := by
    unfold Marked
    rw [hsessions]
    exact hmarked
  obtain ⟨hsessions', hrouter', hfailures'⟩ := h' hmarked'
  exact ⟨hsessions'.trans hsessions, hrouter'.trans hrouter, hfailures'.trans hfailures⟩

instance : Trans (Keeps job) (Keeps job) (Keeps job) := ⟨Keeps.trans⟩

variable (job) in
theorem coherent_start (sessions : Sessions) :
    (start (sessions.restart job.file)).Coherent job where
  boundary_le := fun b h => by cases h
  marked_of_pending := fun d unit h => by cases h
  pos_of_pending := fun d unit h => by cases h
  pending_le := fun d unit h => by cases h
  router_iff := by simp [start, Marked, Sessions.restart, Session.empty]

/-! ### What a call does -/

/-- What a call can make of a state: nothing, and as long as the file is not marked, a
model more, a failure more, or a unit that waits for the nearest statement. -/
inductive Responds (job : Job) (s : Progress) : Progress → Prop where
  | nothing : Responds job s s
  | model (path : String) (hopen : ¬ s.Marked job) :
    Responds job s { s with sessions := s.sessions.addModel job.file path }
  | failure (f : Failure) (hopen : ¬ s.Marked job) : Responds job s (s.fail f)
  | unit (router : String) (unit : Tree Node) (hopen : ¬ s.Marked job) (hdepth : 1 ≤ s.depth) :
    Responds job s { s with
      sessions := s.sessions.markRewritten job.file
      pending := some (s.depth, unit)
      router := some router }

theorem responds_onRouter {s : Progress} (hopen : ¬ s.Marked job) (app : Ident)
    (path : Option String) : s.Responds job (s.onRouter job app path) := by
  unfold onRouter
  split
  · exact .failure _ hopen
  · rename_i router
    by_cases hreplaceable : s.replaceable = true
    · rw [if_pos hreplaceable]
      have hdepth : 1 ≤ s.depth := by
        simp only [replaceable, Bool.and_eq_true, bne_iff_ne] at hreplaceable
        omega
      split
      · exact .unit router _ hopen hdepth
      · exact .failure _ hopen
    · rw [if_neg hreplaceable]
      exact .nothing

theorem responds_onModel {s : Progress} (hopen : ¬ s.Marked job) (path : Option String) :
    s.Responds job (s.onModel job path) := by
  cases path with
  | none => exact .nothing
  | some model => exact .model model hopen

theorem responds_onCall (s : Progress) (call : Tree Node) :
    s.Responds job (s.onCall job call) := by
  unfold onCall
  by_cases hopen : (s.sessions.get job.file).rewritten = true
  · rw [if_pos hopen]
    exact .nothing
  · rw [if_neg hopen]
    split
    · exact responds_onRouter hopen _ _
    · exact responds_onModel hopen _
    · exact .nothing
    · exact .nothing

variable {s s' : Progress}

theorem Responds.depth_eq (h : s.Responds job s') : s'.depth = s.depth := by
  cases h <;> rfl

theorem Responds.boundary_eq (h : s.Responds job s') : s'.boundary = s.boundary := by
  cases h <;> rfl

theorem Responds.keeps (h : s.Responds job s') : s.Keeps job s' := by
  intro hmarked
  cases h with
  | nothing => exact ⟨rfl, rfl, rfl⟩
  | model _ hopen | failure _ hopen | unit _ _ hopen _ => exact absurd hmarked hopen

theorem Responds.coherent (h : s.Responds job s') (hs : s.Coherent job) : s'.Coherent job := by
  cases h with
  | nothing => exact hs
  | model path hopen =>
    -- a model leaves the mark as it is
    have hmarked : Marked job { s with sessions := s.sessions.addModel job.file path } ↔
        s.Marked job := by
      simp [Marked, Sessions.addModel, Session.addModel]
    exact ⟨hs.boundary_le, fun d unit h => hmarked.mpr (hs.marked_of_pending d unit h),
      hs.pos_of_pending, hs.pending_le, hs.router_iff.trans hmarked.symm⟩
  | failure f hopen =>
    exact ⟨hs.boundary_le, hs.marked_of_pending, hs.pos_of_pending, hs.pending_le, hs.router_iff⟩
  | unit router unit hopen hdepth =>
    have hmarked : Marked job { s with
        sessions := s.sessions.markRewritten job.file
        pending := some (s.depth, unit)
        router := some router } := by
      simp [Marked, Sessions.markRewritten, Session.markRewritten]
    have hwaits : ∀ d other, some (s.depth, unit) = some (d, other) → d = s.depth :=
      fun d other h => (congrArg Prod.fst (Option.some.inj h)).symm
    exact ⟨hs.boundary_le, fun _ _ _ => hmarked,
      fun d other h => by rw [hwaits d other h]; exact hdepth,
      fun d other h => (hwaits d other h).le, ⟨fun _ => hmarked, fun _ => rfl⟩⟩

/-! ### Down and up a node -/

/-- The state below a node, before a call there is looked at. -/
def descend (s : Progress) (n : Node) : Progress where
  sessions := s.sessions
  depth := if n.isStatement then s.depth + 1 else s.depth
  boundary :=
    if n.isFunction then some (if n.isStatement then s.depth + 1 else s.depth) else s.boundary
  pending := s.pending
  router := s.router
  failures := s.failures

theorem depth_le_descend (s : Progress) (n : Node) : s.depth ≤ (s.descend n).depth := by
  unfold descend
  simp only
  split <;> omega

theorem Coherent.descend (hs : s.Coherent job) (n : Node) : (s.descend n).Coherent job where
  boundary_le := by
    intro b hb
    by_cases hf : n.isFunction = true
    · have heq : some (s.descend n).depth = some b := by
        rw [← hb]
        exact (if_pos hf).symm
      exact (Option.some.inj heq).ge
    · have heq : s.boundary = some b := by
        rw [← hb]
        exact (if_neg hf).symm
      exact (hs.boundary_le b heq).trans (depth_le_descend s n)
  marked_of_pending := hs.marked_of_pending
  pos_of_pending := hs.pos_of_pending
  pending_le := fun d unit h => (hs.pending_le d unit h).trans (depth_le_descend s n)
  router_iff := hs.router_iff

/-- To enter a node is to go down and to look at the call there, if it is one. -/
theorem responds_enter (s : Progress) (t : Tree Node) :
    (s.descend t.root).Responds job (s.enter job t) := by
  have henter : s.enter job t =
      if t.root.isCall then (s.descend t.root).onCall job t else s.descend t.root := by
    unfold enter
    cases hs : t.root.isStatement <;> cases hf : t.root.isFunction <;> simp [descend, hs, hf]
  rw [henter]
  split
  · exact responds_onCall _ t
  · exact .nothing

theorem depth_enter (s : Progress) (t : Tree Node) :
    (s.enter job t).depth = (s.descend t.root).depth :=
  (responds_enter s t).depth_eq

theorem boundary_enter (s : Progress) (t : Tree Node) :
    (s.enter job t).boundary = (s.descend t.root).boundary :=
  (responds_enter s t).boundary_eq

theorem keeps_enter (s : Progress) (t : Tree Node) : s.Keeps job (s.enter job t) := by
  have hdown : s.Keeps job (s.descend t.root) := fun _ => ⟨rfl, rfl, rfl⟩
  exact hdown.trans (responds_enter s t).keeps

theorem Coherent.enter (hs : s.Coherent job) (t : Tree Node) : (s.enter job t).Coherent job :=
  (responds_enter s t).coherent (hs.descend t.root)

/-- To leave a node undoes the counters, and a unit that waits for the node is taken. -/
theorem leave_eq (s : Progress) (boundary : Option Nat) (t : Tree Node) :
    (s.leave boundary t).2 =
      { s with
        depth := if t.root.isStatement then s.depth - 1 else s.depth
        boundary := if t.root.isFunction then boundary else s.boundary
        pending := s.pending.filter fun p => !(t.root.isStatement && p.1 == s.depth) } := by
  obtain ⟨sessions, depth, outer, pending, router, failures⟩ := s
  unfold leave
  rcases pending with _ | ⟨d, unit⟩
  · cases t.root.isStatement <;> cases t.root.isFunction <;> rfl
  · by_cases hd : d = depth <;> cases t.root.isStatement <;> cases t.root.isFunction <;>
      simp [hd, Option.filter]

theorem keeps_leave (s : Progress) (boundary : Option Nat) (t : Tree Node) :
    s.Keeps job (s.leave boundary t).2 := by
  rw [leave_eq]
  exact fun _ => ⟨rfl, rfl, rfl⟩

/-- The counters after leaving a node are those from before it was entered. The children
may have changed in between. -/
theorem counters_leave {n : Node} {kids kids' : Forest Node}
    (hdepth : s'.depth = (s.enter job ⟨n, kids⟩).depth)
    (hboundary : s'.boundary = (s.enter job ⟨n, kids⟩).boundary) :
    (s'.leave s.boundary ⟨n, kids'⟩).2.depth = s.depth ∧
      (s'.leave s.boundary ⟨n, kids'⟩).2.boundary = s.boundary := by
  rw [leave_eq, hdepth, hboundary, depth_enter, boundary_enter]
  cases hs : n.isStatement <;> cases hf : n.isFunction <;> simp [descend, hs, hf]

/-- Leaving keeps a state coherent: a unit that is not taken waits for a statement
further out, and the boundary is the one from before. -/
theorem Coherent.leave (hs : s.Coherent job) (hs' : s'.Coherent job) {n : Node}
    {kids kids' : Forest Node} (hdepth : s'.depth = (s.enter job ⟨n, kids⟩).depth)
    (hboundary : s'.boundary = (s.enter job ⟨n, kids⟩).boundary) :
    (s'.leave s.boundary ⟨n, kids'⟩).2.Coherent job := by
  obtain ⟨hdepth', hboundary'⟩ : (s'.leave s.boundary ⟨n, kids'⟩).2.depth = s.depth ∧
      (s'.leave s.boundary ⟨n, kids'⟩).2.boundary = s.boundary :=
    counters_leave hdepth hboundary
  have hwaits : ∀ d unit, (s'.leave s.boundary ⟨n, kids'⟩).2.pending = some (d, unit) →
      s'.pending = some (d, unit) ∧ (n.isStatement = true → d ≠ s'.depth) := by
    intro d unit h
    rw [leave_eq, Option.filter_eq_some_iff] at h
    refine ⟨h.1, fun hstatement heq => ?_⟩
    simp [hstatement, heq] at h
  have hmarked : (s'.leave s.boundary ⟨n, kids'⟩).2.Marked job ↔ s'.Marked job := by
    rw [leave_eq]
    exact Iff.rfl
  have hbelow : s'.depth = if n.isStatement then s.depth + 1 else s.depth :=
    hdepth.trans (depth_enter s ⟨n, kids⟩)
  refine ⟨?_, ?_, ?_, ?_, ?_⟩
  · rw [hdepth', hboundary']
    exact hs.boundary_le
  · intro d unit h
    exact hmarked.mpr (hs'.marked_of_pending d unit (hwaits d unit h).1)
  · intro d unit h
    exact hs'.pos_of_pending d unit (hwaits d unit h).1
  · intro d unit h
    obtain ⟨hpending, hother⟩ := hwaits d unit h
    have hle := hs'.pending_le d unit hpending
    rw [hdepth']
    by_cases hstatement : n.isStatement = true
    · rw [if_pos hstatement] at hbelow
      have hne := hother hstatement
      omega
    · rw [if_neg hstatement] at hbelow
      omega
  · rw [hmarked, ← hs'.router_iff, leave_eq]

end Progress

/-! ### The states of a visit -/

/-- The stay of a visit at one node: the tree there, and the states in which the node is
entered, in which its children are begun, in which they are done, and in which the node
is left. -/
structure Stay where
  tree : Tree Node
  entered : Progress
  begun : Progress
  done : Progress
  left : Progress

namespace Stay

/-- The states of a stay, in order. -/
def states (stay : Stay) : List Progress := [stay.entered, stay.begun, stay.done, stay.left]

/-- The stay of a visit at the node `n` with the children `kids`, entered in the state
`s`. -/
def ofVisit (n : Node) (kids : Forest Node) (s : Progress) : Stay where
  tree := ⟨n, kids⟩
  entered := s
  begun := s.enter job ⟨n, kids⟩
  done := (visit job kids (s.enter job ⟨n, kids⟩)).2
  left :=
    ((visit job kids (s.enter job ⟨n, kids⟩)).2.leave s.boundary
      ⟨n, (visit job kids (s.enter job ⟨n, kids⟩)).1⟩).2

/-- A node is left with the counters that it was entered with, and the depth that a
statement is taken off is not zero. -/
structure Balanced (stay : Stay) : Prop where
  depth_eq : stay.left.depth = stay.entered.depth
  boundary_eq : stay.left.boundary = stay.entered.boundary
  depth_pos : stay.tree.root.isStatement = true → stay.done.depth = stay.left.depth + 1

end Stay

/-- The stays of a visit of the forest, a parent before its children. -/
def stays : Forest Node → Progress → List Stay
  | .nil, _ => []
  | .cons n kids rest, s =>
    let stay := Stay.ofVisit job n kids s
    stay :: (stays kids stay.begun ++ stays rest stay.left)

/-- The states that a visit of the forest goes through, in order of time: those of a stay,
with the ones of the children between the second and the third. -/
def passes : Forest Node → Progress → List Progress
  | .nil, _ => []
  | .cons n kids rest, s =>
    let stay := Stay.ofVisit job n kids s
    stay.entered :: stay.begun :: (passes kids stay.begun ++
      stay.done :: stay.left :: passes rest stay.left)

/-- A visit goes on in the state in which it left the first tree. -/
theorem visit_cons_state (n : Node) (kids rest : Forest Node) (s : Progress) :
    (visit job (.cons n kids rest) s).2 = (visit job rest (Stay.ofVisit job n kids s).left).2 := rfl

variable {job}

/-- Every node of the forest has its stay. -/
theorem map_tree_stays (f : Forest Node) (s : Progress) :
    (stays job f s).map Stay.tree = f.preorder := by
  induction f generalizing s with
  | nil => rfl
  | cons n kids rest ihk ihr =>
    rw [stays, List.map_cons, List.map_append, ihk, ihr]
    rfl

/-- Every stay is that at a node of the forest, entered in some state. -/
theorem exists_of_mem_stays (f : Forest Node) (s : Progress) :
    ∀ stay ∈ stays job f s, ∃ n kids s', stay = Stay.ofVisit job n kids s' := by
  induction f generalizing s with
  | nil => simp [stays]
  | cons n kids rest ihk ihr =>
    intro stay hstay
    rw [stays, List.mem_cons, List.mem_append] at hstay
    rcases hstay with rfl | hkids | hrest
    · exact ⟨n, kids, s, rfl⟩
    · exact ihk _ stay hkids
    · exact ihr _ stay hrest

/-- The states of a stay are passed in their order. -/
theorem states_sublist_passes (f : Forest Node) (s : Progress) :
    ∀ stay ∈ stays job f s, stay.states.Sublist (passes job f s) := by
  induction f generalizing s with
  | nil => simp [stays]
  | cons n kids rest ihk ihr =>
    intro stay hstay
    rw [stays, List.mem_cons, List.mem_append] at hstay
    rw [passes]
    rcases hstay with rfl | hkids | hrest
    · refine List.Sublist.cons_cons _ (List.Sublist.cons_cons _ ?_)
      apply List.sublist_append_of_sublist_right
      exact ((List.nil_sublist _).cons_cons _).cons_cons _
    · refine List.Sublist.cons _ (List.Sublist.cons _ ?_)
      exact List.sublist_append_of_sublist_left (ihk _ stay hkids)
    · refine List.Sublist.cons _ (List.Sublist.cons _ ?_)
      apply List.sublist_append_of_sublist_right
      exact ((ihr _ stay hrest).cons _).cons _

variable (job) in
/-- **A visit restores the counters.** -/
theorem visit_counters (f : Forest Node) (s : Progress) :
    (visit job f s).2.depth = s.depth ∧ (visit job f s).2.boundary = s.boundary := by
  induction f generalizing s with
  | nil => exact ⟨rfl, rfl⟩
  | cons n kids rest ihk ihr =>
    obtain ⟨hdepth, hboundary⟩ := ihk (s.enter job ⟨n, kids⟩)
    obtain ⟨hdepth', hboundary'⟩ := Progress.counters_leave (s := s) hdepth hboundary
    rw [visit_cons_state]
    exact ⟨(ihr _).1.trans hdepth', (ihr _).2.trans hboundary'⟩

theorem Stay.balanced (n : Node) (kids : Forest Node) (s : Progress) :
    (ofVisit job n kids s).Balanced := by
  obtain ⟨hdepth, hboundary⟩ := visit_counters job kids (s.enter job ⟨n, kids⟩)
  obtain ⟨hdepth', hboundary'⟩ := Progress.counters_leave (s := s) hdepth hboundary
  refine ⟨hdepth', hboundary', fun hstatement => ?_⟩
  have hbelow : (s.enter job ⟨n, kids⟩).depth = s.depth + 1 :=
    (Progress.depth_enter s ⟨n, kids⟩).trans (if_pos hstatement)
  exact hdepth.trans (hbelow.trans (congrArg (· + 1) hdepth'.symm))

theorem balanced_stays (f : Forest Node) (s : Progress) :
    ∀ stay ∈ stays job f s, stay.Balanced := by
  intro stay hstay
  obtain ⟨n, kids, s', rfl⟩ := exists_of_mem_stays f s stay hstay
  exact Stay.balanced n kids s'

/-- **Every state of a visit is coherent.** -/
theorem coherent_passes (f : Forest Node) {s : Progress} (hs : s.Coherent job) :
    (∀ s' ∈ passes job f s, s'.Coherent job) ∧ (visit job f s).2.Coherent job := by
  induction f generalizing s with
  | nil => exact ⟨by simp [passes], hs⟩
  | cons n kids rest ihk ihr =>
    have hbegun : (s.enter job ⟨n, kids⟩).Coherent job := hs.enter _
    obtain ⟨hinside, hdone⟩ := ihk hbegun
    obtain ⟨hdepth, hboundary⟩ := visit_counters job kids (s.enter job ⟨n, kids⟩)
    have hleft : (Stay.ofVisit job n kids s).left.Coherent job := hs.leave hdone hdepth hboundary
    obtain ⟨hbehind, hfinal⟩ := ihr hleft
    refine ⟨fun s' hs' => ?_, hfinal⟩
    rw [passes, List.mem_cons, List.mem_cons, List.mem_append, List.mem_cons, List.mem_cons] at hs'
    rcases hs' with rfl | rfl | hs' | rfl | rfl | hs'
    · exact hs
    · exact hbegun
    · exact hinside s' hs'
    · exact hdone
    · exact hleft
    · exact hbehind s' hs'

/-- From one state of a visit to the next, and from the last one to the end, nothing
that is settled changes. -/
theorem isChain_passes (f : Forest Node) (s : Progress) :
    (s :: (passes job f s ++ [(visit job f s).2])).IsChain (Progress.Keeps job) := by
  induction f generalizing s with
  | nil => exact .cons_cons (.refl s) (.singleton s)
  | cons n kids rest ihk ihr =>
    have hentered : s.Keeps job (Stay.ofVisit job n kids s).entered := .refl s
    have hbegun : (Stay.ofVisit job n kids s).entered.Keeps job (Stay.ofVisit job n kids s).begun :=
      Progress.keeps_enter s ⟨n, kids⟩
    have hinside : ((Stay.ofVisit job n kids s).begun ::
        passes job kids (Stay.ofVisit job n kids s).begun ++
          [(Stay.ofVisit job n kids s).done]).IsChain (Progress.Keeps job) := ihk _
    have hleft : (Stay.ofVisit job n kids s).done.Keeps job (Stay.ofVisit job n kids s).left :=
      Progress.keeps_leave _ _ _
    have hlater := List.isChain_split.mpr
      ⟨hinside, List.IsChain.cons_cons hleft (ihr (Stay.ofVisit job n kids s).left)⟩
    rw [passes, visit_cons_state]
    simpa using (hlater.cons_cons hbegun).cons_cons hentered

theorem pairwise_passes (f : Forest Node) (s : Progress) :
    (passes job f s ++ [(visit job f s).2]).Pairwise (Progress.Keeps job) :=
  (List.pairwise_cons.mp (List.isChain_iff_pairwise.mp (isChain_passes f s))).2

/-- **The state of a visit is coherent.** In the visit of a program every node has its
stay, and the states of the stay are among those that the visit passes, in order. The
counters are restored at every node, and the depth is never taken below zero. Every
state is coherent. What is settled by one state is the same in every later one. At the
end no unit waits. -/
theorem visit_coherent (program : Tree Node) (sessions : Sessions) :
    ∃ states final,
      passes job program.toForest (.start (sessions.restart job.file)) = states ∧
      (visit job program.toForest (.start (sessions.restart job.file))).2 = final ∧
      (stays job program.toForest (.start (sessions.restart job.file))).map Stay.tree =
        program.preorder ∧
      (∀ stay ∈ stays job program.toForest (.start (sessions.restart job.file)),
        stay.Balanced ∧ stay.states.Sublist states) ∧
      (∀ s ∈ states, s.Coherent job) ∧
      (states ++ [final]).Pairwise (Progress.Keeps job) ∧
      final.Coherent job ∧ final.pending = none := by
  have hstart := Progress.coherent_start job sessions
  obtain ⟨hstates, hfinal⟩ := coherent_passes program.toForest hstart
  have hdepth : (visit job program.toForest (.start (sessions.restart job.file))).2.depth = 0 :=
    (visit_counters job program.toForest _).1
  refine ⟨_, _, rfl, rfl, ?_, fun stay hstay => ⟨balanced_stays _ _ stay hstay,
    states_sublist_passes _ _ stay hstay⟩, hstates, pairwise_passes _ _, hfinal, ?_⟩
  · rw [map_tree_stays, Tree.preorder_toForest]
  · cases hpending : (visit job program.toForest (.start (sessions.restart job.file))).2.pending with
    | none => rfl
    | some waiting =>
      -- a unit would wait at a depth between one and zero
      obtain ⟨d, unit⟩ := waiting
      have hpos := hfinal.pos_of_pending d unit hpending
      have hle := hfinal.pending_le d unit hpending
      omega

end HotReload
