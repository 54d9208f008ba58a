/-
# The calls of a program and the ways to them

A site is a call of a program together with its trail, the nodes on the way from
the root of the program to the call. What a visit of a program counts while it
goes up and down can be read off the trail: the two counters at a call are
those of its trail, and the test that a visit makes with them asks whether the
last statement on the trail lies below the last function
(`replaceable_counters_iff`).

Key definitions: `Step`, `Trail.address`, `Trail.counters`,
`Trail.StandsInStatement`, `Trail.toStatement`, `Site`, `Tree.callSites`.
Key theorems: `Trail.replaceable_counters_iff`, `Trail.toStatement_append_cases`,
`Forest.nodeAt?_of_mem_sites`.
-/
import HotReload.Proofs.Tree.Address
import HotReload.Rewrite
import Mathlib.Data.List.DropRight

namespace HotReload

/-- A node on a trail and its number among its siblings. -/
structure Step where
  index : Nat
  node : Node
deriving DecidableEq

/-- The nodes on the way from the root of a program to one of its nodes, both
included. -/
abbrev Trail : Type := List Step

namespace Trail

/-- The address that a trail leads to; the root of a program has no number. -/
def address (trail : Trail) : List Nat := (trail.map Step.index).tail

theorem address_concat {trail : Trail} (h : trail ≠ []) (step : Step) :
    address (trail ++ [step]) = trail.address ++ [step.index] := by
  rcases trail with _ | ⟨first, trail⟩
  · exact absurd rfl h
  · simp [address]

/-! ### The counters of a visit -/

/-- What entering a node does to the number of statements around a place and to
that number at the start of the nearest function. -/
def descend (counters : Nat × Option Nat) (step : Step) : Nat × Option Nat :=
  let depth := if step.node.isStatement then counters.1 + 1 else counters.1
  (depth, if step.node.isFunction then some depth else counters.2)

/-- The number of statements on a trail, and that number at its last function. -/
def counters (trail : Trail) : Nat × Option Nat := trail.foldl descend (0, none)

/-- The number of statements on a trail. -/
def depth (trail : Trail) : Nat := trail.counters.1

/-- The number of statements on a trail up to its last function. -/
def boundary (trail : Trail) : Option Nat := trail.counters.2

@[simp] theorem depth_nil : depth [] = 0 := rfl

@[simp] theorem boundary_nil : boundary [] = none := rfl

theorem depth_concat (trail : Trail) (step : Step) : depth (trail ++ [step]) =
    if step.node.isStatement then trail.depth + 1 else trail.depth := by
  simp [depth, counters, descend]

theorem boundary_concat (trail : Trail) (step : Step) : boundary (trail ++ [step]) =
    if step.node.isFunction then some (depth (trail ++ [step])) else trail.boundary := by
  simp [depth, boundary, counters, descend]

/-- Going further down never makes the number of statements smaller. -/
theorem depth_le_append (trail more : Trail) : trail.depth ≤ depth (trail ++ more) := by
  induction more using List.reverseRecOn with
  | nil => simp
  | append_singleton more step ih =>
    rw [← List.append_assoc, depth_concat]
    split <;> omega

theorem boundary_le_depth (trail : Trail) : ∀ b ∈ trail.boundary, b ≤ trail.depth := by
  induction trail using List.reverseRecOn with
  | nil => simp
  | append_singleton trail step ih =>
    intro b hb
    have hle := depth_le_append trail [step]
    rw [boundary_concat] at hb
    split at hb
    · simp_all
    · exact le_trans (ih b hb) hle

/-- The last statement of the trail lies below its last function. -/
def StandsInStatement (trail : Trail) : Prop :=
  ∃ outer statement inner, trail = outer ++ statement :: inner ∧
    statement.node.isStatement = true ∧ (∀ step ∈ inner, step.node.isStatement = false) ∧
    ∀ step ∈ statement :: inner, step.node.isFunction = false

theorem not_standsInStatement_nil : ¬ StandsInStatement [] := by
  rintro ⟨outer, statement, inner, h, -⟩
  simp at h

theorem standsInStatement_concat (trail : Trail) (step : Step) :
    StandsInStatement (trail ++ [step]) ↔
      step.node.isFunction = false ∧ (step.node.isStatement = true ∨ trail.StandsInStatement) := by
  constructor
  · rintro ⟨outer, statement, inner, h, hs, hi, hf⟩
    rcases inner.eq_nil_or_concat' with rfl | ⟨inner, last, rfl⟩
    · obtain ⟨rfl, rfl⟩ : trail = outer ∧ step = statement := by simpa using h
      exact ⟨hf step (by simp), Or.inl hs⟩
    · rw [← List.cons_append, ← List.append_assoc] at h
      obtain ⟨rfl, rfl⟩ : trail = outer ++ statement :: inner ∧ step = last := by
        simpa using List.append_inj' h rfl
      refine ⟨hf step (by simp), Or.inr ⟨outer, statement, inner, rfl, hs, ?_, ?_⟩⟩
      · exact fun x hx => hi x (by simp [hx])
      · intro x hx
        exact hf x (by simp only [List.mem_cons, List.mem_append] at hx ⊢; tauto)
  · rintro ⟨hf, hs | ⟨outer, statement, inner, rfl, hs, hi, hff⟩⟩
    · exact ⟨trail, step, [], rfl, hs, by simp, by simpa using hf⟩
    · by_cases h : step.node.isStatement = true
      · exact ⟨_, step, [], rfl, h, by simp, by simpa using hf⟩
      · refine ⟨outer, statement, inner ++ [step], by simp, hs, ?_, ?_⟩
        · intro x hx
          rcases List.mem_append.mp hx with hx | hx
          · exact hi x hx
          · simpa [List.mem_singleton.mp hx] using h
        · intro x hx
          rw [← List.cons_append] at hx
          rcases List.mem_append.mp hx with hx | hx
          · exact hff x hx
          · rw [List.mem_singleton.mp hx, hf]

/-- **The test of a visit.** A visit compares its two counters; what it learns is
whether the last statement lies below the last function. -/
theorem replaceable_counters_iff (trail : Trail) :
    (trail.depth != 0 && trail.boundary != some trail.depth) = true ↔
      trail.StandsInStatement := by
  induction trail using List.reverseRecOn with
  | nil => simp [not_standsInStatement_nil]
  | append_singleton trail step ih =>
    rw [standsInStatement_concat, ← ih, boundary_concat, depth_concat]
    by_cases hf : step.node.isFunction = true
    · simp [hf]
    · by_cases hs : step.node.isStatement = true
      · have hb : boundary trail ≠ some (depth trail + 1) := fun h => by
          have := boundary_le_depth trail _ h
          omega
        simp [hf, hs, hb]
      · simp [hf, hs]

instance : DecidablePred StandsInStatement := fun trail =>
  decidable_of_iff _ (replaceable_counters_iff trail)

/-! ### The last statement -/

/-- The trail up to its last statement; empty if there is none. -/
def toStatement (trail : Trail) : Trail := trail.rdropWhile fun step => !step.node.isStatement

theorem toStatement_concat_of_statement (trail : Trail) {step : Step}
    (h : step.node.isStatement = true) : toStatement (trail ++ [step]) = trail ++ [step] := by
  simp [toStatement, h]

theorem toStatement_append (outer : Trail) {inner : Trail}
    (h : ∀ step ∈ inner, step.node.isStatement = false) :
    toStatement (outer ++ inner) = outer.toStatement := by
  induction inner using List.reverseRecOn with
  | nil => simp
  | append_singleton inner step ih =>
    rw [← List.append_assoc, toStatement, List.rdropWhile_concat, if_pos (by simp [h step])]
    exact ih fun x hx => h x (by simp [hx])

/-- Going further down, either no statement is entered, or the last statement is
among the nodes that are entered. -/
theorem toStatement_append_cases (outer inner : Trail) :
    (depth (outer ++ inner) = outer.depth ∧ toStatement (outer ++ inner) = outer.toStatement) ∨
      (outer.depth < depth (outer ++ inner) ∧
        ∃ start last rest, inner = start ++ last :: rest ∧
          toStatement (outer ++ inner) = outer ++ (start ++ [last])) := by
  induction inner using List.reverseRecOn with
  | nil => simp
  | append_singleton inner step ih =>
    rw [← List.append_assoc]
    by_cases h : step.node.isStatement = true
    · have hle := depth_le_append outer inner
      rw [toStatement_concat_of_statement _ h, depth_concat, if_pos h]
      exact Or.inr ⟨by omega, inner, step, [], rfl, by simp⟩
    · have hstep : toStatement (outer ++ inner ++ [step]) = toStatement (outer ++ inner) :=
        toStatement_append _ (by simpa using h)
      rw [hstep, depth_concat, if_neg h]
      rcases ih with h | ⟨hlt, start, last, rest, rfl, hto⟩
      · exact Or.inl h
      · exact Or.inr ⟨hlt, start, last, rest ++ [step], by simp, hto⟩

/-- A trail with a statement splits at its last one. -/
theorem StandsInStatement.exists_split {trail : Trail} (h : trail.StandsInStatement) :
    ∃ outer statement inner, trail = outer ++ statement :: inner ∧
      trail.toStatement = outer ++ [statement] ∧ statement.node.isStatement = true ∧
      ∀ step ∈ inner, step.node.isStatement = false := by
  obtain ⟨outer, statement, inner, rfl, hs, hi, -⟩ := h
  refine ⟨outer, statement, inner, rfl, ?_, hs, hi⟩
  rw [← List.singleton_append, ← List.append_assoc, toStatement_append _ hi,
    toStatement_concat_of_statement _ hs]

end Trail

/-! ### Sites -/

/-- A call of a program and the trail that leads to it. -/
structure Site where
  trail : Trail
  call : Tree Node
deriving DecidableEq

/-- The calls of a forest in the order of a visit. The forest stands below the
nodes of `above`, and its first tree has the number `i` among its siblings. -/
def Forest.sites : Forest Node → Trail → Nat → List Site
  | .nil, _, _ => []
  | .cons n kids rest, above, i =>
    (if n.isCall then [⟨above ++ [⟨i, n⟩], ⟨n, kids⟩⟩] else []) ++
      (kids.sites (above ++ [⟨i, n⟩]) 0 ++ rest.sites above (i + 1))

/-- The calls of a program in the order of a visit: a parent before its
children. -/
def Tree.callSites (program : Tree Node) : List Site := program.toForest.sites [] 0

/-- The sites are the calls among all nodes, in the order of a visit. -/
theorem Forest.map_call_sites (f : Forest Node) (above : Trail) (i : Nat) :
    (f.sites above i).map Site.call = f.preorder.filter fun t => t.root.isCall := by
  induction f generalizing above i with
  | nil => rfl
  | cons n kids rest ihk ihr =>
    by_cases h : n.isCall = true <;> simp [Forest.sites, preorder, h, ihk, ihr]

theorem Tree.isCall_of_mem_callSites {program : Tree Node} {site : Site}
    (h : site ∈ program.callSites) : site.call.root.isCall = true := by
  have hcalls : site.call ∈ program.callSites.map Site.call := List.mem_map_of_mem h
  rw [callSites, Forest.map_call_sites] at hcalls
  exact (List.mem_filter.mp hcalls).2

/-- The last node on the trail of a call is the call. -/
theorem Forest.last_of_mem_sites {f : Forest Node} {above : Trail} {i : Nat} {site : Site}
    (h : site ∈ f.sites above i) : ∃ outer index, site.trail = outer ++ [⟨index, site.call.root⟩] := by
  induction f generalizing above i with
  | nil => simp [Forest.sites] at h
  | cons n kids rest ihk ihr =>
    simp only [Forest.sites, List.mem_append] at h
    rcases h with h | h | h
    · by_cases hc : n.isCall = true
      · obtain rfl : site = ⟨above ++ [⟨i, n⟩], ⟨n, kids⟩⟩ := by simpa [hc] using h
        exact ⟨above, i, rfl⟩
      · simp [hc] at h
    · exact ihk h
    · exact ihr h

/-- A site of a forest is reached along its trail: every step leads to the node
that the trail names. -/
theorem Forest.nodeAt?_of_mem_sites {f : Forest Node} {above : Trail} {i : Nat} {site : Site}
    (h : site ∈ f.sites above i) :
    ∃ first more, site.trail = above ++ first :: more ∧ i ≤ first.index ∧
      ∀ before last after, first :: more = before ++ last :: after →
        (f.treeAt? (first.index - i) ((before ++ [last]).map Step.index).tail).map Tree.root =
          some last.node := by
  induction f generalizing above i with
  | nil => simp [Forest.sites] at h
  | cons n kids rest ihk ihr =>
    simp only [Forest.sites, List.mem_append] at h
    rcases h with h | h | h
    · -- the call is the root itself
      by_cases hc : n.isCall = true
      · obtain rfl : site = ⟨above ++ [⟨i, n⟩], ⟨n, kids⟩⟩ := by simpa [hc] using h
        refine ⟨⟨i, n⟩, [], rfl, le_rfl, fun before last after hs => ?_⟩
        obtain ⟨rfl, rfl, -⟩ : before = [] ∧ last = ⟨i, n⟩ ∧ after = [] := by
          rcases before with _ | ⟨b, before⟩
          · simpa [eq_comm] using hs
          · simp at hs
        simp [treeAt?]
      · simp [hc] at h
    · -- the call is below the root, which is the first step
      obtain ⟨first, more, htrail, -, hnodes⟩ := ihk h
      refine ⟨⟨i, n⟩, first :: more, by simp [htrail], le_rfl, fun before last after hs => ?_⟩
      rcases before with _ | ⟨b, before⟩
      · obtain ⟨rfl, -⟩ : (⟨i, n⟩ : Step) = last ∧ first :: more = after := by simpa using hs
        simp [treeAt?]
      · obtain ⟨-, hs⟩ : (⟨i, n⟩ : Step) = b ∧ first :: more = before ++ last :: after := by
          simpa using hs
        have hlast := hnodes before last after hs
        obtain ⟨rest', hrest⟩ : ∃ rest', before ++ [last] = first :: rest' := by
          rcases before with _ | ⟨b', before⟩ <;> simp_all
        simpa [hrest, treeAt?] using hlast
    · obtain ⟨first, more, htrail, hle, hnodes⟩ := ihr h
      refine ⟨first, more, htrail, by omega, fun before last after hs => ?_⟩
      obtain ⟨k, hk⟩ : ∃ k, first.index - i = k + 1 := ⟨first.index - (i + 1), by omega⟩
      have := hnodes before last after hs
      rw [show first.index - (i + 1) = k by omega] at this
      simpa [hk, treeAt?] using this

end HotReload
