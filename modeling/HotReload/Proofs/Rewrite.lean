/-
# A program is rewritten at its first candidate

Rewriting a program is a search on the list of its calls: without a candidate
the program stays what it was; with one, the last statement around the first
candidate is replaced by its unit, and no other node of the program changes
(`rewriteProgram_replaces_first_candidate`). What is reported and what the
session of the file is afterwards follows from the same search
(`rewriteProgram_of_noCandidate`, `rewriteProgram_of_isFirstCandidate`).

Key definitions: `Job.ofProgram`.
Key theorems: `rewriteProgram_of_noCandidate`,
`rewriteProgram_of_isFirstCandidate`, `rewriteProgram_replaces_first_candidate`.
-/
import HotReload.Proofs.Visit

namespace HotReload

/-- What a program is visited by when it is rewritten: the scope of the whole
program. -/
def Job.ofProgram (options : Options) (file : FileIdentity) (program : Tree Node) : Job :=
  ⟨.ofProgram program, options, file⟩

/-- A visit starts without anything around it and without calls before it. -/
theorem Progress.start_restart (job : Job) (sessions : Sessions) :
    Progress.start (sessions.restart job.file) = .searching job sessions [] [] := rfl

/-- The trail of a call begins at the root of the program. -/
theorem Tree.trail_of_mem_callSites {program : Tree Node} {site : Site}
    (h : site ∈ program.callSites) :
    ∃ more, site.trail = ⟨0, program.root⟩ :: more ∧
      ∀ before last after, site.trail = before ++ last :: after →
        program.nodeAt? (Trail.address (before ++ [last])) = some last.node := by
  obtain ⟨first, more, htrail, -, hnodes⟩ := Forest.nodeAt?_of_mem_sites h
  rw [List.nil_append] at htrail
  obtain rfl : first = ⟨0, program.root⟩ := by
    have hroot := hnodes [] first more rfl
    obtain ⟨index, node⟩ := first
    rcases index with _ | k
    · simpa [Tree.toForest, Forest.treeAt?, eq_comm] using hroot
    · simp [Tree.toForest, Forest.treeAt?] at hroot
  refine ⟨more, htrail, fun before last after hsplit => ?_⟩
  rw [htrail] at hsplit
  have hlast := hnodes before last after hsplit
  obtain ⟨steps, hsteps⟩ : ∃ steps, before ++ [last] = ⟨0, program.root⟩ :: steps := by
    rcases before with _ | ⟨b, before⟩ <;> simp_all
  rw [hsteps] at hlast
  rw [hsteps]
  rcases steps with _ | ⟨step, steps⟩
  · simpa [Trail.address, Tree.nodeAt?, Tree.treeAt?, Tree.toForest, Forest.treeAt?] using hlast
  · simpa [Trail.address, Tree.nodeAt?, Tree.treeAt?, Tree.toForest, Forest.treeAt?] using hlast

/-- Replacing in the forest of a program alone is replacing in the program. -/
theorem Tree.replaceAt_toForest (program : Tree Node) (address : List Nat) (t : Tree Node) :
    program.toForest.replaceAt 0 address t = (program.replaceAt address t).toForest := by
  rcases address with _ | ⟨i, p⟩ <;> rfl

/-- What a program becomes in a visit, as the search on its calls tells. -/
theorem visitProgram_searching (job : Job) (program : Tree Node) (sessions : Sessions) :
    visitProgram job program (sessions.restart job.file) =
      match job.firstHit [] program.callSites with
      | none =>
        (program,
          ⟨job.file, none, job.modelsOf program.callSites, job.failuresOf [] program.callSites⟩,
          sessions.set job.file ⟨false, job.modelsOf program.callSites⟩)
      | some hit =>
        (program.replaceAt (Trail.toStatement hit.site.trail).address hit.statement,
          ⟨job.file, some hit.router, job.modelsOf hit.before, job.failuresOf [] hit.before⟩,
          sessions.set job.file ⟨true, job.modelsOf hit.before⟩) := by
  rw [visitProgram, Progress.start_restart, visit_searching, searched, ← Tree.callSites]
  cases hhit : job.firstHit [] program.callSites with
  | none => simp [Progress.searching, Tree.toForest]
  | some hit =>
    obtain ⟨more, htrail, -⟩ := Tree.trail_of_mem_callSites (Job.mem_of_firstHit hhit)
    have hstands := (Job.firstHit_nil_eq_some_iff.mp hhit).candidate.stands
    have hpos : Trail.depth [] < Trail.depth hit.site.trail := by
      have := (Trail.replaceable_counters_iff hit.site.trail).mpr hstands
      simp only [Bool.and_eq_true, bne_iff_ne] at this
      exact Nat.pos_of_ne_zero this.1
    have hroot : hit.site.trail = [] ++ ⟨0, program.root⟩ :: more := htrail
    obtain ⟨more', hto⟩ := exists_steps_toStatement hroot hpos
    have hgraft : program.toForest.graft 0
        ((Trail.toStatement hit.site.trail).drop ([] : Trail).length) hit.statement =
        (program.replaceAt (Trail.toStatement hit.site.trail).address hit.statement).toForest := by
      rw [hto]
      exact Tree.replaceAt_toForest program (more'.map Step.index) hit.statement
    simp only [if_pos hpos]
    rw [hgraft]
    simp [Progress.found, Tree.toForest]

variable (options : Options) (file : FileIdentity) (program : Tree Node) (sessions : Sessions)

/-- Without a candidate a program is left as it is. -/
theorem rewriteProgram_of_noCandidate
    (h : (Job.ofProgram options file program).NoCandidate [] program.callSites) :
    rewriteProgram options file program sessions =
      (program,
        ⟨file, none, (Job.ofProgram options file program).modelsOf program.callSites,
          (Job.ofProgram options file program).failuresOf [] program.callSites⟩,
        sessions.set file
          ⟨false, (Job.ofProgram options file program).modelsOf program.callSites⟩) := by
  have hnone := Job.firstHit_eq_none_iff.mpr h
  exact (visitProgram_searching (.ofProgram options file program) program sessions).trans
    (by rw [hnone]; rfl)

/-- With a candidate a program is rewritten for the first one. -/
theorem rewriteProgram_of_isFirstCandidate {hit : Hit}
    (h : (Job.ofProgram options file program).IsFirstCandidate program.callSites hit) :
    rewriteProgram options file program sessions =
      (program.replaceAt (Trail.toStatement hit.site.trail).address hit.statement,
        ⟨file, some hit.router, (Job.ofProgram options file program).modelsOf hit.before,
          (Job.ofProgram options file program).failuresOf [] hit.before⟩,
        sessions.set file ⟨true, (Job.ofProgram options file program).modelsOf hit.before⟩) := by
  have hsome := Job.firstHit_nil_eq_some_iff.mpr h
  exact (visitProgram_searching (.ofProgram options file program) program sessions).trans
    (by rw [hsome]; rfl)

/-- **A program is rewritten at its first candidate.** If no call is a candidate,
the program stays what it was. Otherwise the innermost statement around the first
candidate, reached by `outer` and `statement`, is replaced by the unit read as a
script and adopted; it is at the address of the statement, and every node whose
address does not lead through there is the node that it was. -/
theorem rewriteProgram_replaces_first_candidate :
    ∃ output, (rewriteProgram options file program sessions).1 = output ∧
    ((Job.ofProgram options file program).NoCandidate [] program.callSites → output = program) ∧
    ∀ hit, (Job.ofProgram options file program).IsFirstCandidate program.callSites hit →
      ∃ outer statement inner address, hit.site.trail = outer ++ statement :: inner ∧
        statement.node.isStatement = true ∧
        (∀ step ∈ inner, step.node.isStatement = false) ∧
        address = Trail.address (outer ++ [statement]) ∧
        program.nodeAt? address = some statement.node ∧
        output = program.replaceAt address (hit.unit.fill statement.node.field) ∧
        output.treeAt? address = some (hit.unit.fill statement.node.field) ∧
        ∀ other, ¬ address <+: other → output.nodeAt? other = program.nodeAt? other := by
  refine ⟨_, rfl, fun hno => ?_, fun hit hfirst => ?_⟩
  · rw [rewriteProgram_of_noCandidate options file program sessions hno]
  · obtain ⟨outer, statement, inner, htrail, hto, hs, hinner⟩ :=
      hfirst.candidate.stands.exists_split
    have hmem : hit.site ∈ program.callSites := by
      obtain ⟨later, hsplit⟩ := hfirst.split
      simp [hsplit]
    obtain ⟨-, -, hnodes⟩ := Tree.trail_of_mem_callSites hmem
    have hnode := hnodes outer statement inner htrail
    have houtput : (rewriteProgram options file program sessions).1 =
        program.replaceAt (Trail.address (outer ++ [statement]))
          (hit.unit.fill statement.node.field) := by
      rw [rewriteProgram_of_isFirstCandidate options file program sessions hfirst]
      simp [Hit.statement, hto, Trail.field]
    refine ⟨outer, statement, inner, _, htrail, hs, hinner, rfl, hnode, houtput, ?_,
      fun other hother => ?_⟩
    · rw [houtput]
      exact Tree.treeAt?_replaceAt_self (by rw [hnode]; rfl) _
    · rw [houtput]
      exact Tree.nodeAt?_replaceAt program _ _ hother

end HotReload
