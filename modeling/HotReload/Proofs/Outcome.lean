/-
# The outcome tells what the search found

Of the calls of a program those count that a visit meets up to the first
candidate, and with it: the outcome and the session of the file hold the models
that they register, the outcome holds the failures at them, and the router is
that of the candidate. A unit is made from the models of the outcome.

Key definitions: `Job.Meets`.
Key theorems: `Job.exists_meets`, `Job.failure?_names_file`,
`outcome_reports_search`.
-/
import HotReload.Proofs.Rewrite

namespace HotReload

namespace Job

variable {job : Job}

/-- A visit of the list meets the calls `met`: all calls if there is no
candidate, and otherwise those up to the first candidate and the candidate. -/
inductive Meets (job : Job) (sites met : List Site) : Prop where
  | all (h : job.NoCandidate [] sites) (hmet : met = sites)
  | until (hit : Hit) (h : job.IsFirstCandidate sites hit) (hmet : met = hit.before ++ [hit.site])

/-- Every list of calls has a part that a visit meets, and it is the front of
the list. -/
theorem exists_meets (sites : List Site) :
    ∃ met later, sites = met ++ later ∧ job.Meets sites met := by
  cases hhit : job.firstHit [] sites with
  | none => exact ⟨sites, [], by simp, .all (firstHit_eq_none_iff.mp hhit) rfl⟩
  | some hit =>
    have hfirst := firstHit_nil_eq_some_iff.mp hhit
    obtain ⟨later, hsplit⟩ := hfirst.split
    exact ⟨hit.before ++ [hit.site], later, by simp [hsplit], .until hit hfirst rfl⟩

/-- Every failure is about the file of the visit. -/
theorem failure?_names_file {before : List Site} {site : Site} {f : Failure}
    (h : job.failure? before site = some f) :
    f = .unresolvedRouter job.file ∨ ∃ reason, f = .unparsableUnit job.file reason := by
  unfold failure? at h
  split at h
  · split at h
    · exact Or.inl (Option.some.inj h).symm
    · split at h
      · split at h
        · cases h
        · exact Or.inr ⟨_, (Option.some.inj h).symm⟩
      · cases h
  · cases h

theorem failuresOf_names_file {before sites : List Site} :
    ∀ f ∈ job.failuresOf before sites,
      f = .unresolvedRouter job.file ∨ ∃ reason, f = .unparsableUnit job.file reason := by
  induction sites generalizing before with
  | nil => simp [failuresOf]
  | cons site sites ih =>
    intro f hf
    rcases List.mem_append.mp hf with hf | hf
    · exact failure?_names_file (Option.mem_toList.mp hf)
    · exact ih f hf

/-- A candidate registers no model and fails in no way. -/
theorem IsCandidate.model?_eq_none {hit : Hit} (h : job.IsCandidate hit) :
    job.model? hit.site = none := by
  simp [model?, h.role]

theorem IsCandidate.failure?_eq_none {hit : Hit} (h : job.IsCandidate hit) :
    job.failure? hit.before hit.site = none := by
  simp [failure?, h.role, h.path, h.stands, h.parses]

theorem IsFirstCandidate.modelsOf_met {sites : List Site} {hit : Hit}
    (h : job.IsFirstCandidate sites hit) :
    job.modelsOf (hit.before ++ [hit.site]) = job.modelsOf hit.before := by
  rw [modelsOf_append, modelsOf_singleton, h.candidate.model?_eq_none, Option.toList_none,
    List.append_nil]

theorem IsFirstCandidate.failuresOf_met {sites : List Site} {hit : Hit}
    (h : job.IsFirstCandidate sites hit) :
    job.failuresOf [] (hit.before ++ [hit.site]) = job.failuresOf [] hit.before := by
  rw [failuresOf_append, failuresOf_singleton, List.nil_append, h.candidate.failure?_eq_none,
    Option.toList_none, List.append_nil]

/-- A list with a first candidate is not one without a candidate. -/
theorem IsFirstCandidate.not_noCandidate {sites : List Site} {hit : Hit}
    (h : job.IsFirstCandidate sites hit) : ¬ job.NoCandidate [] sites := by
  obtain ⟨later, hsplit⟩ := h.split
  exact fun hno => hno hit.before hit.site later hsplit hit.app hit.router hit.unit h.candidate

/-- There is one first candidate at most. -/
theorem IsFirstCandidate.unique {sites : List Site} {hit other : Hit}
    (h : job.IsFirstCandidate sites hit) (h' : job.IsFirstCandidate sites other) : hit = other := by
  rw [← firstHit_nil_eq_some_iff] at h h'
  exact Option.some.inj (h.symm.trans h')

end Job

variable (options : Options) (file : FileIdentity) (program : Tree Node) (sessions : Sessions)

/-- **The outcome tells what the search found.** Of the calls that a visit meets,
the outcome and the session have the models, in order and with repetitions, and
the outcome has the failures, in order, all about the file. The outcome has a
router exactly if the session is marked, and exactly if a statement was replaced
for a first candidate; it is the router of that candidate, and the unit was made
from the models of the outcome. -/
theorem outcome_reports_search :
    ∃ output outcome stored,
      rewriteProgram options file program sessions = (output, outcome, stored) ∧
    ∃ met later, program.callSites = met ++ later ∧
      (Job.ofProgram options file program).Meets program.callSites met ∧
      outcome.file = file ∧
      outcome.models = (Job.ofProgram options file program).modelsOf met ∧
      (stored.get file).models = outcome.models ∧
      outcome.failures = (Job.ofProgram options file program).failuresOf [] met ∧
      (∀ f ∈ outcome.failures,
        f = .unresolvedRouter file ∨ ∃ reason, f = .unparsableUnit file reason) ∧
      (outcome.router.isSome = true ↔ (stored.get file).rewritten = true) ∧
      (outcome.router.isSome = true ↔
        ∃ hit, (Job.ofProgram options file program).IsFirstCandidate program.callSites hit ∧
          output = program.replaceAt (Trail.toStatement hit.site.trail).address hit.statement) ∧
      (outcome.router = none → output = program) ∧
      ∀ hit, (Job.ofProgram options file program).IsFirstCandidate program.callSites hit →
        outcome.router = some hit.router ∧
        ((Job.ofProgram options file program).unitFor hit.app hit.router outcome.models).adopted
          hit.app = .ok hit.unit := by
  obtain ⟨met, later, hsplit, hmeets⟩ :=
    (Job.ofProgram options file program).exists_meets program.callSites
  rcases hmeets with ⟨hno, rfl⟩ | ⟨hit, hfirst, rfl⟩
  · have hnot : ∀ hit, ¬ (Job.ofProgram options file program).IsFirstCandidate
        program.callSites hit := fun hit hfirst => hfirst.not_noCandidate hno
    refine ⟨_, _, _, rewriteProgram_of_noCandidate options file program sessions hno, _, later,
      hsplit, .all hno rfl, rfl, rfl, ?_, rfl, Job.failuresOf_names_file, ?_, ?_, fun _ => rfl,
      fun hit hfirst => absurd hfirst (hnot hit)⟩
    · rw [Sessions.get_set_self]
    · rw [Sessions.get_set_self]
      simp
    · exact ⟨fun h => by simp at h, fun ⟨hit, hfirst, _⟩ => absurd hfirst (hnot hit)⟩
  · refine ⟨_, _, _, rewriteProgram_of_isFirstCandidate options file program sessions hfirst,
      _, later, hsplit, .until hit hfirst rfl, rfl, ?_, ?_, ?_, Job.failuresOf_names_file, ?_, ?_,
      fun h => by simp at h, ?_⟩
    · rw [hfirst.modelsOf_met]
    · rw [Sessions.get_set_self]
    · rw [hfirst.failuresOf_met]
    · rw [Sessions.get_set_self]
      simp
    · exact ⟨fun _ => ⟨hit, hfirst, rfl⟩, fun _ => rfl⟩
    · intro other hother
      obtain rfl := hfirst.unique hother
      exact ⟨rfl, hfirst.candidate.parses⟩

end HotReload
