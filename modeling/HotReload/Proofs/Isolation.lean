/-
# Sessions do not leak

All runs share one store of sessions, and a visit reads it at every call and
writes to it. Still a run gives what it gives on an empty store, and it changes
the session of its own file alone, which afterwards is the one that its program
and its options ask for, whatever was in the store (`runs_do_not_leak`).

Key definitions: `Run`, `Run.on`, `runAll`.
Key theorems: `Run.on_eq`, `runs_do_not_leak`.
-/
import HotReload.Proofs.Rewrite

namespace HotReload

namespace Job

/-- The models that calls register do not depend on the file. -/
theorem modelsOf_ofProgram (options : Options) (file file' : FileIdentity) (program : Tree Node)
    (sites : List Site) :
    (ofProgram options file program).modelsOf sites =
      (ofProgram options file' program).modelsOf sites := rfl

/-- The search for the first candidate does not depend on the file. -/
theorem firstHit_ofProgram (options : Options) (file file' : FileIdentity) (program : Tree Node)
    (before sites : List Site) :
    (ofProgram options file program).firstHit before sites =
      (ofProgram options file' program).firstHit before sites := by
  induction sites generalizing before with
  | nil => rfl
  | cons site sites ih =>
    have hscope : (ofProgram options file program).scope =
        (ofProgram options file' program).scope := rfl
    have hunit : ∀ app router models, (ofProgram options file program).unitFor app router models =
        (ofProgram options file' program).unitFor app router models := fun _ _ _ => rfl
    have hhit : (ofProgram options file program).hit? before site =
        (ofProgram options file' program).hit? before site := by
      simp only [hit?, hscope, hunit, modelsOf_ofProgram options file file']
    rw [firstHit, firstHit, hhit]
    simp only [ih]

end Job

/-- A run: a program of a file, and the options that it is rewritten by. -/
structure Run where
  options : Options
  file : FileIdentity
  program : Tree Node

namespace Run

/-- Rewrites the program of a run with the given sessions. -/
def on (run : Run) (sessions : Sessions) : Tree Node × Outcome × Sessions :=
  rewriteProgram run.options run.file run.program sessions

/-- What a run gives on its own: the program and the outcome. -/
def result (run : Run) : Tree Node × Outcome := ((run.on .empty).1, (run.on .empty).2.1)

/-- The session that a run on its own leaves for its program, were it one of the
file `unknown`. -/
def session (run : Run) : Session :=
  ({ run with file := .unknown }.on .empty).2.2.get .unknown

/-- **A run reads nothing from the store.** What it gives is its own result, and
it sets the session of its own file alone. -/
theorem on_eq (run : Run) (sessions : Sessions) :
    run.on sessions = (run.result.1, run.result.2, sessions.set run.file run.session) := by
  obtain ⟨options, file, program⟩ := run
  cases hhit : (Job.ofProgram options file program).firstHit [] program.callSites with
  | none =>
    have hno := Job.firstHit_eq_none_iff.mp hhit
    have hno' := Job.firstHit_eq_none_iff.mp
      ((Job.firstHit_ofProgram options .unknown file program [] _).trans hhit)
    simp only [result, session, on]
    rw [rewriteProgram_of_noCandidate options file program sessions hno,
      rewriteProgram_of_noCandidate options file program .empty hno,
      rewriteProgram_of_noCandidate options .unknown program .empty hno', Sessions.get_set_self]
    rw [Job.modelsOf_ofProgram options file .unknown]
  | some hit =>
    have hfirst := Job.firstHit_nil_eq_some_iff.mp hhit
    have hfirst' := Job.firstHit_nil_eq_some_iff.mp
      ((Job.firstHit_ofProgram options .unknown file program [] _).trans hhit)
    simp only [result, session, on]
    rw [rewriteProgram_of_isFirstCandidate options file program sessions hfirst,
      rewriteProgram_of_isFirstCandidate options file program .empty hfirst,
      rewriteProgram_of_isFirstCandidate options .unknown program .empty hfirst',
      Sessions.get_set_self]
    rw [Job.modelsOf_ofProgram options file .unknown]

end Run

/-- Runs one after the other on one store: what each of them gives, and the
sessions after the last. -/
def runAll : List Run → Sessions → List (Tree Node × Outcome) × Sessions
  | [], sessions => ([], sessions)
  | run :: runs, sessions =>
    let first := run.on sessions
    let others := runAll runs first.2.2
    ((first.1, first.2.1) :: others.1, others.2)

/-- The results of a history of runs are those of the runs on their own. -/
theorem runAll_results (runs : List Run) (sessions : Sessions) :
    (runAll runs sessions).1 = runs.map Run.result := by
  induction runs generalizing sessions with
  | nil => rfl
  | cons run runs ih => simp [runAll, ih, run.on_eq sessions]

/-- The last run of a history finds the sessions that the others leave. -/
theorem runAll_concat_sessions (runs : List Run) (run : Run) (sessions : Sessions) :
    (runAll (runs ++ [run]) sessions).2 = (run.on (runAll runs sessions).2).2.2 := by
  induction runs generalizing sessions with
  | nil => rfl
  | cons first runs ih => simp [runAll, ih]

/-- **Sessions do not leak.** In every history of runs on one store, whatever it
held at first, each run gives the program and the outcome that it gives on an
empty store. It leaves the session of every other file as it was, and the one of
its own file is what its program and its options alone make of the session of
any file on an empty store. -/
theorem runs_do_not_leak (runs : List Run) (sessions : Sessions) :
    (runAll runs sessions).1 = runs.map (fun run => ((run.on .empty).1, (run.on .empty).2.1)) ∧
    ∀ earlier run later, runs = earlier ++ run :: later →
      (∀ other, other ≠ run.file →
        (runAll (earlier ++ [run]) sessions).2.get other =
          (runAll earlier sessions).2.get other) ∧
      ∀ file, (runAll (earlier ++ [run]) sessions).2.get run.file =
        (rewriteProgram run.options file run.program .empty).2.2.get file := by
  refine ⟨runAll_results runs sessions, fun earlier run later _ => ⟨fun other hother => ?_, ?_⟩⟩
  · rw [runAll_concat_sessions, run.on_eq]
    exact Sessions.get_set_of_ne _ _ hother
  · intro file
    have hother : rewriteProgram run.options file run.program .empty =
        ({ run with file := file } : Run).on .empty := rfl
    rw [runAll_concat_sessions, run.on_eq, hother, Run.on_eq, Sessions.get_set_self,
      Sessions.get_set_self]
    rfl

end HotReload
