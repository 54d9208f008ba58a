/-
# What is reported to the host

After a visit the host is told which router was found and what went wrong,
unless the options ask for silence. A notice that was given once is not given
again.

Key definitions: `Notice`, `Failure.notice`, `Outcome.notices`, `distinct`,
`process`.
-/
import HotReload.Rewrite

namespace HotReload

/-- How serious a notice is. -/
inductive Severity where
  | note
  | warning
deriving DecidableEq

/-- A message to the host. -/
structure Notice where
  severity : Severity
  message : String
deriving DecidableEq

/-- What every message begins with. -/
def messageMark : String := "[dva-hmr] "

/-- The warning about a failure. -/
def Failure.notice (f : Failure) : Notice := ⟨.warning, messageMark ++ f.describe⟩

/-- The notices about a visit: the router, then a warning for every failure. -/
def Outcome.notices (o : Outcome) (options : Options) : List Notice :=
  if options.quiet then []
  else
    (o.router.map fun path => (⟨.note, messageMark ++ "got routerPath " ++ path⟩ : Notice)).toList ++
      o.failures.map Failure.notice

/-- The notices that a host passes on: every one once, where it comes first. -/
def distinct (notices : List Notice) : List Notice := notices.eraseDups

/-- Processes a program for a host that gives the text of the options, the name
of the file and the working directory. Options that cannot be read are reported
and count as absent. -/
def process (optionsText name directory : Option String) (program : Tree Node)
    (sessions : Sessions) : Tree Node × List Notice × Sessions :=
  let (options, faults) :=
    match Options.ofText optionsText with
    | .ok options => (options, [])
    | .error failure => (Options.standard, [failure.notice])
  let (program, outcome, sessions) :=
    rewriteProgram options (.ofHost name directory) program sessions
  (program, distinct (faults ++ outcome.notices options), sessions)

end HotReload
