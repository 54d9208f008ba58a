/-
# Rewriting a program

A program is visited once, a parent before its children. Registrations of
models are remembered in the session of the file; the first registration of a
router for which a hot-reload unit can be made has the statement around it
replaced by the unit. A registration whose nearest statement lies outside of
the nearest function is left alone, because replacing that statement would
swallow more than the registration.

Key definitions: `Job`, `Progress`, `Progress.onCall`, `Progress.enter`,
`Progress.leave`, `visit`, `Outcome`, `rewriteProgram`.
-/
import HotReload.HotUnit.Adoption
import HotReload.Options
import HotReload.Role
import HotReload.Session

namespace HotReload

/-- What a visit goes by: how names get their values, the options, and the
file. -/
structure Job where
  scope : Scope
  options : Options
  file : FileIdentity

/-- How far a visit is. `sessions` are those of all files, of which a visit reads
and writes the one of its own file; `depth` counts the statements around the
current place, `boundary` is their number at the start of the nearest function
around it, and `pending` is a unit that waits to replace the statement at the
given depth. -/
structure Progress where
  sessions : Sessions
  depth : Nat
  boundary : Option Nat
  pending : Option (Nat × Tree Node)
  router : Option String
  failures : List Failure
deriving DecidableEq

namespace Progress

/-- The start of a visit with the given sessions. -/
def start (sessions : Sessions) : Progress := ⟨sessions, 0, none, none, none, []⟩

/-- Records a failure. -/
def fail (s : Progress) (f : Failure) : Progress := { s with failures := s.failures ++ [f] }

/-- Whether the nearest statement around the current place lies inside of the
nearest function around it. -/
def replaceable (s : Progress) : Bool := s.depth != 0 && s.boundary != some s.depth

/-- The hot-reload unit for a router at the current place. -/
def unit (s : Progress) (job : Job) (app : Ident) (router : String) : HotUnit :=
  ⟨app.name, router, job.options.container, (s.sessions.get job.file).models,
    job.options.reloadsModels⟩

/-- What the registration of a router does: its unit waits for the statement
around it to be left. -/
def onRouter (s : Progress) (job : Job) (app : Ident) (path : Option String) : Progress :=
  match path with
  | none => s.fail (.unresolvedRouter job.file)
  | some router =>
    if s.replaceable then
      match (s.unit job app router).adopted app with
      | .ok statement =>
        { s with
          sessions := s.sessions.markRewritten job.file
          pending := some (s.depth, statement)
          router := some router }
      | .error fault => s.fail (.unparsableUnit job.file fault.describe)
    else s

/-- What the registration of a model does. One without a module path does
nothing. -/
def onModel (s : Progress) (job : Job) (path : Option String) : Progress :=
  match path with
  | some model => { s with sessions := s.sessions.addModel job.file model }
  | none => s

/-- What a call does, as long as nothing was rewritten. -/
def onCall (s : Progress) (job : Job) (call : Tree Node) : Progress :=
  if (s.sessions.get job.file).rewritten then s
  else
    match job.scope.callRole call with
    | .router app => s.onRouter job app (job.scope.modulePath? call)
    | .model _ => s.onModel job (job.scope.modulePath? call)
    | .factory | .other => s

/-- Enters a node, before its children are visited. -/
def enter (s : Progress) (job : Job) (t : Tree Node) : Progress :=
  let s := if t.root.isStatement then { s with depth := s.depth + 1 } else s
  let s := if t.root.isFunction then { s with boundary := some s.depth } else s
  if t.root.isCall then s.onCall job t else s

/-- Leaves a node that was entered with the given boundary, after its children
were visited. A statement is replaced by the unit that waits for it. -/
def leave (s : Progress) (boundary : Option Nat) (t : Tree Node) : Tree Node × Progress :=
  let s := if t.root.isFunction then { s with boundary := boundary } else s
  if t.root.isStatement then
    let outer := { s with depth := s.depth - 1 }
    match s.pending with
    | some (depth, unit) =>
      if depth = s.depth then (unit.fill t.root.field, { outer with pending := none })
      else (t, outer)
    | none => (t, outer)
  else (t, s)

end Progress

/-- Visits the trees of a forest in order. -/
def visit (job : Job) : Forest Node → Progress → Forest Node × Progress
  | .nil, s => (.nil, s)
  | .cons n kids rest, s =>
    let inside := visit job kids (s.enter job ⟨n, kids⟩)
    let left := inside.2.leave s.boundary ⟨n, inside.1⟩
    let after := visit job rest left.2
    (.cons left.1.root left.1.children after.1, after.2)

/-- What came of a visit: the router that a unit was made for, the models that
are registered by now, and what went wrong, in order. -/
structure Outcome where
  file : FileIdentity
  router : Option String
  models : List String
  failures : List Failure
deriving DecidableEq

/-- Visits a program by the given scope, in the session that the file has. -/
def visitProgram (job : Job) (program : Tree Node) (sessions : Sessions) :
    Tree Node × Outcome × Sessions :=
  let (visited, s) := visit job program.toForest (.start sessions)
  let program :=
    match visited with
    | .cons root children _ => ⟨root, children⟩
    | .nil => program
  (program, ⟨job.file, s.router, (s.sessions.get job.file).models, s.failures⟩, s.sessions)

/-- Rewrites a program: starts the session of its file anew and visits it by its
own scope. -/
def rewriteProgram (options : Options) (file : FileIdentity) (program : Tree Node)
    (sessions : Sessions) : Tree Node × Outcome × Sessions :=
  visitProgram ⟨.ofProgram program, options, file⟩ program (sessions.restart file)

end HotReload
