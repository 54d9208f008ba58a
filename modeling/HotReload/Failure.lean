/-
# What can go wrong

None of these stops a rewrite: the call in question stays as it was written,
and options that cannot be read count as absent.

Key definitions: `Failure`, `Failure.describe`.
-/
import HotReload.FileIdentity

namespace HotReload

/-- Something that went wrong. -/
inductive Failure where
  /-- A router is registered, but no module path can be told for it. -/
  | unresolvedRouter (file : FileIdentity)
  /-- The source text of the hot-reload unit is no program. -/
  | unparsableUnit (file : FileIdentity) (reason : String)
  /-- The options are not the JSON text of options. -/
  | malformedOptions (reason : String)
deriving DecidableEq

/-- The wording of a failure. -/
def Failure.describe : Failure → String
  | unresolvedRouter file => "can't get router path in " ++ file.path
  | unparsableUnit file reason =>
    "generated hot-reload source for " ++ file.path ++ " does not parse: " ++ reason
  | malformedOptions reason => "ignoring malformed plugin config: " ++ reason

end HotReload
