/-
# Sessions: what is remembered of each file

For every file there is a session: whether a statement of it was rewritten and
the models that were registered so far, in order and with repetitions. A file
that was never heard of has the empty session, and starting a file anew gives
it the empty session again. What is done to one file changes no other.

Key definitions: `Session`, `Sessions.get`, `Sessions.set`, `Sessions.restart`,
`Sessions.addModel`, `Sessions.markRewritten`.
Key theorems: `Sessions.get_set_self`, `Sessions.get_set_of_ne`.
-/
import HotReload.FileIdentity

namespace HotReload

/-- What is remembered of one file. -/
structure Session where
  rewritten : Bool
  models : List String
deriving DecidableEq

namespace Session

/-- The session of a file about which nothing is known yet. -/
def empty : Session := ⟨false, []⟩

/-- The session with one more model. -/
def addModel (s : Session) (path : String) : Session := { s with models := s.models ++ [path] }

/-- The session of a file that was rewritten. -/
def markRewritten (s : Session) : Session := { s with rewritten := true }

end Session

/-- The sessions of all files that were heard of, each file once. -/
structure Sessions where
  entries : List (FileIdentity × Session)
deriving DecidableEq

namespace Sessions

/-- No file was heard of. -/
def empty : Sessions := ⟨[]⟩

/-- The session of a file, empty if it was never heard of. -/
def get (s : Sessions) (file : FileIdentity) : Session :=
  match s.entries.find? (·.1 == file) with
  | some entry => entry.2
  | none => .empty

/-- The sessions with the session of one file replaced. -/
def set (s : Sessions) (file : FileIdentity) (session : Session) : Sessions :=
  ⟨(file, session) :: s.entries.filter (·.1 != file)⟩

/-- Forgets what is known of a file. -/
def restart (s : Sessions) (file : FileIdentity) : Sessions := s.set file .empty

/-- Adds a model to the session of a file. -/
def addModel (s : Sessions) (file : FileIdentity) (path : String) : Sessions :=
  s.set file ((s.get file).addModel path)

/-- Records that a file was rewritten. -/
def markRewritten (s : Sessions) (file : FileIdentity) : Sessions :=
  s.set file (s.get file).markRewritten

@[simp] theorem get_set_self (s : Sessions) (file : FileIdentity) (session : Session) :
    (s.set file session).get file = session := by
  simp [get, set]

/-- Setting one file's session leaves every other file's as it was. -/
theorem get_set_of_ne (s : Sessions) {file other : FileIdentity} (session : Session)
    (h : other ≠ file) : (s.set file session).get other = s.get other := by
  have hne : (file == other) = false := by simp [Ne.symm h]
  have hfilter : (s.entries.filter (·.1 != file)).find? (·.1 == other)
      = s.entries.find? (·.1 == other) := by
    rw [List.find?_filter]
    congr 1
    funext entry
    by_cases he : entry.1 = other
    · simp [he, h]
    · simp [he]
  simp [get, set, hne, hfilter]

end Sessions

end HotReload
