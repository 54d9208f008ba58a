/-
# Identities of files

A host names a file by a path, absolute or relative to a working directory,
with slashes or backslashes, or by a file URL. The identity of a file is one
path, so that files of the same name in different directories stay apart.

Key definitions: `FileIdentity.ofHost`, `FileIdentity.normalize`,
`FileIdentity.isAbsolute`, `FileIdentity.join`.
-/

namespace HotReload

/-- The path by which a file is known. -/
structure FileIdentity where
  path : String
deriving DecidableEq

namespace FileIdentity

/-- What a file URL starts with. -/
def urlScheme : List Char := ['f', 'i', 'l', 'e', ':', '/', '/']

/-- The path without `start` at its front, if it has it there. -/
def dropFront (start path : List Char) : List Char :=
  if start.isPrefixOf path then path.drop start.length else path

/-- The path with slashes for backslashes, without the scheme of a file URL. -/
def normalize (path : List Char) : List Char :=
  dropFront urlScheme (path.map fun c => if c = '\x5c' then '/' else c)

/-- Whether a path is absolute: it starts with a slash, or with an ASCII letter,
a colon and a slash. -/
def isAbsolute : List Char → Bool
  | '/' :: _ => true
  | drive :: ':' :: '/' :: _ => drive.isAlpha
  | _ => false

/-- The path without the slashes at its end. -/
def dropTrailingSlashes (path : List Char) : List Char :=
  (path.reverse.dropWhile (· == '/')).reverse

/-- A relative path in a directory; one leading `./` says nothing. -/
def join (directory path : List Char) : List Char :=
  dropTrailingSlashes directory ++ '/' :: dropFront ['.', '/'] path

/-- The characters of the identity of a file with the given name, seen from a
working directory if the host tells one. -/
def resolve (name : List Char) (directory : List Char) : List Char :=
  let path := normalize name
  if isAbsolute path || directory.isEmpty then path
  else join (normalize directory) path

/-- The identity of a file that the host gives no name. -/
def unknown : FileIdentity := ⟨"unknown"⟩

/-- The identity of a file from what the host tells: its name and the working
directory. An empty directory counts as none. -/
def ofHost (name directory : Option String) : FileIdentity :=
  match name with
  | none => unknown
  | some name => ⟨String.ofList (resolve name.toList ((directory.getD "").toList))⟩

end FileIdentity

end HotReload
