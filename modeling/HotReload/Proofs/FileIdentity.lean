/-
# One file, one identity

A host spells the path of a file in several ways. Seen from an absolute working
directory every spelling gives an absolute path without backslashes, and that path
is its own identity from then on (`ofHost_full_and_stable`). Relative names in
different directories stay apart, and so do different names in one directory
(`ofHost_separates`). An absolute path has the same identity with backslashes, and
as a file URL if it starts with a slash. The URL of a path with a drive letter has
one more slash in front of the letter, which is kept, so that file has a second
identity (`ofHost_spellings`, `drive_url_differs`).

Key definitions: `FileIdentity.withSlashes`, `FileIdentity.Respells`,
`FileIdentity.fileUrl`.
Key theorems: `FileIdentity.resolve_of_isAbsolute`,
`FileIdentity.normalize_append_slashes`, `FileIdentity.isAbsolute_join`,
`FileIdentity.ofHost_full_and_stable`, `FileIdentity.ofHost_separates`,
`FileIdentity.ofHost_spellings`.
-/
import HotReload.FileIdentity
import Mathlib.Data.List.DropRight
import Mathlib.Data.List.Forall2

namespace HotReload

namespace FileIdentity

/-! ### Slashes and backslashes -/

/-- The path with slashes for backslashes. -/
def withSlashes (path : List Char) : List Char := path.map fun c => if c = '\x5c' then '/' else c

/-- The path with backslashes for slashes. -/
def withBackslashes (path : String) : String :=
  String.ofList (path.toList.map fun c => if c = '/' then '\x5c' else c)

/-- `other` is the path with any of its slashes written as backslashes. -/
def Respells (path other : String) : Prop :=
  List.Forall₂ (fun c d => d = c ∨ c = '/' ∧ d = '\x5c') path.toList other.toList

theorem normalize_eq (path : List Char) : normalize path = dropFront urlScheme (withSlashes path) :=
  rfl

theorem backslash_not_mem_withSlashes (path : List Char) : '\x5c' ∉ withSlashes path := by
  intro h
  obtain ⟨c, -, hc⟩ := List.mem_map.mp h
  by_cases hback : c = '\x5c'
  · rw [if_pos hback] at hc
    exact absurd hc (by decide)
  · rw [if_neg hback] at hc
    exact hback hc

theorem withSlashes_eq_self {path : List Char} (h : '\x5c' ∉ path) : withSlashes path = path := by
  have hid : ∀ c ∈ path, (if c = '\x5c' then '/' else c) = c := by
    intro c hc
    apply if_neg
    rintro rfl
    exact h hc
  exact (List.map_congr_left hid).trans (List.map_id' path)

theorem withSlashes_append (path rest : List Char) :
    withSlashes (path ++ rest) = withSlashes path ++ withSlashes rest :=
  List.map_append

/-- A spelling with backslashes has the same slashes. -/
theorem Respells.withSlashes_eq {path other : String} (h : Respells path other) :
    withSlashes other.toList = withSlashes path.toList := by
  unfold Respells at h
  generalize path.toList = cs at h ⊢
  generalize other.toList = ds at h ⊢
  induction h with
  | nil => rfl
  | cons hc _ ih =>
    rcases hc with rfl | ⟨rfl, rfl⟩
    · exact congrArg (_ :: ·) ih
    · exact congrArg ('/' :: ·) ih

theorem Respells.refl (path : String) : Respells path path :=
  List.forall₂_same.mpr fun _ _ => Or.inl rfl

theorem Respells.normalize_eq {path other : String} (h : Respells path other) :
    normalize other.toList = normalize path.toList := by
  rw [FileIdentity.normalize_eq, FileIdentity.normalize_eq, h.withSlashes_eq]

theorem respells_withBackslashes (path : String) : Respells path (withBackslashes path) := by
  unfold Respells withBackslashes
  rw [String.toList_ofList, List.forall₂_map_right_iff, List.forall₂_same]
  intro c _
  by_cases hc : c = '/'
  · exact Or.inr ⟨hc, if_pos hc⟩
  · exact Or.inl (if_neg hc)

/-! ### The front and the end of a path -/

/-- A front is taken off where it is, and nothing happens where it is not. -/
theorem dropFront_cases (start path : List Char) :
    path = start ++ dropFront start path ∨ ¬ start <+: path ∧ dropFront start path = path := by
  unfold dropFront
  by_cases h : start.isPrefixOf path = true
  · rw [if_pos h]
    have hprefix := List.isPrefixOf_iff_prefix.mp h
    exact Or.inl (List.prefix_iff_eq_append.mp hprefix).symm
  · rw [if_neg h]
    exact Or.inr ⟨fun hprefix => h (List.isPrefixOf_iff_prefix.mpr hprefix), rfl⟩

theorem dropFront_append (start rest : List Char) : dropFront start (start ++ rest) = rest := by
  simp [dropFront]

theorem dropFront_of_absent {start path : List Char} (h : ¬ start <+: path) :
    dropFront start path = path := by
  rcases dropFront_cases start path with heq | ⟨-, heq⟩
  · exact absurd ⟨_, heq.symm⟩ h
  · exact heq

theorem mem_of_mem_dropFront {start path : List Char} {c : Char} (h : c ∈ dropFront start path) :
    c ∈ path := by
  rcases dropFront_cases start path with heq | ⟨-, heq⟩
  · rw [heq]
    exact List.mem_append_right start h
  · rwa [heq] at h

theorem dropTrailingSlashes_eq_rdropWhile (path : List Char) :
    dropTrailingSlashes path = path.rdropWhile (· == '/') := rfl

/-- What is taken off at the end is slashes. -/
theorem exists_trailingSlashes (path : List Char) :
    ∃ n, path = dropTrailingSlashes path ++ List.replicate n '/' := by
  refine ⟨(path.rtakeWhile (· == '/')).length, ?_⟩
  have hslashes : path.rtakeWhile (· == '/') =
      List.replicate (path.rtakeWhile (· == '/')).length '/' := by
    rw [List.eq_replicate_iff]
    exact ⟨rfl, fun c hc => by simpa using List.mem_rtakeWhile_imp hc⟩
  rw [← hslashes, dropTrailingSlashes_eq_rdropWhile]
  exact (List.rdropWhile_append_rtakeWhile (p := (· == '/'))).symm

theorem dropTrailingSlashes_append_slashes (path : List Char) (n : Nat) :
    dropTrailingSlashes (path ++ List.replicate n '/') = dropTrailingSlashes path := by
  induction n with
  | zero => rw [List.replicate_zero, List.append_nil]
  | succ n ih =>
    rw [List.replicate_succ', ← List.append_assoc, dropTrailingSlashes_eq_rdropWhile,
      List.rdropWhile_concat_pos _ _ _ (by rfl)]
    exact ih

theorem mem_of_mem_dropTrailingSlashes {path : List Char} {c : Char}
    (h : c ∈ dropTrailingSlashes path) : c ∈ path :=
  (List.rdropWhile_prefix (p := (· == '/')) (l := path)).subset h

/-! ### Absolute paths -/

theorem isAbsolute_drive {drive : Char} (h : drive.isAlpha = true) (rest : List Char) :
    isAbsolute (drive :: ':' :: '/' :: rest) = true := by
  unfold isAbsolute
  split
  · rfl
  · rename_i heq
    obtain ⟨rfl, -⟩ : drive = _ ∧ rest = _ := by simpa using heq
    exact h
  · rename_i hdrive
    exact absurd rfl (hdrive drive rest)

/-- A path is absolute if it starts with a slash, or with an ASCII letter, a colon
and a slash. -/
theorem isAbsolute_iff {path : List Char} :
    isAbsolute path = true ↔
      (∃ rest, path = '/' :: rest) ∨
        ∃ drive rest, drive.isAlpha = true ∧ path = drive :: ':' :: '/' :: rest := by
  constructor
  · intro h
    unfold isAbsolute at h
    split at h
    · exact Or.inl ⟨_, rfl⟩
    · exact Or.inr ⟨_, _, h, rfl⟩
    · cases h
  · rintro (⟨rest, rfl⟩ | ⟨drive, rest, hdrive, rfl⟩)
    · rfl
    · exact isAbsolute_drive hdrive rest

theorem isAbsolute_append {path : List Char} (h : isAbsolute path = true) (rest : List Char) :
    isAbsolute (path ++ rest) = true := by
  rcases isAbsolute_iff.mp h with ⟨tail, rfl⟩ | ⟨drive, tail, hdrive, rfl⟩
  · rfl
  · exact isAbsolute_drive hdrive (tail ++ rest)

/-- A path stays absolute when its backslashes become slashes. -/
theorem isAbsolute_withSlashes {path : List Char} (h : isAbsolute path = true) :
    isAbsolute (withSlashes path) = true := by
  rcases isAbsolute_iff.mp h with ⟨tail, rfl⟩ | ⟨drive, tail, hdrive, rfl⟩
  · rfl
  · have hletter : drive ≠ '\x5c' := by
      rintro rfl
      exact absurd hdrive (by decide)
    have hmap : withSlashes (drive :: ':' :: '/' :: tail) =
        drive :: ':' :: '/' :: withSlashes tail := by
      simp [withSlashes, hletter]
    rw [hmap]
    exact isAbsolute_drive hdrive _

/-- The scheme of a URL starts with a letter and no colon. -/
theorem not_urlScheme_prefix_of_isAbsolute {path : List Char} (h : isAbsolute path = true) :
    ¬ urlScheme <+: path := by
  rintro ⟨rest, rfl⟩
  exact absurd h (by simp [urlScheme, isAbsolute])

theorem normalize_of_isAbsolute {path : List Char} (h : isAbsolute (withSlashes path) = true) :
    normalize path = withSlashes path :=
  dropFront_of_absent (not_urlScheme_prefix_of_isAbsolute h)

theorem backslash_not_mem_normalize (path : List Char) : '\x5c' ∉ normalize path := fun h =>
  backslash_not_mem_withSlashes path (mem_of_mem_dropFront h)

/-- Slashes at the end of an absolute directory stay there: they complete no scheme
of a URL. -/
theorem normalize_append_slashes {directory : List Char}
    (h : isAbsolute (normalize directory) = true) (n : Nat) :
    normalize (directory ++ List.replicate n '/') = normalize directory ++ List.replicate n '/' := by
  have hslashes : withSlashes (List.replicate n '/') = List.replicate n '/' := by
    simp [withSlashes]
  rw [normalize_eq, withSlashes_append, hslashes]
  rcases dropFront_cases urlScheme (withSlashes directory) with hurl | ⟨-, hpath⟩
  · rw [hurl, List.append_assoc, dropFront_append]
    rfl
  · have habsolute : isAbsolute (withSlashes directory) = true := by
      rw [← hpath]
      exact h
    rw [dropFront_of_absent (not_urlScheme_prefix_of_isAbsolute (isAbsolute_append habsolute _)),
      normalize_of_isAbsolute habsolute]

/-- A path below an absolute directory is absolute. The directory may be a root, of
which nothing or a drive letter and a colon is left without its slashes; the slash
of the join makes up for them. -/
theorem isAbsolute_join {directory : List Char} (h : isAbsolute directory = true)
    (path : List Char) : isAbsolute (join directory path) = true := by
  obtain ⟨n, hdirectory⟩ := exists_trailingSlashes directory
  unfold join
  rw [hdirectory] at h
  generalize dropTrailingSlashes directory = base at h ⊢
  have hslash : ∀ c cs, List.replicate n '/' = c :: cs → c = '/' := by
    intro c cs heq
    exact List.eq_of_mem_replicate (heq ▸ List.mem_cons_self)
  rcases isAbsolute_iff.mp h with ⟨tail, htail⟩ | ⟨drive, tail, hdrive, htail⟩
  · cases base with
    | nil => rfl
    | cons c base =>
      obtain ⟨rfl, -⟩ : c = '/' ∧ _ := by simpa using htail
      rfl
  · match base, htail with
    | [], htail =>
      obtain rfl := hslash _ _ htail
      exact absurd hdrive (by decide)
    | [c], htail =>
      have hcolon : List.replicate n '/' = ':' :: '/' :: tail := (List.cons.inj htail).2
      exact absurd (hslash _ _ hcolon) (by decide)
    | [c, d], htail =>
      obtain ⟨rfl, rfl, -⟩ : c = drive ∧ d = ':' ∧ _ := by simpa using htail
      exact isAbsolute_drive hdrive _
    | c :: d :: e :: base, htail =>
      obtain ⟨rfl, rfl, rfl, -⟩ : c = drive ∧ d = ':' ∧ e = '/' ∧ _ := by simpa using htail
      exact isAbsolute_drive hdrive _

/-! ### Identities -/

/-- A name that stands for an absolute path is that path, wherever it is seen from. -/
theorem resolve_of_isAbsolute {name path : List Char} (hname : normalize name = path)
    (h : isAbsolute path = true) (directory : List Char) : resolve name directory = path := by
  subst hname
  exact if_pos (by rw [h, Bool.true_or])

/-- A relative name is joined to the directory. -/
theorem resolve_of_relative {name directory : List Char}
    (h : isAbsolute (normalize name) = false) (hdirectory : directory ≠ []) :
    resolve name directory = join (normalize directory) (normalize name) := by
  apply if_neg
  rw [h, Bool.false_or, List.isEmpty_iff]
  exact hdirectory

theorem ne_nil_of_isAbsolute {directory : List Char}
    (h : isAbsolute (normalize directory) = true) : directory ≠ [] := by
  rintro rfl
  exact absurd h (by decide)

theorem isAbsolute_resolve (name : List Char) {directory : List Char}
    (h : isAbsolute (normalize directory) = true) :
    isAbsolute (resolve name directory) = true := by
  have hdirectory := ne_nil_of_isAbsolute h
  cases hname : isAbsolute (normalize name) with
  | true =>
    rw [resolve_of_isAbsolute rfl hname]
    exact hname
  | false =>
    rw [resolve_of_relative hname hdirectory]
    exact isAbsolute_join h _

theorem backslash_not_mem_resolve (name directory : List Char) :
    '\x5c' ∉ resolve name directory := by
  unfold resolve
  simp only
  split
  · exact backslash_not_mem_normalize name
  · unfold join
    intro h
    rcases List.mem_append.mp h with h | h
    · exact backslash_not_mem_normalize directory (mem_of_mem_dropTrailingSlashes h)
    · rcases List.mem_cons.mp h with h | h
      · exact absurd h (by decide)
      · exact backslash_not_mem_normalize name (mem_of_mem_dropFront h)

/-- An absolute path without backslashes is its own identity. -/
theorem resolve_eq_self {path : List Char} (h : isAbsolute path = true) (hback : '\x5c' ∉ path)
    (directory : List Char) : resolve path directory = path := by
  have hslashes := withSlashes_eq_self hback
  have hnormal : normalize path = path := by
    rw [normalize_of_isAbsolute (by rw [hslashes]; exact h), hslashes]
  exact resolve_of_isAbsolute hnormal h directory

/-- Every spelling of an absolute path is the path with slashes. -/
theorem resolve_of_respells {path other : String} (h : isAbsolute path.toList = true)
    (hother : Respells path other) (directory : List Char) :
    resolve other.toList directory = withSlashes path.toList := by
  have habsolute := isAbsolute_withSlashes h
  have hnormal : normalize other.toList = withSlashes path.toList :=
    hother.normalize_eq.trans (normalize_of_isAbsolute habsolute)
  exact resolve_of_isAbsolute hnormal habsolute directory

/-- How a name and a directory are spelled, and how many slashes the directory ends
with, makes no difference. -/
theorem resolve_congr {name name' directory directory' : List Char}
    (hname : normalize name' = normalize name)
    (hdirectory : dropTrailingSlashes (normalize directory') =
      dropTrailingSlashes (normalize directory))
    (hne : directory ≠ []) (hne' : directory' ≠ []) :
    resolve name' directory' = resolve name directory := by
  unfold resolve join
  rw [hname, hdirectory, List.isEmpty_eq_false_iff.mpr hne, List.isEmpty_eq_false_iff.mpr hne']

theorem ofHost_eq_iff {name name' : String} {directory directory' : Option String} :
    ofHost (some name) directory = ofHost (some name') directory' ↔
      resolve name.toList (directory.getD "").toList =
        resolve name'.toList (directory'.getD "").toList := by
  simp [ofHost, String.ofList_inj]

theorem toList_path_ofHost (name : String) (directory : Option String) :
    (ofHost (some name) directory).path.toList =
      resolve name.toList (directory.getD "").toList :=
  String.toList_ofList

/-- **An identity is a full path in a stable form.** Seen from an absolute working
directory every name has an absolute identity without backslashes, which is its own
identity wherever it is seen from. The identity does not change when slashes of the
name or of the directory are written as backslashes or the directory ends with more
slashes. -/
theorem ofHost_full_and_stable (name directory : String)
    (h : isAbsolute (normalize directory.toList) = true) :
    ∃ id, ofHost (some name) (some directory) = id ∧
      isAbsolute id.path.toList = true ∧
      '\x5c' ∉ id.path.toList ∧
      (∀ other, ofHost (some id.path) other = id) ∧
      ∀ n name' directory', Respells name name' →
        Respells (directory ++ String.ofList (List.replicate n '/')) directory' →
        ofHost (some name') (some directory') = id := by
  refine ⟨_, rfl, ?_, ?_, fun other => ?_, fun n name' directory' hname hdirectory => ?_⟩
  · rw [toList_path_ofHost]
    exact isAbsolute_resolve _ h
  · rw [toList_path_ofHost]
    exact backslash_not_mem_resolve _ _
  · rw [ofHost_eq_iff, toList_path_ofHost]
    exact resolve_eq_self (isAbsolute_resolve _ h) (backslash_not_mem_resolve _ _) _
  · have hnormal : normalize directory'.toList =
        normalize directory.toList ++ List.replicate n '/' := by
      rw [hdirectory.normalize_eq, String.toList_append, String.toList_ofList]
      exact normalize_append_slashes h n
    have habsolute : isAbsolute (normalize directory'.toList) = true := by
      rw [hnormal]
      exact isAbsolute_append h _
    rw [ofHost_eq_iff]
    refine resolve_congr hname.normalize_eq ?_ (ne_nil_of_isAbsolute h)
      (ne_nil_of_isAbsolute habsolute)
    show dropTrailingSlashes (normalize directory'.toList) = _
    rw [hnormal]
    exact dropTrailingSlashes_append_slashes _ n

/-- A name seen from the root of a drive, its identity seen from nowhere, and the name
seen from that root with more slashes and all of them written as backslashes. -/
theorem drive_root_full_and_stable :
    isAbsolute (normalize "C:/".toList) = true ∧
    ∃ id, ofHost (some "src\x5cindex.js") (some "C:/") = id ∧
      isAbsolute id.path.toList = true ∧
      ofHost (some id.path) none = id ∧
      ofHost (some (withBackslashes "src\x5cindex.js")) (some (withBackslashes "C://///")) = id := by
  have h : isAbsolute (normalize "C:/".toList) = true := by decide
  obtain ⟨id, hid, habsolute, -, hself, hspelled⟩ :=
    ofHost_full_and_stable "src\x5cindex.js" "C:/" h
  exact ⟨h, id, hid, habsolute, hself none,
    hspelled 4 _ _ (respells_withBackslashes _) (respells_withBackslashes _)⟩

/-- **Different files have different identities.** Seen from two directories a relative
name has one identity only if the directories are the same but for the slashes at
their ends; seen from one directory two relative names have one identity only if
they are the same but for one `./` in front of each. -/
theorem ofHost_separates {name name' directory directory' : String}
    (hname : isAbsolute (normalize name.toList) = false)
    (hname' : isAbsolute (normalize name'.toList) = false)
    (hdirectory : directory ≠ "") (hdirectory' : directory' ≠ "") :
    (ofHost (some name) (some directory) = ofHost (some name) (some directory') ↔
      dropTrailingSlashes (normalize directory.toList) =
        dropTrailingSlashes (normalize directory'.toList)) ∧
    (ofHost (some name) (some directory) = ofHost (some name') (some directory) ↔
      dropFront ['.', '/'] (normalize name.toList) =
        dropFront ['.', '/'] (normalize name'.toList)) := by
  have hne : directory.toList ≠ [] := by simpa using hdirectory
  have hne' : directory'.toList ≠ [] := by simpa using hdirectory'
  constructor
  · rw [ofHost_eq_iff, Option.getD_some, Option.getD_some, resolve_of_relative hname hne,
      resolve_of_relative hname hne']
    exact List.append_left_inj _
  · rw [ofHost_eq_iff, Option.getD_some, resolve_of_relative hname hne,
      resolve_of_relative hname' hne]
    unfold join
    rw [List.append_right_inj, List.cons_inj_right]

/-- A file of one name in two directories, and its name with and without `./`. -/
theorem index_separates :
    isAbsolute (normalize "./index.js".toList) = false ∧
    isAbsolute (normalize "index.js".toList) = false ∧
    ofHost (some "./index.js") (some "/app/a/") ≠ ofHost (some "./index.js") (some "/app/b") ∧
    ofHost (some "./index.js") (some "/app/a/") = ofHost (some "index.js") (some "/app/a/") := by
  have hname : isAbsolute (normalize "./index.js".toList) = false := by decide
  have hname' : isAbsolute (normalize "index.js".toList) = false := by decide
  obtain ⟨hdirectories, hnames⟩ := ofHost_separates hname hname'
    (show "/app/a/" ≠ "" by decide) (show "/app/b" ≠ "" by decide)
  exact ⟨hname, hname', fun heq => absurd (hdirectories.mp heq) (by decide),
    hnames.mpr (by decide)⟩

/-! ### File URLs -/

/-- The path in the URL of a file: an absolute path, with a slash in front of a drive
letter. -/
def urlPath : List Char → List Char
  | '/' :: path => '/' :: path
  | path => '/' :: path

/-- The URL of the file with the given absolute path. -/
def fileUrl (path : String) : String := String.ofList (urlScheme ++ urlPath path.toList)

/-- Whether a character stands for itself in the path of a URL. -/
def isUrlPathChar (c : Char) : Bool :=
  c.isAlphanum || "-._~!$&'()*+,;=:@/".toList.contains c

theorem normalize_urlScheme_append (path : List Char) :
    normalize (urlScheme ++ path) = withSlashes path := by
  rw [normalize_eq, withSlashes_append]
  exact dropFront_append urlScheme (withSlashes path)

theorem urlPath_of_drive {path : List Char} (h : ∀ rest, path ≠ '/' :: rest) :
    urlPath path = '/' :: path := by
  unfold urlPath
  split
  · exact absurd rfl (h _)
  · rfl

theorem isAbsolute_urlPath (path : List Char) : isAbsolute (urlPath path) = true := by
  unfold urlPath
  split <;> rfl

/-- The identity that a file URL gives is the path in it, the slash in front of a drive
letter included. -/
theorem resolve_fileUrl (path : String) (directory : List Char) :
    resolve (fileUrl path).toList directory = withSlashes (urlPath path.toList) := by
  have hnormal : normalize (fileUrl path).toList = withSlashes (urlPath path.toList) := by
    unfold fileUrl
    rw [String.toList_ofList]
    exact normalize_urlScheme_append _
  exact resolve_of_isAbsolute hnormal (isAbsolute_withSlashes (isAbsolute_urlPath path.toList)) _

/-- **The spellings of an absolute path.** A path has the same identity with any of its
slashes written as backslashes. Its URL gives that identity exactly if the path starts
with a slash; the URL of a path with a drive letter gives the path behind one more
slash. -/
theorem ofHost_spellings (path : String) (directory : Option String)
    (h : isAbsolute path.toList = true) :
    (∀ other, Respells path other →
      ofHost (some other) directory = ofHost (some path) directory) ∧
    (ofHost (some (fileUrl path)) directory = ofHost (some path) directory ↔
      ∃ rest, path.toList = '/' :: rest) ∧
    ((∀ rest, path.toList ≠ '/' :: rest) →
      (ofHost (some (fileUrl path)) directory).path.toList =
        '/' :: (ofHost (some path) directory).path.toList) := by
  have hself : ∀ seen, resolve path.toList seen = withSlashes path.toList :=
    resolve_of_respells h (.refl path)
  have hdrive : (∀ rest, path.toList ≠ '/' :: rest) → ∀ seen,
      resolve (fileUrl path).toList seen = '/' :: withSlashes path.toList := by
    intro hrest seen
    rw [resolve_fileUrl, urlPath_of_drive hrest]
    rfl
  refine ⟨fun other hother => ?_, ⟨fun heq => ?_, ?_⟩, fun hrest => ?_⟩
  · rw [ofHost_eq_iff, resolve_of_respells h hother, hself]
  · by_contra hrest
    have hlonger := ofHost_eq_iff.mp heq
    rw [hdrive fun rest hstart => hrest ⟨rest, hstart⟩, hself] at hlonger
    exact absurd (congrArg List.length hlonger) (by simp)
  · rintro ⟨rest, hrest⟩
    rw [ofHost_eq_iff, resolve_fileUrl, hself, hrest]
    rfl
  · rw [toList_path_ofHost, toList_path_ofHost, hself]
    exact hdrive hrest _

/-- A path that starts with a slash has one identity in all its spellings. -/
theorem posix_spellings_agree :
    isAbsolute "/srv/app/index.js".toList = true ∧
    ofHost (some (withBackslashes "/srv/app/index.js")) none =
      ofHost (some "/srv/app/index.js") none ∧
    ofHost (some (fileUrl "/srv/app/index.js")) none = ofHost (some "/srv/app/index.js") none := by
  have h : isAbsolute "/srv/app/index.js".toList = true := by decide
  obtain ⟨hspelled, hurl, -⟩ := ofHost_spellings "/srv/app/index.js" none h
  exact ⟨h, hspelled _ (respells_withBackslashes _), hurl.mpr ⟨_, rfl⟩⟩

/-- A path with a drive letter, of characters that a URL leaves as they are, has another
identity as a URL. -/
theorem drive_url_differs :
    isAbsolute "C:/proj/index.js".toList = true ∧
    "C:/proj/index.js".toList.all isUrlPathChar = true ∧
    fileUrl "C:/proj/index.js" = "file:///C:/proj/index.js" ∧
    ofHost (some "C:/proj/index.js") none = ⟨"C:/proj/index.js"⟩ ∧
    ofHost (some (fileUrl "C:/proj/index.js")) none = ⟨"/C:/proj/index.js"⟩ ∧
    ofHost (some (fileUrl "C:/proj/index.js")) none ≠ ofHost (some "C:/proj/index.js") none := by
  decide +kernel

end FileIdentity

end HotReload
