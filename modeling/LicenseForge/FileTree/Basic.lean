import LicenseForge.Text.Basic

/-!
# File trees

* `Node` : a file, a folder or a symbolic link.
* `FileTree` : the nodes by their paths from the root, and the working folder.
* `FileError` : why the operating system refuses an operation.
-/

namespace LicenseForge

/-- What a file tree holds at a path. -/
inductive Node where
  /-- A regular file. -/
  | file (content : Bytes)
  /-- A folder. -/
  | folder
  /-- A symbolic link. -/
  | link (target : Text)
  deriving DecidableEq, Repr

/-- The names from the root to a node. A name is a Unicode text: nodes whose names have bytes that
are not UTF-8 are left out of a tree, and so are links to them. -/
abbrev Path := List Text

/-- A file tree with a working folder. -/
structure FileTree where
  /-- The nodes by their paths; the first entry of a path counts. -/
  entries : List (Path × Node) := []
  /-- The path of the working folder. -/
  home : Path := []
  deriving DecidableEq, Repr, Inhabited

namespace FileTree

/-- The node at a path. The root is a folder. -/
def get? (t : FileTree) (p : Path) : Option Node :=
  if p.isEmpty then some .folder else t.entries.lookup p

/-- Entries with a node at a path, in the place of the one that is there or behind all others. -/
def putEntry (p : Path) (n : Node) : List (Path × Node) → List (Path × Node)
  | [] => [(p, n)]
  | e :: es => if e.1 = p then (p, n) :: es else e :: putEntry p n es

/-- The tree with a node at a path. -/
def put (t : FileTree) (p : Path) (n : Node) : FileTree :=
  { t with entries := putEntry p n t.entries }

theorem lookup_putEntry (p q : Path) (n : Node) (es : List (Path × Node)) :
    (putEntry p n es).lookup q = if q = p then some n else es.lookup q := by
  induction es with
  | nil =>
    by_cases h : q = p
    · simp [putEntry, h]
    · simp [putEntry, List.lookup_cons, beq_false_of_ne h, h]
  | cons e es ih =>
    obtain ⟨k, v⟩ := e
    by_cases hk : k = p
    · subst hk
      by_cases hq : q = k
      · simp [putEntry, hq]
      · simp [putEntry, List.lookup_cons, beq_false_of_ne hq, hq]
    · by_cases hqk : q = k
      · simp [putEntry, hk, hqk]
      · simp [putEntry, hk, List.lookup_cons, beq_false_of_ne hqk, ih]

theorem get?_put (t : FileTree) {p : Path} (hp : p ≠ []) (q : Path) (n : Node) :
    (t.put p n).get? q = if q = p then some n else t.get? q := by
  cases q with
  | nil => simp [get?, Ne.symm hp]
  | cons a q => simp [get?, put, lookup_putEntry]

/-- The names in the folder at a path. -/
def names (t : FileTree) (p : Path) : List Text :=
  t.entries.filterMap fun e =>
    match e.1.reverse with
    | name :: folder => if folder.reverse = p then some name else none
    | [] => none

end FileTree

/-! ### Errors -/

/-- Why the operating system refuses an operation. -/
inductive FileError where
  /-- There is nothing at the path. -/
  | notFound
  /-- There is something at the path. -/
  | occupied
  /-- A part of the path that has to be a folder is none. -/
  | notFolder
  /-- The path names a folder. -/
  | isFolder
  /-- The path or one of its names is too long. -/
  | nameTooLong
  /-- The path leads through too many symbolic links. -/
  | tooManyLinks
  /-- The path holds a NUL character. -/
  | nulInPath
  /-- The content of the file is not UTF-8. -/
  | notUtf8
  deriving DecidableEq, Repr

/-- The wording of the error. -/
def FileError.message : FileError → Text
  | notFound => "No such file or directory (os error 2)".toList
  | occupied => "File exists (os error 17)".toList
  | notFolder => "Not a directory (os error 20)".toList
  | isFolder => "Is a directory (os error 21)".toList
  | nameTooLong => "File name too long (os error 36)".toList
  | tooManyLinks => "Too many levels of symbolic links (os error 40)".toList
  | nulInPath => "file name contained an unexpected NUL byte".toList
  | notUtf8 => "stream did not contain valid UTF-8".toList

end LicenseForge
