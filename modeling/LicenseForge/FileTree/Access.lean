import LicenseForge.FileTree.Route

/-!
# Reading and writing

* `FileTree.list`, `FileTree.isFile`, `FileTree.readText` : what a path leads to.
* `FileTree.overwrite` : writes a file, through symbolic links, in the place of what it held.
* `FileTree.create` : writes a file where there is nothing, not even a symbolic link.
* `FileTree.addFile`, `FileTree.addFolder`, `FileTree.addLink` : build a tree.
-/

namespace LicenseForge.FileTree

/-! ### Reading -/

/-- The names in a folder. -/
def list (t : FileTree) (path : Text) : Except FileError (List Text) := do
  match ← t.locate .inspect path with
  | .found p .folder => return t.names p
  | .found _ _ => throw .notFolder
  | .free _ => throw .notFound

/-- The content of a file. -/
def read (t : FileTree) (path : Text) : Except FileError Bytes := do
  match ← t.locate .inspect path with
  | .found _ (.file content) => return content
  | .found _ _ => throw .isFolder
  | .free _ => throw .notFound

/-- The path leads to a regular file. -/
def isFile (t : FileTree) (path : Text) : Bool := (t.read path).isOk

/-- The text that a file holds. -/
def readText (t : FileTree) (path : Text) : Except FileError Text := do
  match Text.decode? (← t.read path) with
  | some text => return text
  | none => throw .notUtf8

/-! ### Writing -/

/-- The tree in which a file has the content, whether the file was there or not. -/
def overwrite (t : FileTree) (path : Text) (content : Bytes) : Except FileError FileTree := do
  match ← t.locate .overwrite path with
  | .found p (.file _) => return t.put p (.file content)
  | .found _ _ => throw .isFolder
  | .free p => return t.put p (.file content)

/-- The tree with a new file, if there is nothing at its path. -/
def create (t : FileTree) (path : Text) (content : Bytes) : Except FileError FileTree := do
  match ← t.locate .create path with
  | .found _ _ => throw .occupied
  | .free p => return t.put p (.file content)

/-! ### Building a tree -/

/-- The tree with all folders that the steps pass, and the folder to which they lead. -/
def addFolders (t : FileTree) (here : Path) : List Text → FileTree × Path
  | [] => (t, here)
  | step :: rest =>
    if step = ['.'] then t.addFolders here rest
    else if step = ['.', '.'] then t.addFolders here.dropLast rest
    else match t.walk .inspect linkLimit here [step] false with
      | .ok (.found p .folder) => t.addFolders p rest
      | .ok (.free p) => (t.put p .folder).addFolders p rest
      | _ => (t, here)

/-- The tree with a folder and the folders around it. -/
def addFolder (t : FileTree) (path : Text) : FileTree :=
  let route := Route.ofText path
  (t.addFolders (if route.absolute then [] else t.home) route.steps).1

/-- The tree with the folders around a path. -/
def addParents (t : FileTree) (path : Text) : FileTree :=
  let route := Route.ofText path
  (t.addFolders (if route.absolute then [] else t.home) route.steps.dropLast).1

/-- The tree with a file and the folders around it. -/
def addFile (t : FileTree) (path : Text) (content : Bytes) : FileTree :=
  let t := t.addParents path
  (t.overwrite path content).toOption.getD t

/-- The tree with a symbolic link and the folders around it. -/
def addLink (t : FileTree) (path target : Text) : FileTree :=
  let t := t.addParents path
  match t.locate .create path with
  | .ok (.free p) => t.put p (.link target)
  | _ => t

/-- The files and symbolic links below the working folder, by their paths from there. -/
def leaves (t : FileTree) : List (Text × Node) :=
  t.entries.filterMap fun e =>
    if e.2 ≠ .folder && t.home.isPrefixOf e.1 then
      some (List.intercalate ['/'] (e.1.drop t.home.length), e.2)
    else none

end LicenseForge.FileTree
