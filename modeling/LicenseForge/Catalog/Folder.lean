import LicenseForge.Catalog.Builtin
import LicenseForge.FileTree.Access
import LicenseForge.Log.Event

/-!
# Licenses from a folder

* `Catalog.templatePaths` : the template files of a folder, in the byte order of their names.
* `Catalog.ofFolder` : the licenses of a folder.
* `Catalog.overlay` : the licenses of a folder over those of a catalog.
* `Catalog.load` : the licenses that come with the program, and those of a folder over them.
-/

namespace LicenseForge

/-- A result with what was reported on the way to it. -/
structure Reported (α : Type) where
  /-- The result. -/
  result : α
  /-- What was reported, in order. -/
  events : List Event

namespace Catalog

/-! ### Template files -/

/-- The end of the name of a template file. -/
def templateSuffix : Text := ".template".toList

/-- The name of a template file: the suffix, with something in front of it. -/
def isTemplateName (name : Text) : Bool :=
  templateSuffix.isSuffixOf name && name != templateSuffix

/-- The path of a name in a folder. -/
def pathIn (folder name : Text) : Text :=
  if folder.getLast? == some '/' then folder ++ name else folder ++ '/' :: name

/-- The names in the order of their bytes. -/
def sortNames (names : List Text) : List Text :=
  names.mergeSort fun a b => !decide (b.Precedes a)

/-- The template files in a folder that holds the names, in order. -/
def templatePaths (t : FileTree) (folder : Text) (names : List Text) : List Text :=
  ((sortNames names).filter isTemplateName).map (pathIn folder) |>.filter t.isFile

/-- The license that a template file describes. -/
def readTemplate (t : FileTree) (path : Text) : Except CatalogError License :=
  match t.readText path with
  | .error cause => .error (.unreadable path cause)
  | .ok source =>
    match License.parse source with
    | .error cause => .error (.invalid path cause)
    | .ok l => .ok l

/-! ### Loading -/

/-- What is reported when a license from a file is inserted. -/
def insertionEvents (c : Catalog) (l : License) (path : Text) : List Event :=
  .templateLoaded l.id path :: ((c.replacedBy l).map fun old => .duplicateId old.id path).toList

/-- The catalog with the licenses of template files, up to the first file that has a fault. -/
def addFiles (t : FileTree) (c : Catalog) : List Text → Reported (Except CatalogError Catalog)
  | [] => ⟨.ok c, []⟩
  | path :: rest =>
    match readTemplate t path with
    | .error e => ⟨.error e, []⟩
    | .ok l =>
      let after := addFiles t (c.insert l) rest
      ⟨after.result, c.insertionEvents l path ++ after.events⟩

/-- The licenses of a folder that holds the names, in whatever order they are listed. -/
def ofNames (t : FileTree) (folder : Text) (names : List Text) :
    Reported (Except CatalogError Catalog) :=
  match templatePaths t folder names with
  | [] => ⟨.error (.noTemplates folder), []⟩
  | paths => addFiles t empty paths

/-- The licenses of a folder. -/
def ofFolder (t : FileTree) (folder : Text) : Reported (Except CatalogError Catalog) :=
  match t.list folder with
  | .error cause => ⟨.error (.unreadable folder cause), []⟩
  | .ok names => ofNames t folder names

/-- The licenses of a catalog, if there is one, with those of a folder, if one is given, over
them. -/
def overlay (base : Except CatalogError Catalog) (t : FileTree) (folder : Option Text) :
    Reported (Except CatalogError Catalog) :=
  match base with
  | .error e => ⟨.error e, []⟩
  | .ok base =>
    let first := Event.builtinsLoaded base.size
    match folder with
    | none => ⟨.ok base, [first]⟩
    | some folder =>
      let custom := ofFolder t folder
      match custom.result with
      | .error e => ⟨.error e, first :: custom.events⟩
      | .ok c =>
        ⟨.ok (base.merge c), first :: custom.events
          ++ .folderLoaded folder c.size :: (base.replacedByAll c).map fun old => .overridden old.id⟩

/-- The licenses that come with the program, with those of a folder, if one is given, over
them. -/
def load (t : FileTree) (folder : Option Text) : Reported (Except CatalogError Catalog) :=
  overlay builtin t folder

end Catalog

end LicenseForge
