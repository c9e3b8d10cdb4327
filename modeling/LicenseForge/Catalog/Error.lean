import LicenseForge.FileTree.Basic
import LicenseForge.License.Template

/-!
# What can go wrong with a catalog

`CatalogError` : why the licenses of a folder cannot be loaded.
-/

namespace LicenseForge

/-- Why licenses cannot be loaded. -/
inductive CatalogError where
  /-- A folder or a file cannot be read. -/
  | unreadable (path : Text) (cause : FileError)
  /-- A file is no template. -/
  | invalid (path : Text) (cause : TemplateError)
  /-- There is no template in the folder. -/
  | noTemplates (folder : Text)
  deriving DecidableEq, Repr

/-- The wording of the error. -/
def CatalogError.message : CatalogError → Text
  | unreadable path cause => "failed to read '".toList ++ path ++ "': ".toList ++ cause.message
  | invalid path cause => "invalid template '".toList ++ path ++ "': ".toList ++ cause.message
  | noTemplates folder => "no .template files found in '".toList ++ folder ++ ['\'']

end LicenseForge
