import LicenseForge.Catalog.Basic
import LicenseForge.Catalog.Builtin.Apache
import LicenseForge.Catalog.Builtin.Bsd
import LicenseForge.Catalog.Builtin.Mit
import LicenseForge.Catalog.Builtin.Unlicense
import LicenseForge.Catalog.Builtin.Zlib
import LicenseForge.Catalog.Error

/-!
# The licenses that come with the program

* `Builtin.templates` : their templates.
* `Catalog.builtin` : the catalog of these licenses.
-/

namespace LicenseForge

/-- The templates that come with the program, each with the name under which a fault in it is
reported. -/
def Builtin.templates : List (String × List String) :=
  [("0bsd", bsdZero), ("apache-2.0", apache), ("bsd-2-clause", bsdTwo), ("bsd-3-clause", bsdThree),
    ("isc", isc), ("mit", mit), ("unlicense", unlicense), ("zlib", zlib)]

/-- The text of a template. -/
def Builtin.source (lines : List String) : Text := lines.flatMap fun l => l.toList ++ ['\n']

/-- The path under which a fault in a template is reported. -/
def Builtin.path (name : String) : Text := ("<builtin>/" ++ name ++ ".template").toList

/-- The catalog with the licenses of templates. -/
def Catalog.addTemplates (c : Catalog) : List (String × List String) → Except CatalogError Catalog
  | [] => .ok c
  | (name, lines) :: rest =>
    match License.parse (Builtin.source lines) with
    | .ok l => (c.insert l).addTemplates rest
    | .error cause => .error (.invalid (Builtin.path name) cause)

/-- The licenses that come with the program. -/
def Catalog.builtin : Except CatalogError Catalog := Catalog.empty.addTemplates Builtin.templates

end LicenseForge
