import LicenseForge.Catalog.Basic
import LicenseForge.Palette

/-!
# The list of licenses

`Catalog.listing` : a heading and a row for every license, the names in one column.
-/

namespace LicenseForge.Catalog

/-- The width of the column of ids: the greatest number of bytes of an id. -/
def idWidth (c : Catalog) : Nat := (c.licenses.map (·.id.encode.length)).foldl max 0

/-- The heading with the number of licenses. -/
def heading (c : Catalog) : Text :=
  "Available licenses (".toList ++ Nat.toDigits 10 c.size ++ "):\n".toList

/-- The heading is a line. -/
theorem heading_eq (c : Catalog) :
    c.heading = "Available licenses (".toList ++ Nat.toDigits 10 c.size ++ "):".toList ++ ['\n'] :=
  (List.append_assoc _ "):".toList ['\n']).symm

/-- The row of a license. -/
def row (p : Palette) (width : Nat) (l : License) : Text :=
  "  ".toList ++ p.cyan ++ l.id.rightpad width ' ' ++ p.reset ++ "  ".toList ++ l.name ++ ['\n']

/-- The lines of the list. -/
def listing (c : Catalog) (p : Palette) : List Text :=
  c.heading :: c.licenses.map (row p c.idWidth)

end LicenseForge.Catalog
