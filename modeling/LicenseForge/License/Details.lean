import LicenseForge.License.Filling
import LicenseForge.Palette

/-!
# The details of a license

`License.details` : what is known about a license, and how to ask for it.
-/

namespace LicenseForge

/-- The title of a section. -/
def Section.title : Section → Text
  | permissions => "Permissions".toList
  | conditions => "Conditions".toList
  | limitations => "Limitations".toList

/-- The mark in front of the items of a section. -/
def Section.icon : Section → Char
  | permissions => '✓'
  | conditions => 'ⓘ'
  | limitations => '✗'

/-- The colour of the mark. -/
def Section.color (p : Palette) : Section → Text
  | permissions => p.green
  | conditions => p.blue
  | limitations => p.red

namespace License

/-- The line of a property: its label and its value. -/
def property (p : Palette) (label : String) (gap : Nat) (value : Text) : Text :=
  "  ".toList ++ p.dim ++ label.toList ++ p.reset ++ List.replicate gap ' ' ++ value ++ ['\n']

/-- The lines of a section, which is left out when it is empty. -/
def sectionLines (l : License) (p : Palette) (s : Section) : List Text :=
  if (l.items s).isEmpty then []
  else ['\n'] :: (p.bold ++ s.title ++ p.reset ++ ['\n'])
    :: (l.items s).map fun item =>
      "  ".toList ++ s.color p ++ s.icon :: p.reset ++ ' ' :: item ++ ['\n']

/-- Stands for an empty description. -/
def noDescription : Text := "No description available.".toList

/-- A filling of just what the text needs. -/
def sampleFilling (l : License) (now : Int) : Filling where
  holder := if l.needs .holder then some "Your Name".toList else none
  year := if l.needs .year then some (Year.format now) else none

/-- The lines that show a license. -/
def details (l : License) (p : Palette) (now : Int) : List Text :=
  [p.bold ++ l.name ++ p.reset ++ ['\n'], ['\n'], property p "id" 8 l.id]
    ++ (l.spdx.map (property p "spdx" 6)).toList
    ++ (l.category.map (property p "category" 2)).toList
    ++ [['\n'], (if l.description.isEmpty then noDescription else l.description) ++ ['\n']]
    ++ [Section.permissions, .conditions, .limitations].flatMap (l.sectionLines p)
    ++ [['\n'], "Usage: ".toList ++ l.invocation (l.sampleFilling now) ++ ['\n']]

end License

end LicenseForge
