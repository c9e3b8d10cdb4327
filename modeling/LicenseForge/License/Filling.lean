import LicenseForge.License.Basic
import LicenseForge.Year

/-!
# Filling in a license

* `Text.replace` : every occurrence of a pattern replaced.
* `Filling` : the copyright holder and the year.
* `License.fill` : the text of a license with its placeholders filled in.
* `License.invocation` : the command that gives the same text without questions.
-/

namespace LicenseForge

/-! ### Replacing -/

/-- The text with `value` for every occurrence of `pattern`, found from left to right. The first
`skip` characters belong to an occurrence that has been replaced. -/
def Text.replaceAfter (pattern value : Text) (skip : Nat) : Text → Text
  | [] => []
  | c :: t =>
    match skip with
    | k + 1 => Text.replaceAfter pattern value k t
    | 0 =>
      if pattern.isPrefixOf (c :: t) then
        value ++ Text.replaceAfter pattern value (pattern.length - 1) t
      else c :: Text.replaceAfter pattern value 0 t

/-- The text with `value` for every occurrence of `pattern`, found from left to right. -/
def Text.replace (pattern value t : Text) : Text := Text.replaceAfter pattern value 0 t

/-! ### Fillings -/

/-- What is put into the placeholders of a license. -/
structure Filling where
  /-- The copyright holder. -/
  holder : Option Text := none
  /-- The copyright year. -/
  year : Option Text := none
  deriving DecidableEq, Repr, Inhabited

/-- Stands for a copyright holder who was not named. -/
def Filling.unnamed : Text := "[fullname]".toList

namespace License

/-- The text of the license, filled in. The year `now` stands for a missing year. -/
def fill (l : License) (f : Filling) (now : Int) : Text :=
  Text.replace Placeholder.holder.mark (f.holder.getD Filling.unnamed)
    (Text.replace Placeholder.year.mark (f.year.getD (Year.format now)) l.text)

/-- The name of the program. -/
def programName : Text := "licgen".toList

/-- The command that fills the license in the same way without questions. -/
def invocation (l : License) (f : Filling) : Text :=
  programName ++ ' ' :: l.id
    ++ (match f.holder with
      | some h => " --name \"".toList ++ h ++ ['"']
      | none => [])
    ++ (match f.year with
      | some y => " --year ".toList ++ y
      | none => [])

end License

end LicenseForge
