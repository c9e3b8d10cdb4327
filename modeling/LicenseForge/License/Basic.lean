import LicenseForge.Text.Basic

/-!
# Licenses

* `License` : a license text with what is known about it.
* `Section` : the three lists that say what a license does.
* `Placeholder` : the marks in the text that stand for the copyright holder and the year.
-/

namespace LicenseForge

/-- The lists that say what a license does. -/
inductive Section where
  /-- What the license allows. -/
  | permissions
  /-- What the license asks for. -/
  | conditions
  /-- What the license does not grant. -/
  | limitations
  deriving DecidableEq, Repr

/-- A license text with what is known about it. -/
structure License where
  /-- The short name by which the license is asked for. -/
  id : Text := []
  /-- The full name. -/
  name : Text := []
  /-- What the license is for; may be empty. -/
  description : Text := []
  /-- The identifier in the SPDX list. -/
  spdx : Option Text := none
  /-- The kind of license. -/
  category : Option Text := none
  /-- What the license allows. -/
  permissions : List Text := []
  /-- What the license asks for. -/
  conditions : List Text := []
  /-- What the license does not grant. -/
  limitations : List Text := []
  /-- The text, with its placeholders. -/
  text : Text := []
  deriving DecidableEq, Repr, Inhabited

namespace License

/-- The items of a section. -/
def items (l : License) : Section → List Text
  | .permissions => l.permissions
  | .conditions => l.conditions
  | .limitations => l.limitations

/-- The license with one more item at the end of a section. -/
def addItem (l : License) (s : Section) (item : Text) : License :=
  match s with
  | .permissions => { l with permissions := l.permissions ++ [item] }
  | .conditions => { l with conditions := l.conditions ++ [item] }
  | .limitations => { l with limitations := l.limitations ++ [item] }

end License

/-! ### Placeholders -/

/-- The pattern stands somewhere in the text. -/
def Text.occurs (pattern : Text) : Text → Bool
  | [] => pattern.isEmpty
  | c :: t => pattern.isPrefixOf (c :: t) || Text.occurs pattern t

/-- What a license text leaves open. -/
inductive Placeholder where
  /-- The copyright holder. -/
  | holder
  /-- The copyright year. -/
  | year
  deriving DecidableEq, Repr

/-- How a placeholder is written: a word in two pairs of braces. -/
def Placeholder.mark : Placeholder → Text
  | holder => "\x7b\x7bname\x7d\x7d".toList
  | year => "\x7b\x7byear\x7d\x7d".toList

namespace License

/-- The text leaves the placeholder open. -/
def needs (l : License) (p : Placeholder) : Bool := Text.occurs p.mark l.text

end License

end LicenseForge
