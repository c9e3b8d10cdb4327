import LicenseForge.License.Basic
import LicenseForge.Text.Blank
import LicenseForge.Text.Lowercase

/-!
# Lines of a header

* `HeaderLine.ofText` : what a line of a template's header says.
* `Scalar` : the keys that hold one value.
* `Section.ofKey?` : the keys that open a list.
-/

namespace LicenseForge

/-- What a line of a header says. -/
inductive HeaderLine where
  /-- An item of the list that is open. -/
  | item (text : Text)
  /-- A key, in lower case, with its value. -/
  | entry (key value : Text)
  /-- Nothing. -/
  | idle
  deriving DecidableEq, Repr

namespace HeaderLine

/-- The start of an item. -/
def bullet : Text := "- ".toList

/-- Reads a line: an item starts with a bullet, a key ends at the first colon. -/
def ofText (line : Text) : HeaderLine :=
  let line := line.trim
  if bullet.isPrefixOf line then .item (Text.trim (line.drop bullet.length))
  else match line.cut ':' with
    | some (key, value) => .entry key.trim.lowercaseAscii value.trim
    | none => .idle

end HeaderLine

/-! ### Keys -/

/-- The parts of a license that hold one value. -/
inductive Scalar where
  /-- The short name. -/
  | id
  /-- The full name. -/
  | name
  /-- What the license is for. -/
  | description
  /-- The identifier in the SPDX list. -/
  | spdx
  /-- The kind of license. -/
  | category
  deriving DecidableEq, Repr

namespace Scalar

/-- The key of a part. -/
def key : Scalar → Text
  | id => "id".toList
  | name => "name".toList
  | description => "description".toList
  | spdx => "spdx".toList
  | category => "category".toList

/-- The part that a key names. -/
def ofKey? (t : Text) : Option Scalar :=
  [id, name, description, spdx, category].find? (·.key == t)

@[simp] theorem ofKey?_key (s : Scalar) : ofKey? s.key = some s := by cases s <;> decide

end Scalar

namespace Section

/-- The key that opens a section. -/
def key : Section → Text
  | permissions => "permissions".toList
  | conditions => "conditions".toList
  | limitations => "limitations".toList

/-- The section that a key opens. -/
def ofKey? (t : Text) : Option Section :=
  [permissions, conditions, limitations].find? (·.key == t)

@[simp] theorem ofKey?_key (s : Section) : ofKey? s.key = some s := by cases s <;> decide

end Section

/-- The license with a new value in one of its parts. -/
def License.set (l : License) (s : Scalar) (value : Text) : License :=
  match s with
  | .id => { l with id := value }
  | .name => { l with name := value }
  | .description => { l with description := value }
  | .spdx => { l with spdx := value.nonempty? }
  | .category => { l with category := value.nonempty? }

end LicenseForge
