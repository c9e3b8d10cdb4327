import LicenseForge.License.Header
import LicenseForge.Text.Line

/-!
# Templates

A template is a header and the text of a license, with a line `---` between them.

* `Template.split?` : the lines before and after the separator.
* `Draft` : what the lines of a header read so far say.
* `License.parse` : the license that a template describes.
-/

namespace LicenseForge

/-- What is wrong with a template. -/
inductive TemplateError where
  /-- No line separates header and text. -/
  | missingSeparator
  /-- The header gives no id. -/
  | missingId
  deriving DecidableEq, Repr

/-- The wording of the error. -/
def TemplateError.message : TemplateError → Text
  | missingSeparator => "missing '---' separator between header and license text".toList
  | missingId => "header has no 'id' field".toList

/-! ### Header and text -/

namespace Template

/-- The line that ends a header. -/
def separator : Text := "---".toList

/-- A line that holds the separator and nothing but line ends behind it. -/
def isSeparator (line : Text) : Bool :=
  line.dropEndWhile (fun c => c = '\n' || c = '\r') == separator

/-- The lines before and after the first separator. -/
def split? (lines : List Text) : Option (List Text × List Text) :=
  match lines with
  | [] => none
  | line :: rest =>
    if isSeparator line then some ([], rest) else (split? rest).map fun p => (line :: p.1, p.2)

/-- The text of a license: from the first line that is not blank to the last character that is
not. -/
def body (lines : List Text) : Text :=
  Text.trimEnd (lines.dropWhile fun line => line.all Text.isBlank).flatten

end Template

/-! ### The header -/

/-- What the lines read so far say. -/
structure Draft where
  /-- The license as far as it is known. -/
  license : License
  /-- The section that is open. -/
  current : Option Section := none

namespace Draft

/-- Reads one more line. A key that opens no section closes the one that is open. -/
def read (d : Draft) : HeaderLine → Draft
  | .idle => d
  | .item text =>
    match d.current with
    | some s => { d with license := d.license.addItem s text }
    | none => d
  | .entry key value =>
    match Section.ofKey? key with
    | some s => { d with current := some s }
    | none =>
      { license := match Scalar.ofKey? key with
          | some s => d.license.set s value
          | none => d.license
        current := none }

/-- Reads the lines of a header. -/
def readAll (d : Draft) (header : List Text) : Draft :=
  header.foldl (fun d line => d.read (.ofText line)) d

/-- The license, which needs an id and takes that for its name if it has no other. -/
def finish (d : Draft) : Except TemplateError License :=
  let l := d.license
  if l.id.isEmpty then .error .missingId
  else .ok (if l.name.isEmpty then { l with name := l.id } else l)

end Draft

/-- The license that a template describes. -/
def License.parse (source : Text) : Except TemplateError License :=
  match Template.split? source.lines with
  | none => .error .missingSeparator
  | some (header, rest) =>
    (Draft.readAll { license := { text := Template.body rest } } header).finish

end LicenseForge
