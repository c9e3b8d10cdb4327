import LicenseForge.Text.Alphanumeric.Table
import LicenseForge.Text.Basic

/-!
# Letters and numbers

* `Text.isAlphabetic` : the letters of all scripts.
* `Text.isAlphanumeric` : the letters and numbers of all scripts.
-/

namespace LicenseForge.Text

/-- A letter of any script. -/
def isAlphabetic (c : Char) : Bool := inRanges alphabeticRanges c

/-- A letter or a number of any script. -/
def isAlphanumeric (c : Char) : Bool := isAlphabetic c || inRanges numericRanges c

end LicenseForge.Text
