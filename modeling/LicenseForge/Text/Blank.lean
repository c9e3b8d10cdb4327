import LicenseForge.Text.Basic

/-!
# Blank characters and trimming

* `Text.isBlank` : the Unicode property `White_Space`.
* `Text.trim` : a text without the blanks at its two ends.
-/

namespace LicenseForge.Text

/-- The ranges of code points with the property `White_Space`. -/
def blankRanges : List (Nat × Nat) :=
  [(0x9, 0xD), (0x20, 0x20), (0x85, 0x85), (0xA0, 0xA0), (0x1680, 0x1680), (0x2000, 0x200A),
    (0x2028, 0x2029), (0x202F, 0x202F), (0x205F, 0x205F), (0x3000, 0x3000)]

/-- A character with the property `White_Space`. -/
def isBlank (c : Char) : Bool := inRanges blankRanges c

/-- A text without the characters at its end that satisfy `p`. -/
def dropEndWhile (p : Char → Bool) (t : Text) : Text := (t.reverse.dropWhile p).reverse

/-- A text without the blanks at its start. -/
def trimStart (t : Text) : Text := t.dropWhile isBlank

/-- A text without the blanks at its end. -/
def trimEnd (t : Text) : Text := dropEndWhile isBlank t

/-- A text without the blanks at its two ends. -/
def trim (t : Text) : Text := trimEnd (trimStart t)

end LicenseForge.Text
