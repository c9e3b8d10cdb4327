import LicenseForge.Text.Basic
import LicenseForge.Text.Lowercase.Table

/-!
# Lower case

* `Text.lowercase` : the full lower-casing of Unicode, in which a capital sigma at the end of a
  word becomes a final sigma.
* `Text.lowercaseAscii` : the lower-casing of the letters `A` to `Z` alone.
-/

namespace LicenseForge.Text

/-- A letter with case that is not case-ignorable. -/
def isCased (c : Char) : Bool := inRanges casedRanges c

/-- A character that does not separate the letters of a word. -/
def isCaseIgnorable (c : Char) : Bool := inRanges caseIgnorableRanges c

/-- The run holds the code point. -/
def CaseRun.covers (r : CaseRun) (n : Nat) : Bool :=
  r.first ≤ n && n ≤ r.last && (n - r.first) % r.step == 0

/-- The lower-case form of a character that stands by itself. -/
def lowercaseChar (c : Char) : Text :=
  if c = 'İ' then ['i', '\u0307']
  else match caseRuns.find? (·.covers c.toNat) with
    | some r => [Char.ofNat (c.toNat + r.shift).toNat]
    | none => [c]

/-- The first character that is not case-ignorable is a letter with case. -/
def meetsLetter (t : Text) : Bool :=
  match t.dropWhile isCaseIgnorable with
  | c :: _ => isCased c
  | [] => false

/-- The lower-case form of `t`, where `before` is the text in front of it, backwards. -/
def lowercaseAfter (before : Text) : Text → Text
  | [] => []
  | c :: t =>
    (if c = 'Σ' then [if meetsLetter before && !meetsLetter t then 'ς' else 'σ']
      else lowercaseChar c) ++ lowercaseAfter (c :: before) t

/-- The full lower-case form of a text. -/
def lowercase (t : Text) : Text := lowercaseAfter [] t

/-- The lower-case form in ASCII: all other characters stay. -/
def lowercaseAscii (t : Text) : Text := t.map Char.toLower

end LicenseForge.Text
