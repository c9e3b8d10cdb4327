import LicenseForge.Log.Pattern.Basic

/-!
# Symbols

* `Pattern.Symbol` : what a backslash makes of the characters behind it.
* `Pattern.symbol?` : reads them.
-/

namespace LicenseForge.Pattern

/-- What stands behind a backslash. -/
inductive Symbol where
  /-- A character, perhaps by its code as a byte. -/
  | character (c : Char) (byte : Bool)
  /-- The digits, the blanks or the word characters, or all others. -/
  | lettered (negated : Bool)
  /-- The start or the end of the value. -/
  | anchor
  /-- A place at the edge of a word, or at none. -/
  | wordEdge
  deriving DecidableEq, Repr

/-- The number that a hexadecimal digit denotes. -/
def hexDigit? (c : Char) : Option Nat :=
  if c.isDigit then some (c.toNat - '0'.toNat)
  else if 'a' ≤ c && c ≤ 'f' then some (c.toNat - 'a'.toNat + 10)
  else if 'A' ≤ c && c ≤ 'F' then some (c.toNat - 'A'.toNat + 10)
  else none

/-- Reads a number of hexadecimal digits behind others that denote `n`. -/
def hexadecimal? (m : Modes) : Nat → Nat → Text → Option (Nat × Text)
  | 0, n, t => some (n, t)
  | count + 1, n, t =>
    match m.skip t with
    | [] => none
    | c :: t => (hexDigit? c).bind fun digit => hexadecimal? m count (16 * n + digit) t

/-- Reads the code of a character in a number of digits. Two of them are the code of a byte. -/
def coded? (m : Modes) (count : Nat) (t : Text) : Option (Symbol × Text) :=
  (hexadecimal? m count 0 t).bind fun (n, t) =>
    if n.isValidChar then some (.character (Char.ofNat n) (count = 2), t) else none

/-- A character that a backslash makes stand for itself. -/
def isEscapable (c : Char) : Bool := c.toNat < 128 && !c.isAlphanum && c != '<' && c != '>'

/-- Reads what stands behind a backslash. Gives what it is, and the text behind it. -/
def symbol? (m : Modes) : Text → Option (Symbol × Text)
  | 'x' :: t => coded? m 2 t
  | 'u' :: t => coded? m 4 t
  | 'U' :: t => coded? m 8 t
  | 'a' :: t => some (.character '\x07' false, t)
  | 'f' :: t => some (.character '\x0c' false, t)
  | 't' :: t => some (.character '\t' false, t)
  | 'n' :: t => some (.character '\n' false, t)
  | 'r' :: t => some (.character '\r' false, t)
  | 'v' :: t => some (.character '\x0b' false, t)
  | 'd' :: t | 's' :: t | 'w' :: t => some (.lettered false, t)
  | 'D' :: t | 'S' :: t | 'W' :: t => some (.lettered true, t)
  | 'A' :: t | 'z' :: t => some (.anchor, t)
  | 'b' :: t | 'B' :: t | '<' :: t | '>' :: t => some (.wordEdge, t)
  | c :: t => if isEscapable c then some (.character c false, t) else none
  | [] => none

end LicenseForge.Pattern
