import LicenseForge.Text.Blank

/-!
# How a pattern is read

* `Pattern.Modes` : what the flags of a pattern have switched on and off.
* `Pattern.Modes.skip` : passes over what does not count in a verbose pattern.
* `Pattern.height` : how deep the parts of a pattern are nested.
-/

namespace LicenseForge.Pattern

/-! ### Blanks and comments -/

/-- A text behind its blanks and comments. A comment runs from a hash to the end of the line; the
text begins within one if `comment` holds. -/
def behindBlanks (comment : Bool) : Text → Text
  | [] => []
  | c :: t =>
    if comment then behindBlanks (c ≠ '\n') t
    else if Text.isBlank c then behindBlanks false t
    else if c = '#' then behindBlanks true t
    else c :: t

/-- The first character behind blanks, and behind a hash with blanks. -/
def glimpse (t : Text) : Option Char :=
  match t.dropWhile Text.isBlank with
  | '#' :: t => (t.dropWhile Text.isBlank).head?
  | t => t.head?

/-! ### Modes -/

/-- What the flags of a pattern have switched on and off. Other flags than these three have no say
in whether a pattern can be read. -/
structure Modes where
  /-- Upper case and lower case are the same. -/
  foldsCase : Bool := false
  /-- The pattern is about characters, else about bytes. -/
  unicode : Bool := true
  /-- Blanks and comments do not count. -/
  verbose : Bool := false
  deriving DecidableEq, Repr

namespace Modes

/-- The state of a flag after others: those in front of a hyphen are switched on, those behind it
off. -/
def switched (flags : Text) (flag : Char) (before : Bool) : Bool :=
  if (flags.takeWhile (· ≠ '-')).contains flag then true
  else if flags.contains flag then false
  else before

/-- The modes after flags. -/
def change (m : Modes) (flags : Text) : Modes where
  foldsCase := switched flags 'i' m.foldsCase
  unicode := switched flags 'u' m.unicode
  verbose := switched flags 'x' m.verbose

/-- A text behind what does not count. -/
def skip (m : Modes) (t : Text) : Text := if m.verbose then behindBlanks false t else t

/-- The first character of a text that counts. -/
def peek (m : Modes) (t : Text) : Option Char := if m.verbose then glimpse t else t.head?

/-! ### What the modes allow

There are no tables of Unicode: case is folded in bytes only, and there alone it is known what a
digit is. A pattern about bytes must not break up a character.
-/

/-- The character can stand for itself; by its code as a byte, if `byte` holds. -/
def allowsCharacter (m : Modes) (c : Char) (byte : Bool) : Bool :=
  if m.unicode then !m.foldsCase else !byte || c.toNat < 128

/-- The character can stand in a set. -/
def allowsMember (m : Modes) (c : Char) : Bool :=
  if m.unicode then !m.foldsCase else c.toNat < 128

/-- A class of characters, or all others, can stand in a set by its name. -/
def allowsNamed (m : Modes) (negated : Bool) : Bool :=
  if m.unicode then !m.foldsCase else !negated

/-- A class of characters, or all others, can stand as a letter behind a backslash. -/
def allowsLettered (m : Modes) (negated : Bool) : Bool := !m.unicode && !negated

/-- A set, or all that is not in it, can stand in a pattern. -/
def allowsSet (m : Modes) (negated : Bool) : Bool := m.unicode || !negated

end Modes

/-! ### Heights -/

/-- The height of what is made of parts with the heights. A single part stands for itself. -/
def height : List Nat → Nat
  | [] => 0
  | [h] => h
  | hs => hs.foldl max 0 + 1

end LicenseForge.Pattern
