import LicenseForge.Text.Basic

/-!
# Text without escape sequences

* `Escape` : how far a terminal has read an escape sequence.
* `Escape.Reading` : how far a text with escape sequences is read.
* `Text.plain` : a text as it is written where no terminal reads it: without escape sequences, and
  without the control characters that are no white space.

An escape sequence that is left open swallows what follows it, up to the next one. White space
interrupts it, except where it carries a string: it is written, and so is what follows up to the
next control character, behind which the sequence goes on.
-/

namespace LicenseForge

/-- How far a terminal has read an escape sequence. -/
inductive Escape where
  /-- No sequence is open. -/
  | none
  /-- The escape character has been read. -/
  | opened
  /-- A sequence of two or more characters waits for its last one. -/
  | marked
  /-- A control sequence waits for its last character. -/
  | control
  /-- A device control string has begun. -/
  | device
  /-- The parameters of a device control string are read. -/
  | deviceParameter
  /-- The last character in front of a device control string is awaited. -/
  | deviceMarked
  /-- A string is read, up to its terminator. -/
  | string
  /-- A command for the operating system is read, up to a bell. -/
  | command
  deriving DecidableEq, Repr

namespace Escape

/-- The character that begins a sequence. -/
def start : Char := '\x1b'

/-- A character that breaks off every sequence. -/
def cancels (c : Char) : Bool := c = '\x18' || c = '\x1a'

/-- A control character. -/
def isControl (c : Char) : Bool := c.toNat < 32 || c.toNat = 127

/-- A control character that is white space. -/
def isSpacing (c : Char) : Bool := c = '\t' || c = '\n' || c = '\x0c' || c = '\r'

/-- The code point lies between two others. -/
def within (low high : Char) (c : Char) : Bool := low ≤ c && c ≤ high

/-- The byte that ends a string is part of the character. -/
def endsString (c : Char) : Bool := (String.utf8EncodeChar c).contains 0x9C

/-- A sequence after a character that is no control character. -/
def next : Escape → Char → Escape
  | none, _ => none
  | opened, c =>
    if within ' ' '/' c then marked
    else if c = '[' then control
    else if c = ']' then command
    else if c = 'P' then device
    else if c = 'X' || c = '^' || c = '_' then string
    else if within '0' '~' c then none
    else opened
  | marked, c => if within '0' '~' c then none else marked
  | control, c => if within '@' '~' c then none else control
  | device, c =>
    if within ' ' '/' c then deviceMarked
    else if within '0' '?' c then deviceParameter
    else if within '@' '~' c then string
    else device
  | deviceParameter, c =>
    if within ' ' '/' c then deviceMarked
    else if within '<' '~' c then string
    else deviceParameter
  | deviceMarked, c => if within '0' '~' c then string else deviceMarked
  | string, c => if endsString c then none else string
  | command, _ => command

/-- White space interrupts the sequence. -/
def yields : Escape → Bool
  | none | opened | marked | control => true
  | _ => false

/-- How far a text is read. -/
structure Reading where
  /-- How far its last escape sequence is read. -/
  escape : Escape := .none
  /-- White space has interrupted the sequence. -/
  interrupted : Bool := false
  deriving DecidableEq, Repr

/-- Reads a character. Gives whether it is written. A character beyond ASCII ends a sequence that is
interrupted. -/
def Reading.step (r : Reading) (c : Char) : Reading × Bool :=
  if c = start then ({ escape := opened }, false)
  else if cancels c then ({}, false)
  else if isControl c then
    if isSpacing c && r.escape.yields then ({ r with interrupted := true }, true)
    else if r.escape = command && c = '\x07' then ({}, false)
    else ({ escape := r.escape }, false)
  else if r.interrupted then (if c.toNat < 128 then r else {}, true)
  else ({ escape := r.escape.next c }, r.escape = none)

end Escape

namespace Text

/-- What is written of a text behind one that is read so far. -/
def plainAfter (r : Escape.Reading) : Text → Text
  | [] => []
  | c :: t =>
    let step := r.step c
    if step.2 then c :: plainAfter step.1 t else plainAfter step.1 t

/-- A text without escape sequences and without control characters that are no white space. -/
def plain (t : Text) : Text := plainAfter {} t

end Text

end LicenseForge
