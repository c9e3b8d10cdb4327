import LicenseForge.Text.Basic

/-!
# Colours

* `Ansi` : the escape sequences of a terminal.
* `Palette` : the sequences that the output uses, all empty when it is plain.
* `Terminal` and `ColorChoice` : what decides which palette is used.
-/

namespace LicenseForge

/-! ### Escape sequences -/

namespace Ansi

/-- The sequence that selects a rendition by its number. -/
def select (code : String) : Text := '\x1b' :: '[' :: code.toList ++ ['m']

/-- Back to plain text. -/
def reset : Text := select "0"

/-- Bold text. -/
def bold : Text := select "1"

/-- Dim text. -/
def dim : Text := select "2"

/-- Red text. -/
def red : Text := select "31"

/-- Green text. -/
def green : Text := select "32"

/-- Yellow text. -/
def yellow : Text := select "33"

/-- Blue text. -/
def blue : Text := select "34"

/-- Magenta text. -/
def magenta : Text := select "35"

/-- Cyan text. -/
def cyan : Text := select "36"

/-- White text. -/
def white : Text := select "37"

/-- The bright form of the colour with the given number. -/
def bright (code : String) : Text := select ("1;" ++ code)

/-- Underlined text. -/
def underline : Text := select "4"

/-- Slanted text. -/
def italic : Text := select "3"

/-- The sequences of the standard colours: three styles, seven colours, seven bright colours. The
palettes take theirs from these; white and the bright colours are there for other output. -/
def standard : List Text :=
  [reset, bold, dim, red, green, yellow, blue, magenta, cyan, white, bright "31", bright "32",
    bright "33", bright "34", bright "35", bright "36", bright "37"]

end Ansi

/-! ### Palettes -/

/-- The sequences that the output uses. -/
structure Palette where
  /-- Starts red text. -/
  red : Text
  /-- Starts green text. -/
  green : Text
  /-- Starts yellow text. -/
  yellow : Text
  /-- Starts blue text. -/
  blue : Text
  /-- Starts cyan text. -/
  cyan : Text
  /-- Starts bold text. -/
  bold : Text
  /-- Starts dim text. -/
  dim : Text
  /-- Ends what the others start. -/
  reset : Text
  deriving DecidableEq, Repr

namespace Palette

/-- Coloured output. -/
def colored : Palette where
  red := Ansi.red
  green := Ansi.green
  yellow := Ansi.yellow
  blue := Ansi.blue
  cyan := Ansi.cyan
  bold := Ansi.bold
  dim := Ansi.dim
  reset := Ansi.reset

/-- Plain output: all sequences are empty. -/
def plain : Palette := ⟨[], [], [], [], [], [], [], []⟩

/-- The palette for output with or without colour. -/
def ofBool (color : Bool) : Palette := if color then colored else plain

/-- The palette colours its output. -/
def isColored (p : Palette) : Bool := !p.reset.isEmpty

/-- An escape sequence, or nothing on plain output. -/
def sequence (p : Palette) (code : Text) : Text := if p.isColored then code else []

/-- The parts of a text in a colour, in the order in which they are written. -/
def parts (p : Palette) (color text : Text) : List Text :=
  if p.isColored then [color, text, p.reset] else [text]

/-- A text in a colour. -/
def paint (p : Palette) (color text : Text) : Text := (p.parts color text).flatten

/-- The sequences of the palette: five colours, two styles, and the end of both. -/
def sequences (p : Palette) : List Text :=
  [p.red, p.green, p.yellow, p.blue, p.cyan, p.bold, p.dim, p.reset]

end Palette

/-! ### When to colour -/

/-- What is known about where the output goes. -/
structure Terminal where
  /-- Output and error output are both a terminal. -/
  isTerminal : Bool
  /-- The user asked for output without colour. -/
  noColor : Bool
  deriving DecidableEq, Repr

namespace Terminal

/-- The request for output without colour counts when it is not empty. -/
def asksPlain (noColor : Option Text) : Bool := noColor.any (!·.isEmpty)

/-- What follows from the two streams and the request for output without colour. -/
def ofStreams (out err : Bool) (noColor : Option Text) : Terminal where
  isTerminal := out && err
  noColor := asksPlain noColor

/-- Colour is welcome. -/
def wantsColor (t : Terminal) : Bool := t.isTerminal && !t.noColor

/-- The palette for the terminal. -/
def palette (t : Terminal) : Palette := .ofBool t.wantsColor

/-- Both streams are pipes. -/
def piped (noColor : Option Text) : Terminal := ofStreams false false noColor

end Terminal

/-- The colour setting of the user. -/
inductive ColorChoice where
  /-- Colour on a terminal. -/
  | auto
  /-- Colour everywhere. -/
  | always
  /-- No colour. -/
  | never
  deriving DecidableEq, Repr, Inhabited

namespace ColorChoice

/-- The name of a setting. -/
def name : ColorChoice → Text
  | auto => "auto".toList
  | always => "always".toList
  | never => "never".toList

/-- The setting of a name. -/
def ofName? (t : Text) : Option ColorChoice := [auto, always, never].find? (·.name == t)

@[simp] theorem ofName?_name (c : ColorChoice) : ofName? c.name = some c := by cases c <;> decide

/-- The output is coloured. -/
def resolve : ColorChoice → Terminal → Bool
  | always, _ => true
  | never, _ => false
  | auto, t => t.wantsColor

end ColorChoice

end LicenseForge
