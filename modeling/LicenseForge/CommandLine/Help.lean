import LicenseForge.CommandLine.Basic
import LicenseForge.Palette

/-!
# Help

* `Topic.text` : the help on the program or one of its commands, with escape sequences for a
  terminal.
* `versionLine` : the name and the version of the program.
-/

namespace LicenseForge

namespace Help

/-! ### Rows -/

/-- The title of a section. -/
def title (t : String) : Text := Ansi.bold ++ Ansi.underline ++ t.toList ++ Ansi.reset

/-- A word that is typed as it stands. -/
def word (t : String) : Text := Ansi.bold ++ t.toList ++ Ansi.reset

/-- A text as a line. -/
def line (t : Text) : Text := t ++ ['\n']

/-- Plain lines. -/
def lines (ls : List String) : Text := ls.flatMap fun l => line l.toList

/-- A blank line, and the title of a section behind it. -/
def sectionTitle (t : String) : Text := '\n' :: line (title t)

/-- The width of what stands in front of the explanation of a flag. -/
def margin : Nat := 25

/-- A text in the column of the explanations. -/
def indented (t : Text) : Text :=
  t.flatMap fun c => if c = '\n' then '\n' :: List.replicate margin ' ' else [c]

/-- The row of a flag: its letter or its name or both, its value, and its explanation. -/
def flag (letter name value : String) (explanation : Text) : Text :=
  let lead := if letter.isEmpty then "      " else "  "
  let gap := if letter.isEmpty || name.isEmpty then "" else ", "
  let width := (lead ++ letter ++ gap ++ name ++ value).length
  line <| lead.toList ++ (if letter.isEmpty then [] else word letter) ++ gap.toList
    ++ (if name.isEmpty then [] else word name) ++ value.toList
    ++ List.replicate (margin - width) ' ' ++ explanation

/-- The explanation of the folder with templates, which shows the environment. -/
def templates (environment : Option Text) : Text :=
  ("Directory of .template files, added to the builtin ones "
    ++ "[env: LICGEN_TEMPLATES=").toList ++ indented (environment.getD []) ++ [']']

/-- The flags that every part of the command line has. -/
def commonFlags (environment : Option Text) : Text :=
  flag "" "--templates" " <DIR>" (templates environment)
  ++ flag "" "--color" " <WHEN>"
    "Colorize output [default: auto] [possible values: auto, always, never]".toList
  ++ flag "-v" "" "..." "Verbosity level (-v for info logs, -vv for debug logs)".toList
  ++ flag "-h" "--help" "" "Print help".toList

/-! ### Pages -/

/-- The help on the program. -/
def program (environment : Option Text) : Text :=
  lines ["Generate LICENSE files from templates", ""]
  ++ line (title "Usage:"
    ++ " licgen <LICENSE> [--name <NAME>] [--year <YEAR>] [-o <FILE> | --stdout]".toList)
  ++ lines ["  licgen list", "  licgen info <LICENSE>"]
  ++ sectionTitle "Commands:"
  ++ line ("  ".toList ++ word "list" ++ "  List available licenses".toList)
  ++ line ("  ".toList ++ word "info" ++ "  Show details about a license".toList)
  ++ line ("  ".toList ++ word "help"
    ++ "  Print this message or the help of the given subcommand(s)".toList)
  ++ sectionTitle "Arguments:"
  ++ lines ["  <LICENSE>  License id (see `licgen list`)"]
  ++ sectionTitle "Options:"
  ++ flag "-n" "--name" " <NAME>"
    "Copyright holder, replaces \x7b\x7bname\x7d\x7d (prompted if omitted)".toList
  ++ flag "-y" "--year" " <YEAR>"
    "Copyright year or range, e.g. 2024 or 2019-2024 (prompted if omitted)".toList
  ++ flag "-o" "--output" " <FILE>" "File to write [default: LICENSE]".toList
  ++ flag "" "--stdout" "" "Print the license instead of writing a file".toList
  ++ flag "-f" "--force" "" "Overwrite the output file if it exists".toList
  ++ flag "" "--no-prompt" ""
    "Don't ask for missing values; use [fullname] and the current year".toList
  ++ commonFlags environment
  ++ flag "-V" "--version" "" "Print version".toList
  ++ lines [
    "",
    "EXAMPLES:",
    "  licgen mit                              # prompt for name and year",
    "  licgen mit --name \"Jane Doe\"            # year defaults when prompted",
    "  licgen apache-2.0 -n \"Acme\" -y 2019-2024 --force",
    "  licgen isc --no-prompt --stdout > LICENSE.txt",
    "  licgen --templates ./licenses acme      # use custom templates"]

/-- The help on the list of licenses. -/
def list (environment : Option Text) : Text :=
  lines ["List available licenses", ""]
  ++ line (title "Usage:" ++ [' '] ++ word "licgen list" ++ " [OPTIONS]".toList)
  ++ sectionTitle "Options:"
  ++ commonFlags environment

/-- The help on the details of a license. -/
def info (environment : Option Text) : Text :=
  lines ["Show details about a license", ""]
  ++ line (title "Usage:" ++ [' '] ++ word "licgen info" ++ " [OPTIONS] <LICENSE>".toList)
  ++ sectionTitle "Arguments:"
  ++ lines ["  <LICENSE>  License id (see `licgen list`)"]
  ++ sectionTitle "Options:"
  ++ commonFlags environment
  ++ lines [
    "",
    "EXAMPLES:",
    "  licgen info mit",
    "  licgen info apache-2.0 --color never"]

/-- The help on help. -/
def help : Text :=
  lines ["Print this message or the help of the given subcommand(s)", ""]
  ++ line (title "Usage:" ++ [' '] ++ word "licgen help" ++ " [COMMAND]...".toList)
  ++ sectionTitle "Arguments:"
  ++ lines ["  [COMMAND]...  Print help for the subcommand(s)"]

end Help

/-- The help on a topic, as it is shown on a terminal. -/
def Topic.text (environment : Option Text) : Topic → Text
  | .scope .program => Help.program environment
  | .scope .list => Help.list environment
  | .scope .info => Help.info environment
  | .help => Help.help

/-- The name and the version of the program. -/
def versionLine : Text := "licgen 0.2.0\n".toList

end LicenseForge
