import LicenseForge.License.Filling
import LicenseForge.Palette

/-!
# What the program is asked to do

* `Generation`, `Command`, `Invocation` : what a command line asks for.
* `UsageError` : why a command line is refused.
* `Stop` : what else a command line may lead to: help, the version, or a refusal.
-/

namespace LicenseForge

/-- A request for a filled-in license. -/
structure Generation where
  /-- The id of the license. -/
  license : Text
  /-- The copyright holder and the year as far as they are given. -/
  filling : Filling := {}
  /-- The file to write. -/
  output : Text := "LICENSE".toList
  /-- The text goes to the output of the program and not to a file. -/
  toStdout : Bool := false
  /-- A file that is there may be overwritten. -/
  force : Bool := false
  /-- Nothing is asked for. -/
  noPrompt : Bool := false
  deriving DecidableEq, Repr

/-- What is to be done. -/
inductive Command where
  /-- Fill in a license. -/
  | generate (request : Generation)
  /-- Show the list of licenses. -/
  | list
  /-- Show the details of a license. -/
  | info (license : Text)
  deriving DecidableEq, Repr

/-- What a command line asks for. -/
structure Invocation where
  /-- What is to be done. -/
  command : Command
  /-- The folder with templates. -/
  templates : Option Text := none
  /-- The colour setting. -/
  color : ColorChoice := .auto
  /-- The number of requests for more detail in the log. -/
  verbosity : Nat := 0
  deriving DecidableEq, Repr

/-- Why a command line is refused. -/
inductive UsageError where
  /-- A word that belongs nowhere. -/
  | unknownArgument
  /-- A value that is missing or not one of those allowed. -/
  | invalidValue
  /-- A value that is not well-formed. -/
  | valueValidation
  /-- Something is given twice, or together with something that excludes it. -/
  | argumentConflict
  /-- The license is missing. -/
  | missingRequiredArgument
  /-- A value where none belongs. -/
  | tooManyValues
  /-- A word that looks like a command and is none. -/
  | invalidSubcommand
  /-- There is nothing on the command line. -/
  | nothingAsked
  deriving DecidableEq, Repr

/-- The parts of the command line: the program itself and its commands. -/
inductive Scope where
  /-- The program. -/
  | program
  /-- The command `list`. -/
  | list
  /-- The command `info`. -/
  | info
  deriving DecidableEq, Repr

/-- What there is help for. -/
inductive Topic where
  /-- The program or one of its commands. -/
  | scope (s : Scope)
  /-- The command `help`. -/
  | help
  deriving DecidableEq, Repr

/-- What a command line leads to if it asks for no work. -/
inductive Stop where
  /-- Help is shown. -/
  | help (topic : Topic)
  /-- The version is shown. -/
  | version
  /-- The command line is refused. -/
  | refused (e : UsageError)
  deriving DecidableEq, Repr

/-- The exit status of the program when it does no work. -/
def Stop.status : Stop → Nat
  | help _ | version => 0
  | refused _ => 2

end LicenseForge
