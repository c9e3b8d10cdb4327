import LicenseForge.CommandLine.Help
import LicenseForge.CommandLine.Parser
import LicenseForge.Program.Perform
import LicenseForge.Text.Plain

/-!
# A run of the program

* `World` : all that a run depends on.
* `World.run` : the exit status, the two streams and the files of a run.
-/

namespace LicenseForge

/-- The environment variables that a run looks at. Their values are Unicode texts. -/
structure Environment where
  /-- Names a folder with templates. -/
  templates : Option Text := none
  /-- Says what is logged. -/
  logging : Option Text := none
  /-- Asks for output without colour. -/
  noColor : Option Text := none
  deriving DecidableEq, Repr, Inhabited

namespace Environment

/-- The events that are logged. -/
def filter (e : Environment) (verbosity : Nat) : LogFilter := .ofSettings verbosity e.logging

/-- The log is coloured, whether it goes to a terminal or not. -/
def colorsLog (e : Environment) : Bool := !Terminal.asksPlain e.noColor

end Environment

/-- All that a run depends on. Words, and names of files, are Unicode texts: a command line with
bytes that are not UTF-8 is no world. -/
structure World where
  /-- The words of the command line. -/
  words : List Text
  /-- The environment variables. -/
  environment : Environment := {}
  /-- The bytes on the input. -/
  input : Bytes := []
  /-- The files. -/
  files : FileTree := {}
  /-- The current year. -/
  now : Int
  deriving Inhabited

/-- What is left of a run. -/
structure Result where
  /-- The exit status, if the run ends. -/
  status : Option Nat
  /-- The bytes on the output. -/
  stdout : Bytes
  /-- The bytes on the error output. -/
  stderr : Bytes
  /-- The files afterwards. -/
  files : FileTree
  deriving DecidableEq, Repr

/-- What is left of a run that does some work. -/
def Outcome.result (o : Outcome) (filter : LogFilter) (color : Bool) : Result :=
  { status := o.status
    stdout := o.stdout
    stderr := o.stderr filter color
    files := o.files }

namespace UsageError

/-- A refusal with its reason. -/
def complaint (reason : String) : Text :=
  "error: ".toList ++ reason.toList ++ "\n\nFor more information, try '--help'.\n".toList

/-- What is shown with a refusal: the reason, or help if nothing is asked. The words of a reason are
free, and do not name the argument: a refusal is told by its kind and its exit status. -/
def text : UsageError → Text
  | unknownArgument => complaint "unexpected argument"
  | invalidValue => complaint "missing or invalid value"
  | valueValidation => complaint "malformed value"
  | argumentConflict => complaint "conflicting arguments"
  | missingRequiredArgument => complaint "missing license"
  | tooManyValues => complaint "unexpected value"
  | invalidSubcommand => complaint "unrecognized subcommand"
  | nothingAsked => (Topic.scope .program).text none

end UsageError

namespace Stop

/-- What a run that does no work shows on the output. The help shows the value of the environment
variable for templates. -/
def shown (templates : Option Text) : Stop → Text
  | help topic => topic.text templates
  | version => versionLine
  | refused _ => []

/-- What a run that does no work writes to the output where no terminal reads it. -/
def stdout (templates : Option Text) (s : Stop) : Bytes := (s.shown templates).plain.encode

/-- What a run that does no work writes to the error output where no terminal reads it. -/
def stderr : Stop → Bytes
  | refused e => e.text.plain.encode
  | _ => []

/-- A run that does no work. -/
def result (w : World) (s : Stop) : Result :=
  { status := some s.status
    stdout := s.stdout w.environment.templates
    stderr := s.stderr
    files := w.files }

end Stop

namespace World

/-- What a command finds in the world, with both streams piped. -/
def surroundings (w : World) : Surroundings where
  input := w.input
  files := w.files
  terminal := .piped w.environment.noColor
  now := w.now

/-- The run of a command. -/
def perform (w : World) (i : Invocation) : Result :=
  (i.perform w.surroundings).result (w.environment.filter i.verbosity) w.environment.colorsLog

/-- A run of the program. -/
def run (w : World) : Result :=
  match Invocation.parse w.words w.environment.templates with
  | .ok i => w.perform i
  | .error stop => stop.result w

end World

end LicenseForge
