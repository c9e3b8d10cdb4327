import LicenseForge.CommandLine.Flag
import LicenseForge.Text.Similarity

/-!
# Reading a command line

* `Scan` : what the words read so far say, and what is still open.
* `Scan.run` : reads the words of one part of the command line, up to a command.
* `Invocation.parse` : what a whole command line asks for.

A value is stored when the next one is begun, so of two faults the first one that is met this way
is reported.
-/

namespace LicenseForge

/-- The words that are commands of the program. -/
inductive CommandWord where
  /-- The command `list`. -/
  | list
  /-- The command `info`. -/
  | info
  /-- The command `help`. -/
  | help
  deriving DecidableEq, Repr

namespace CommandWord

/-- All commands. -/
def all : List CommandWord := [list, info, help]

/-- The word for a command. -/
def word : CommandWord → Text
  | list => "list".toList
  | info => "info".toList
  | help => "help".toList

/-- The command of a word. -/
def ofWord? (t : Text) : Option CommandWord := all.find? (·.word == t)

/-- What there is to read about a command. -/
def topic : CommandWord → Topic
  | list => .scope .list
  | info => .scope .info
  | help => .help

end CommandWord

/-! ### Words -/

/-- What a word looks like. -/
inductive Word where
  /-- The mark behind which no word is a flag. -/
  | escape
  /-- A name behind two dashes, and the value behind an equals sign. -/
  | long (name : Text) (value : Option Text)
  /-- Letters behind one dash. -/
  | short (letters : Text)
  /-- All other words. -/
  | plain
  deriving DecidableEq, Repr

/-- Tells what a word looks like. A single dash is a plain word. -/
def Word.ofText : Text → Word
  | ['-', '-'] => .escape
  | '-' :: '-' :: t =>
    match Text.cut '=' t with
    | some (name, value) => .long name (some value)
    | none => .long t none
  | '-' :: c :: t => .short (c :: t)
  | _ => .plain

/-- What the words read so far say. -/
structure Scan where
  /-- What is settled. -/
  choices : Choices := {}
  /-- The slot that comes next, with its value if that has been read. -/
  pending : Option (Slot × Option Text) := none
  deriving DecidableEq, Repr

namespace Scan

/-- A slot waits for its value. -/
def awaits (s : Scan) : Bool :=
  match s.pending with
  | some (_, none) => true
  | _ => false

/-- Puts a value into its slot. -/
def assign (s : Scan) (slot : Slot) (value : Text) : Except Stop Scan :=
  match s.choices.assign slot value with
  | .ok choices => .ok { choices }
  | .error e => .error (.refused e)

/-- Puts the value that has been read into its slot. -/
def settle (s : Scan) : Except Stop Scan :=
  match s.pending with
  | none => .ok s
  | some (_, none) => .error (.refused .invalidValue)
  | some (slot, some value) => s.assign slot value

/-- Throws a switch. -/
def throwSwitch (s : Scan) (scope : Scope) (switch : Switch) : Except Stop Scan := do
  let s ← s.settle
  let choices ← s.choices.throwSwitch scope switch
  return { choices }

/-- Fills a slot with a value, or waits for one. -/
def begin (s : Scan) (slot : Slot) (value : Option Text) : Except Stop Scan := do
  let s ← s.settle
  match value with
  | some value => s.assign slot value
  | none => return { s with pending := some (slot, none) }

/-- Reads the name of a flag. -/
def long (s : Scan) (scope : Scope) (name : Text) (value : Option Text) : Except Stop Scan :=
  match scope.long? name with
  | none => .error (.refused .unknownArgument)
  | some (.slot slot) => s.begin slot value
  | some (.switch switch) =>
    if value.isSome then .error (.refused .tooManyValues) else s.throwSwitch scope switch

/-- Reads the letters of flags. The letters behind a slot are its value. -/
def short (s : Scan) (scope : Scope) : Text → Except Stop Scan
  | [] => .ok s
  | letter :: rest =>
    match scope.short? letter with
    | none => .error (.refused .unknownArgument)
    | some (.switch switch) => do (← s.throwSwitch scope switch).short scope rest
    | some (.slot slot) =>
      match rest with
      | [] => s.begin slot none
      | '=' :: value => s.begin slot (some value)
      | value => s.begin slot (some value)

/-- The license has been given. -/
def hasLicense (s : Scan) : Bool :=
  s.choices.license.isSome || s.pending.any (·.1 == .license)

/-- Why a word belongs nowhere. The program itself may take it for a misspelt command. -/
def stray (scope : Scope) (escaped : Bool) (word : Text) : UsageError :=
  if scope ≠ .program then .unknownArgument
  else if escaped && (CommandWord.ofWord? word).isSome then .unknownArgument
  else if CommandWord.all.any (fun c => Text.resembles word c.word) then .invalidSubcommand
  else .unknownArgument

/-- Reads a word that stands by itself: the license. -/
def positional (s : Scan) (scope : Scope) (escaped : Bool) (word : Text) : Except Stop Scan :=
  if scope.takesLicense && !s.hasLicense then do
    let s ← s.settle
    return { s with pending := some (.license, some word) }
  else .error (.refused (stray scope escaped word))

/-- Reads a plain word: the value of the slot that waits for one, or the license. -/
def plain (s : Scan) (scope : Scope) (word : Text) : Except Stop Scan :=
  match s.pending with
  | some (slot, none) => .ok { s with pending := some (slot, some word) }
  | _ => s.positional scope false word

/-- The topic that words behind the command `help` name. -/
def topic : List Text → Except Stop Topic
  | [] => .ok (.scope .program)
  | [word] =>
    match CommandWord.ofWord? word with
    | some c => .ok c.topic
    | none => .error (.refused .invalidSubcommand)
  | _ => .error (.refused .invalidSubcommand)

/-- The command that a word is, where one may stand. -/
def commandAt (s : Scan) (scope : Scope) (word : Text) : Option CommandWord :=
  if scope = .program && !s.awaits then CommandWord.ofWord? word else none

/-- Reads the words of a part of the command line, up to a command. Then the words behind it are
left. -/
def run (scope : Scope) (escaped : Bool) (s : Scan) :
    List Text → Except Stop (Scan × Option (Scope × List Text))
  | [] => .ok (s, none)
  | word :: rest =>
    if escaped then do (← s.positional scope true word).run scope true rest
    else match s.commandAt scope word with
      | some .list => .ok (s, some (.list, rest))
      | some .info => .ok (s, some (.info, rest))
      | some .help => do throw (.help (← topic rest))
      | none =>
        match Word.ofText word with
        | .escape => s.run scope true rest
        | .long name value => do (← s.long scope name value).run scope false rest
        | .short letters => do (← s.short scope letters).run scope false rest
        | .plain => do (← s.plain scope word).run scope false rest

end Scan

/-! ### The whole command line -/

namespace Choices

/-- The folder with templates: from the command line, else from the environment. -/
def withEnvironment (c : Choices) (templates : Option Text) : Except Stop (Option Text) :=
  match c.templates, templates with
  | some folder, _ => .ok (some folder)
  | none, none => .ok none
  | none, some folder =>
    match path folder with
    | .ok folder => .ok (some folder)
    | .error e => .error (.refused e)

/-- The choices exclude each other. -/
def conflict (c : Choices) : Bool := c.toStdout && c.output.isSome

/-- The request for a filled-in license. -/
def generation (c : Choices) (license : Text) : Generation where
  license := license
  filling := { holder := c.holder, year := c.year }
  output := c.output.getD "LICENSE".toList
  toStdout := c.toStdout
  force := c.force
  noPrompt := c.noPrompt

/-- What the program itself is asked for. -/
def toGenerate (c : Choices) (environment : Option Text) : Except Stop Invocation := do
  let templates ← c.withEnvironment environment
  if c = {} && environment.isNone then throw (.refused .nothingAsked)
  if c.conflict then throw (.refused .argumentConflict)
  match c.license with
  | none => throw (.refused .missingRequiredArgument)
  | some license =>
    return {
      command := .generate (c.generation license)
      templates
      color := c.color.getD .auto
      verbosity := c.verbosity }

/-- What a command is asked for, where `outer` was said before the command and `c` after it. What
is said after it counts more. -/
def toCommand (c outer : Choices) (environment : Option Text) (command : Command) :
    Except Stop Invocation := do
  let templates ← outer.withEnvironment environment
  if outer.conflict then throw (.refused .argumentConflict)
  return {
    command
    templates := c.templates <|> templates
    color := (c.color <|> outer.color).getD .auto
    verbosity := if c.verbosity = 0 then outer.verbosity else c.verbosity }

end Choices

/-- The words behind a command: what is chosen, and the command. -/
def Command.read (scope : Scope) (words : List Text) (environment : Option Text) :
    Except Stop (Choices × Command) := do
  let (s, _) ← Scan.run scope false {} words
  let c := (← s.settle).choices
  let _ ← c.withEnvironment environment
  match scope, c.license with
  | .info, some license => return (c, .info license)
  | .info, none => throw (.refused .missingRequiredArgument)
  | _, _ => return (c, .list)

/-- What a command line asks for. The environment may name a folder with templates. -/
def Invocation.parse (words : List Text) (environment : Option Text) : Except Stop Invocation := do
  let (s, behind) ← Scan.run .program false {} words
  match behind with
  | none => (← s.settle).choices.toGenerate environment
  | some (scope, words) =>
    let (c, command) ← Command.read scope words environment
    c.toCommand (← s.settle).choices environment command

end LicenseForge
