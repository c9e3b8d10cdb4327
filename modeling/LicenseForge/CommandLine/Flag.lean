import LicenseForge.CommandLine.Basic

/-!
# Flags

* `Slot` : what takes a value.
* `Switch` : what takes none.
* `Flag` : either of them, with the names by which it is given.
* `Choices` : what the flags read so far say.
-/

namespace LicenseForge

/-- What takes a value. -/
inductive Slot where
  /-- The license, which has no name: it stands by itself. -/
  | license
  /-- The copyright holder. -/
  | holder
  /-- The year. -/
  | year
  /-- The file to write. -/
  | output
  /-- The folder with templates. -/
  | templates
  /-- The colour setting. -/
  | color
  deriving DecidableEq, Repr

/-- What takes no value. -/
inductive Switch where
  /-- Write to the output of the program. -/
  | toStdout
  /-- Overwrite. -/
  | force
  /-- Ask nothing. -/
  | noPrompt
  /-- More detail in the log. -/
  | verbose
  /-- Show help. -/
  | help
  /-- Show the version. -/
  | version
  deriving DecidableEq, Repr

/-- What is given by name. -/
inductive Flag where
  /-- Something with a value. -/
  | slot (s : Slot)
  /-- Something without one. -/
  | switch (s : Switch)
  deriving DecidableEq, Repr

namespace Flag

/-- The name of a flag behind two dashes. -/
def long? : Flag → Option Text
  | slot .license => none
  | slot .holder => some "name".toList
  | slot .year => some "year".toList
  | slot .output => some "output".toList
  | slot .templates => some "templates".toList
  | slot .color => some "color".toList
  | switch .toStdout => some "stdout".toList
  | switch .force => some "force".toList
  | switch .noPrompt => some "no-prompt".toList
  | switch .verbose => none
  | switch .help => some "help".toList
  | switch .version => some "version".toList

/-- The letter of a flag behind one dash. -/
def short? : Flag → Option Char
  | slot .holder => some 'n'
  | slot .year => some 'y'
  | slot .output => some 'o'
  | switch .force => some 'f'
  | switch .verbose => some 'v'
  | switch .help => some 'h'
  | switch .version => some 'V'
  | _ => none

/-- The flags that every part of the command line has. -/
def common : List Flag := [slot .templates, slot .color, switch .verbose, switch .help]

/-- The flags that only the program itself has. -/
def special : List Flag :=
  [slot .holder, slot .year, slot .output, switch .toStdout, switch .force, switch .noPrompt,
    switch .version]

end Flag

namespace Scope

/-- The flags of a part of the command line. -/
def flags : Scope → List Flag
  | program => Flag.special ++ Flag.common
  | list | info => Flag.common

/-- The flag with a name. -/
def long? (s : Scope) (name : Text) : Option Flag := s.flags.find? (·.long? == some name)

/-- The flag with a letter. -/
def short? (s : Scope) (letter : Char) : Option Flag := s.flags.find? (·.short? == some letter)

/-- A license can be given. -/
def takesLicense : Scope → Bool
  | program | info => true
  | list => false

end Scope

/-! ### Choices -/

/-- What the flags read so far say. -/
structure Choices where
  /-- The license. -/
  license : Option Text := none
  /-- The copyright holder. -/
  holder : Option Text := none
  /-- The year. -/
  year : Option Text := none
  /-- The file to write. -/
  output : Option Text := none
  /-- The folder with templates. -/
  templates : Option Text := none
  /-- The colour setting. -/
  color : Option ColorChoice := none
  /-- Write to the output of the program. -/
  toStdout : Bool := false
  /-- Overwrite. -/
  force : Bool := false
  /-- Ask nothing. -/
  noPrompt : Bool := false
  /-- The number of requests for more detail. -/
  verbosity : Nat := 0
  deriving DecidableEq, Repr

namespace Choices

/-- The slot has a value. -/
def isSet (c : Choices) : Slot → Bool
  | .license => c.license.isSome
  | .holder => c.holder.isSome
  | .year => c.year.isSome
  | .output => c.output.isSome
  | .templates => c.templates.isSome
  | .color => c.color.isSome

/-- A path must not be empty. -/
def path (value : Text) : Except UsageError Text :=
  if value.isEmpty then .error .invalidValue else .ok value

/-- Fills a slot. -/
def store (c : Choices) (s : Slot) (value : Text) : Except UsageError Choices :=
  match s with
  | .license => .ok { c with license := some value }
  | .holder => .ok { c with holder := some value }
  | .year =>
    match Year.validate value with
    | .ok year => .ok { c with year := some year }
    | .error _ => .error .valueValidation
  | .output => (path value).map fun p => { c with output := some p }
  | .templates => (path value).map fun p => { c with templates := some p }
  | .color =>
    match ColorChoice.ofName? value with
    | some color => .ok { c with color := some color }
    | none => .error .invalidValue

/-- Fills a slot that has no value yet. -/
def assign (c : Choices) (s : Slot) (value : Text) : Except UsageError Choices :=
  if c.isSet s then .error .argumentConflict else c.store s value

/-- The greatest number of requests for more detail that is counted. -/
def verbosityLimit : Nat := 255

/-- Throws a switch of a part of the command line. -/
def throwSwitch (c : Choices) (scope : Scope) : Switch → Except Stop Choices
  | .toStdout =>
    if c.toStdout then .error (.refused .argumentConflict) else .ok { c with toStdout := true }
  | .force => if c.force then .error (.refused .argumentConflict) else .ok { c with force := true }
  | .noPrompt =>
    if c.noPrompt then .error (.refused .argumentConflict) else .ok { c with noPrompt := true }
  | .verbose => .ok { c with verbosity := min (c.verbosity + 1) verbosityLimit }
  | .help => .error (.help (.scope scope))
  | .version => .error .version

end Choices

end LicenseForge
