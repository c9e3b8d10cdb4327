import LicenseForge.Palette

/-!
# Log events

* `Level` : how much an event matters.
* `Event` : what the program reports about its work.
* `Event.line` : an event as a line of the log.
-/

namespace LicenseForge

/-- How much an event matters. -/
inductive Level where
  /-- The work cannot go on. -/
  | error
  /-- The result may surprise. -/
  | warn
  /-- A step is done. -/
  | info
  /-- What a step did. -/
  | debug
  /-- All the rest. -/
  | trace
  deriving DecidableEq, Repr

namespace Level

/-- The levels, from the one that matters most. -/
def all : List Level := [error, warn, info, debug, trace]

/-- The number of levels that matter at least as much. -/
def rank : Level → Nat
  | error => 1
  | warn => 2
  | info => 3
  | debug => 4
  | trace => 5

/-- The name of a level. -/
def name : Level → Text
  | error => "ERROR".toList
  | warn => "WARN".toList
  | info => "INFO".toList
  | debug => "DEBUG".toList
  | trace => "TRACE".toList

/-- The colour of a level. -/
def color : Level → Text
  | error => Ansi.red
  | warn => Ansi.yellow
  | info => Ansi.green
  | debug => Ansi.blue
  | trace => Ansi.magenta

end Level

/-- What the program reports about its work. -/
inductive Event where
  /-- The licenses that come with the program are loaded. -/
  | builtinsLoaded (count : Nat)
  /-- A template is loaded from a file. -/
  | templateLoaded (id path : Text)
  /-- A template has the id of one that was loaded before it. -/
  | duplicateId (id path : Text)
  /-- The templates of a folder are loaded. -/
  | folderLoaded (folder : Text) (count : Nat)
  /-- A license from a folder takes the place of another one. -/
  | overridden (id : Text)
  /-- The input ended where an answer was expected. -/
  | endOfInput (question : Text)
  /-- The text names no copyright holder. -/
  | unnamedHolder (substitute : Text)
  /-- The text is filled in. -/
  | filled (command : Text)
  /-- The text is written to a file. -/
  | written (path : Text) (bytes : Nat)
  deriving DecidableEq, Repr

namespace Event

/-- How much the event matters. -/
def level : Event → Level
  | builtinsLoaded _ | templateLoaded .. | overridden _ | endOfInput _ | written .. => .debug
  | folderLoaded .. | filled _ => .info
  | duplicateId .. | unnamedHolder _ => .warn

/-- The part of the program that reports the event. -/
def source : Event → Text
  | builtinsLoaded _ | templateLoaded .. | duplicateId .. | overridden _ =>
    "licgen_core::catalog".toList
  | endOfInput _ => "licgen_core::prompt".toList
  | folderLoaded .. => "licgen::commands::catalog_loader".toList
  | unnamedHolder _ | filled _ | written .. => "licgen::commands::generate".toList

/-- What happened. -/
def message : Event → Text
  | builtinsLoaded _ => "loaded builtin templates".toList
  | templateLoaded .. => "loaded template".toList
  | duplicateId .. => "duplicate license id, later template wins".toList
  | folderLoaded .. => "loaded custom templates".toList
  | overridden _ => "template overrides builtin".toList
  | endOfInput _ => "end of input".toList
  | unnamedHolder substitute => "no name given, using ".toList ++ substitute
  | filled _ => "rendered license".toList
  | written .. => "wrote license".toList

/-- The details, each with its name. -/
def details : Event → List (String × Text)
  | builtinsLoaded count => [("count", Nat.toDigits 10 count)]
  | templateLoaded id path | duplicateId id path => [("id", id), ("path", path)]
  | folderLoaded folder count => [("dir", folder), ("count", Nat.toDigits 10 count)]
  | overridden id => [("id", id)]
  | endOfInput question => [("prompt", '"' :: question ++ ['"'])]
  | unnamedHolder _ => []
  | filled command => [("command", command)]
  | written path bytes => [("path", path), ("bytes", Nat.toDigits 10 bytes)]

/-- The name of what happened, which is a detail of every event. -/
def messageName : Text := "message".toList

/-- The event has a detail with the name. -/
def hasDetail (e : Event) (name : Text) : Bool :=
  name = messageName || e.details.any fun d => d.1.toList = name

/-! ### Lines of the log -/

/-- A text in a style. -/
def styled (color : Bool) (style text : Text) : Text :=
  if color then style ++ text ++ Ansi.reset else text

/-- A detail as it stands in the log. -/
def detail (color : Bool) (d : String × Text) : Text :=
  ' ' :: styled color Ansi.italic d.1.toList ++ styled color Ansi.dim ['='] ++ d.2

/-- The event as a line of the log. -/
def line (color : Bool) (e : Event) : Text :=
  styled color e.level.color (e.level.name.leftpad 5 ' ') ++ ' ' :: e.message
    ++ e.details.flatMap (detail color) ++ ['\n']

end Event

end LicenseForge
