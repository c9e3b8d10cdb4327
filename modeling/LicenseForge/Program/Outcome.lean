import LicenseForge.Dialog.Basic
import LicenseForge.FileTree.Basic
import LicenseForge.Log.Filter

/-!
# What a run of the program does

* `Emission` : a piece of output, or an event that may be logged.
* `Outcome` : the exit status, what was emitted, and the files afterwards.
* `Outcome.stdout` and `Outcome.stderr` : the two streams.
* `Outcome.untilInputEnds` : how far a run gets before it needs more input.
-/

namespace LicenseForge

/-- What a run emits. -/
inductive Emission where
  /-- Bytes on the output. -/
  | out (bytes : Bytes)
  /-- Bytes on the error output. -/
  | err (bytes : Bytes)
  /-- An event, which is logged on the error output if the filter admits it. -/
  | event (e : Event)
  deriving DecidableEq, Repr

namespace Emission

/-- The bytes on the output. -/
def stdout : Emission → Bytes
  | out bytes => bytes
  | _ => []

/-- The bytes on the error output. -/
def stderr (filter : LogFilter) (color : Bool) : Emission → Bytes
  | out _ => []
  | err bytes => bytes
  | event e => if filter.admits e then (e.line color).encode else []

/-- A complaint. -/
def complaint (message : Text) : Emission :=
  err (Text.encode ("error: ".toList ++ message ++ ['\n']))

/-- The input was found to have ended. -/
def isEndOfInput : Emission → Bool
  | event (.endOfInput _) => true
  | _ => false

/-- An entry of a dialog as it is emitted, with the questions on one of the two streams. -/
def ofEntry (questionsToStderr : Bool) : Entry → Emission
  | .shown bytes => if questionsToStderr then err bytes else out bytes
  | .complaint message => complaint message
  | .reported e => event e

end Emission

/-- What a run of the program does. -/
structure Outcome where
  /-- The exit status, if the run ends. -/
  status : Option Nat
  /-- What is emitted, in order. -/
  emitted : List Emission
  /-- The files afterwards. -/
  files : FileTree
  deriving DecidableEq, Repr

namespace Outcome

/-- A run that succeeds and leaves the files as they are. -/
def success (files : FileTree) (emitted : List Emission) : Outcome :=
  { status := some 0, emitted, files }

/-- A run that fails with a complaint and leaves the files as they are. -/
def failure (files : FileTree) (message : Text) : Outcome :=
  { status := some 1, emitted := [.complaint message], files }

/-- The run with something emitted before all else. -/
def after (o : Outcome) (before : List Emission) : Outcome :=
  { o with emitted := before ++ o.emitted }

/-- The bytes on the output. -/
def stdout (o : Outcome) : Bytes := o.emitted.flatMap Emission.stdout

/-- The bytes on the error output. -/
def stderr (o : Outcome) (filter : LogFilter) (color : Bool) : Bytes :=
  o.emitted.flatMap (Emission.stderr filter color)

/-- What is emitted up to where the run waits for a line behind the end of its input, if it does.
An end of the input is shown by a new line and reported, and neither is part of it. -/
def untilInputEnds (o : Outcome) : Option (List Emission) :=
  if o.emitted.any Emission.isEndOfInput then
    some (o.emitted.takeWhile fun e => !e.isEndOfInput).dropLast
  else none

end Outcome

end LicenseForge
