import LicenseForge.Log.Event
import LicenseForge.Stream.Basic
import LicenseForge.Text.Blank
import LicenseForge.Year

/-!
# Questions and answers

* `Entry` : what happens while questions are asked, in order.
* `Dialog` : the input with the answers, the output for the questions, and what happened so far.
* `Dialog.ask` : asks one question, which reads one line.
* `Dialog.askYear` : asks for a year until the answer is one.
-/

namespace LicenseForge

/-- What happens while questions are asked. -/
inductive Entry where
  /-- Bytes go to where the questions are asked. -/
  | shown (bytes : Bytes)
  /-- An answer is refused. -/
  | complaint (message : Text)
  /-- Something is reported. -/
  | reported (event : Event)
  deriving DecidableEq, Repr

/-- A dialog with the user. -/
structure Dialog where
  /-- Where the answers come from. -/
  input : Input
  /-- The number of bytes that the output has room for; `none` is no bound. -/
  room : Option Nat := none
  /-- The colours of the questions. -/
  palette : Palette
  /-- What happened so far. -/
  record : List Entry := []
  deriving DecidableEq, Repr

namespace Dialog

/-! ### Steps of a dialog -/

/-- Something is reported. -/
def report (d : Dialog) (e : Event) : Dialog := { d with record := d.record ++ [.reported e] }

/-- An answer is refused. -/
def refuse (d : Dialog) (message : Text) : Dialog :=
  { d with record := d.record ++ [.complaint message] }

/-- Shows a text, or the bytes of it that there is room for. -/
def say (d : Dialog) (t : Text) : Except StreamError Unit × Dialog :=
  let shown := ({ room := d.room } : Output).put t.encode
  (shown.1, { d with room := shown.2.room, record := d.record ++ [.shown shown.2.written] })

/-- The bytes that were shown. -/
def shown (d : Dialog) : Bytes :=
  d.record.flatMap fun e =>
    match e with
    | .shown bytes => bytes
    | _ => []

/-! ### One question -/

/-- A question, with the answer that an empty line stands for. -/
def prompt (p : Palette) (question : Text) : Option Text → Text
  | some d =>
    p.bold ++ question ++ p.reset ++ ' ' :: p.dim ++ '[' :: d ++ ']' :: p.reset ++ ": ".toList
  | none => p.bold ++ question ++ p.reset ++ ": ".toList

/-- The answer that a line gives. -/
def answer (line : Text) (default : Option Text) : Text :=
  if line.trim.isEmpty then default.getD line.trim else line.trim

/-- Asks a question. The answer is the next line of the input; at its end, which is shown by a new
line, it is empty. -/
def ask (d : Dialog) (question : Text) (default : Option Text) :
    Except StreamError Text × Dialog :=
  match d.say (prompt d.palette question default) with
  | (.error e, d) => (.error e, d)
  | (.ok _, d) =>
    match d.input.readLine with
    | (.error e, input) => (.error e, { d with input })
    | (.ok line, input) =>
      let d := { d with input }
      if line.isEmpty then
        match d.say ['\n'] with
        | (.error e, d) => (.error e, d)
        | (.ok _, d) => (.ok (answer line default), d.report (.endOfInput question))
      else (.ok (answer line default), d)

/-! ### The year -/

/-- How a question ends that is asked until the answer will do. -/
inductive Reply (α : Type) where
  /-- With an answer. -/
  | given (a : α)
  /-- With a stream that fails. -/
  | failed (e : StreamError)
  /-- Not at all: every answer to come will be refused. -/
  | endless
  deriving DecidableEq, Repr

/-- What the question for a year is called. -/
def yearQuestion : Text := "Year".toList

/-- Asks for a year once. An empty line stands for the year `now`. -/
def askYearOnce (d : Dialog) (now : Int) : Except StreamError Text × Dialog :=
  d.ask yearQuestion (some (Year.format now))

/-- What questions use up: bytes of the input and room in the output. -/
def supply (d : Dialog) : Nat := d.input.unread.length + d.room.getD 0

/-- Asks for a year until the answer is one. A refused answer that used nothing up will be given
and refused again for ever. -/
def askYear (d : Dialog) (now : Int) : Reply Text × Dialog :=
  match d.askYearOnce now with
  | (.error e, next) => (.failed e, next)
  | (.ok text, next) =>
    match Year.validate text with
    | .ok year => (.given year, next)
    | .error e =>
      let next := next.refuse e.message
      if next.supply < d.supply then next.askYear now else (.endless, next)
termination_by d.supply

/-- The wording of a failure. -/
def failure (e : StreamError) : Text := "failed to read answer: ".toList ++ e.message

end Dialog

end LicenseForge
