import LicenseForge.Program.Run
import Std.Time.Zoned

/-!
# The program

* `Snapshot` : the part of the file system that a command may touch, as a file tree.
* `converse` : a run that reads its input line by line, as the questions come up.
* `main` : takes the words, the environment, the clock, the files and the streams from the system,
  lets `Invocation.perform` decide what happens, and carries it out.
-/

namespace LicenseForge

/-- The environment variables of the process. -/
def Environment.ofProcess : IO Environment := do
  let get (name : String) : IO (Option Text) := return (← IO.getEnv name).map String.toList
  return {
    templates := ← get "LICGEN_TEMPLATES"
    logging := ← get "RUST_LOG"
    noColor := ← get "NO_COLOR" }

/-! ### The files -/

namespace Snapshot

/-- There is a file or a folder at a path. -/
def occupied (path : Text) : BaseIO Bool := do
  match ← (IO.FS.realPath (String.ofList path)).toBaseIO with
  | .ok _ => return true
  | .error _ => return false

/-- The names in the folder at a path, if it is one. -/
def names? (path : Text) : BaseIO (Option (List Text)) := do
  let read : IO (List Text) := do
    let folder ← IO.FS.realPath (String.ofList path)
    return (← folder.readDir).toList.map (·.fileName.toList)
  match ← read.toBaseIO with
  | .ok names => return some names
  | .error _ => return none

/-- The tree with the node at a path, and with those on the way to it. Symbolic links are looked
through, and files are empty. -/
def add (t : FileTree) (path : Text) : BaseIO FileTree :=
  (Route.ofText path).stages.foldlM (fun t stage => do
    if !(← occupied stage) then return t
    match ← names? stage with
    | some _ => return t.addFolder stage
    | none => return t.addFile stage []) t

/-- The tree with the templates in the folder at a path. -/
def addTemplates (t : FileTree) (folder : Text) : IO FileTree := do
  let names := (← names? folder).getD []
  (names.filter Catalog.isTemplateName).foldlM (fun t name => do
    let path := Catalog.pathIn folder name
    let t ← add t path
    if t.isFile path then
      return t.addFile path (← IO.FS.readBinFile (String.ofList path)).toList
    else return t) (← add t folder)

/-- The files that a command may read or write. -/
def take (i : Invocation) : IO FileTree := do
  let here := (toString (← IO.FS.realPath ".")).toList
  let t : FileTree := { home := (Route.ofText here).steps }
  let t := t.addFolder here
  let t ← match i.command with
    | .generate g => if g.toStdout then pure t else add t g.output
    | _ => pure t
  match i.templates with
  | some folder => addTemplates t folder
  | none => return t

end Snapshot

/-- Writes the file that a command has saved in a tree. -/
def Generation.write (g : Generation) (saved : FileTree) : IO Unit := do
  let mode : IO.FS.Mode := if g.force then .write else .writeNew
  let written : IO Unit := do
    let content ← IO.ofExcept ((saved.read g.output).mapError fun e => String.ofList e.message)
    (← IO.FS.Handle.mk (String.ofList g.output) mode).write content.toByteArray
  try written
  catch
    | .alreadyExists .. => throw (.userError (String.ofList (SaveError.occupied g.output).message))
    | e => throw e

/-! ### The streams -/

/-- Writes bytes, which are passed on at once. -/
def send (stream : IO.FS.Stream) (bytes : Bytes) : IO Unit := do
  if !bytes.isEmpty then
    stream.write bytes.toByteArray
    stream.flush

/-- Writes what a run emits. -/
def Environment.emit (e : Environment) (verbosity : Nat) (x : Emission) : IO Unit := do
  send (← IO.getStdout) x.stdout
  send (← IO.getStderr) (x.stderr (e.filter verbosity) e.colorsLog)

/-- Reads through the next line feed, or to the end. -/
partial def nextLine (stream : IO.FS.Stream) (line : Bytes) : IO Bytes := do
  let byte := (← stream.read 1).toList
  if byte.isEmpty || byte.contains lineFeed then return line ++ byte
  nextLine stream (line ++ byte)

/-- Carries out a command, and reads a line whenever its run needs one. Of what the run emits,
`sent` parts have been written before. Gives the outcome, and what of it is not written yet. -/
partial def converse (i : Invocation) (s : Surroundings) (emit : Emission → IO Unit)
    (sent : Nat) : IO (Outcome × List Emission) := do
  let outcome := i.perform s
  match outcome.untilInputEnds with
  | none => return (outcome, outcome.emitted.drop sent)
  | some emitted =>
    (emitted.drop sent).forM emit
    let line ← nextLine (← IO.getStdin) []
    if line.isEmpty then return (outcome, outcome.emitted.drop emitted.length)
    converse i { s with input := s.input ++ line } emit emitted.length

/-! ### The run -/

/-- Carries out a command, and gives the exit status. A run that would go on for ever is broken
off. -/
def Invocation.carryOut (i : Invocation) (e : Environment) : IO UInt32 := do
  let surroundings : Surroundings := {
    input := []
    files := ← Snapshot.take i
    terminal := .ofStreams (← (← IO.getStdout).isTty) (← (← IO.getStderr).isTty) e.noColor
    now := (← Std.Time.PlainDate.now).year.toInt }
  let (outcome, rest) ← converse i surroundings (e.emit i.verbosity) 0
  if outcome.status = some 0 then
    match i.command with
    | .generate g => if !g.toStdout then g.write outcome.files
    | _ => pure ()
  rest.forM (e.emit i.verbosity)
  return (outcome.status.getD 1).toUInt32

end LicenseForge

open LicenseForge in
/-- Runs the program on the words of its command line. -/
def main (words : List String) : IO UInt32 := do
  try
    let environment ← Environment.ofProcess
    match Invocation.parse (words.map String.toList) environment.templates with
    | .ok i => i.carryOut environment
    | .error stop =>
      let styled := (← (← IO.getStdout).isTty) && !Terminal.asksPlain environment.noColor
      send (← IO.getStdout)
        (if styled then (stop.shown environment.templates).encode
          else stop.stdout environment.templates)
      send (← IO.getStderr) stop.stderr
      return stop.status.toUInt32
  catch e =>
    IO.eprintln s!"error: {e}"
    return 1
