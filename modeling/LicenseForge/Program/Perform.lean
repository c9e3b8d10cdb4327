import LicenseForge.Catalog.Folder
import LicenseForge.Catalog.Listing
import LicenseForge.Catalog.Lookup
import LicenseForge.CommandLine.Basic
import LicenseForge.Dialog.Filling
import LicenseForge.FileTree.Save
import LicenseForge.License.Details
import LicenseForge.Program.Outcome

/-!
# Carrying out a command

* `Surroundings` : what a run finds: input, files, terminal and clock.
* `Generation.perform` : fills in a license and shows or saves it.
* `Invocation.performWith` : carries out a command line with what was loaded.
* `Invocation.perform` : carries out what a command line asks for.
-/

namespace LicenseForge

/-- What a run finds. -/
structure Surroundings where
  /-- The bytes on the input. -/
  input : Bytes
  /-- The files. -/
  files : FileTree
  /-- What is known about the terminal. -/
  terminal : Terminal
  /-- The current year. -/
  now : Int

/-- A run that fails because there is no license with the id. -/
def UnknownLicense.outcome (e : UnknownLicense) (files : FileTree) : Outcome :=
  { status := some 1
    emitted := [.complaint e.message,
      .err (Text.encode "\nRun 'licgen list' for the full list.\n".toList)]
    files }

namespace Generation

/-- The line that reports a saved license. -/
def report (g : Generation) (l : License) (p : Palette) : Text :=
  p.paint p.green ("Created ".toList ++ g.output ++ " (".toList ++ l.name ++ [')']) ++ ['\n']

/-- Shows or saves the filled-in text of a license. -/
def deliver (g : Generation) (l : License) (p : Palette) (files : FileTree) (text : Text) :
    Outcome :=
  if g.toStdout then .success files [.out text.encode]
  else match files.save g.output text g.force with
    | .error e => .failure files e.message
    | .ok files =>
      .success files [.event (.written g.output text.encode.length), .out (g.report l p).encode]

/-- Finds what the license leaves open, and delivers the filled-in text. -/
def complete (g : Generation) (l : License) (p : Palette) (s : Surroundings) : Outcome :=
  let talk : Dialog := { input := { unread := s.input }, palette := p }
  let ended := talk.complete l g.filling (!g.noPrompt) s.now
  let outcome : Outcome := match ended.1 with
    | .endless => { status := none, emitted := [], files := s.files }
    | .failed e => .failure s.files (Dialog.failure e)
    | .given f =>
      (g.deliver l p s.files (l.fill f s.now ++ ['\n'])).after
        [.event (.filled (l.invocation f))]
  outcome.after (ended.2.record.map (Emission.ofEntry g.toStdout))

/-- Finds the license and fills it in. -/
def perform (g : Generation) (c : Catalog) (p : Palette) (s : Surroundings) : Outcome :=
  match c.find g.license with
  | .error e => e.outcome s.files
  | .ok l => g.complete l p s

end Generation

/-- Carries out a command with the licenses of a catalog. -/
def Command.perform (c : Catalog) (p : Palette) (s : Surroundings) : Command → Outcome
  | .list => .success s.files ((c.listing p).map fun line => .out line.encode)
  | .info id =>
    match c.find id with
    | .error e => e.outcome s.files
    | .ok l => .success s.files ((l.details p s.now).map fun line => .out line.encode)
  | .generate g => g.perform c p s

/-- Carries out what a command line asks for, if the licenses could be loaded. -/
def Invocation.performWith (i : Invocation) (s : Surroundings)
    (loaded : Reported (Except CatalogError Catalog)) : Outcome :=
  let outcome : Outcome := match loaded.result with
    | .error e => .failure s.files e.message
    | .ok c => i.command.perform c (.ofBool (i.color.resolve s.terminal)) s
  outcome.after (loaded.events.map .event)

/-- Carries out what a command line asks for. -/
def Invocation.perform (i : Invocation) (s : Surroundings) : Outcome :=
  i.performWith s (Catalog.load s.files i.templates)

end LicenseForge
