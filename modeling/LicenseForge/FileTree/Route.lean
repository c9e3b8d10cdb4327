import LicenseForge.FileTree.Basic

/-!
# From a written path to a node

* `Route` : a path as it is written.
* `FileTree.walk` : the steps of a route, taken one after the other and through symbolic links.
* `FileTree.locate` : where a written path leads.
-/

namespace LicenseForge

/-- A path as it is written. -/
structure Route where
  /-- The route starts at the root. -/
  absolute : Bool
  /-- The names to pass, of which `.` stays and `..` leaves a folder. -/
  steps : List Text
  /-- A slash follows the last name. -/
  slash : Bool
  deriving DecidableEq, Repr

namespace Route

/-- The names between the slashes. -/
def segments : Text → List Text
  | [] => [[]]
  | c :: t =>
    if c = '/' then [] :: segments t
    else match segments t with
      | s :: ss => (c :: s) :: ss
      | [] => [[c]]

/-- Reads a path. -/
def ofText (t : Text) : Route where
  absolute := t.head? == some '/'
  steps := (segments t).filter (!·.isEmpty)
  slash := t.getLast? == some '/'

/-- The paths of the nodes that a route leads through, from the first name to the last. -/
def stages (r : Route) : List Text :=
  (List.range r.steps.length).map fun n =>
    (if r.absolute then ['/'] else []) ++ List.intercalate ['/'] (r.steps.take (n + 1))

end Route

/-- Where a path leads. -/
inductive Place where
  /-- There is a node. -/
  | found (path : Path) (node : Node)
  /-- There is nothing, but there is the folder for it. -/
  | free (path : Path)
  deriving DecidableEq, Repr

/-- What is to happen at the end of a path. -/
structure Manner where
  /-- A file is to be created if there is none. -/
  creates : Bool
  /-- A symbolic link at the end is followed. -/
  follows : Bool
  deriving DecidableEq, Repr

namespace Manner

/-- To look at what is there. -/
def inspect : Manner := ⟨false, true⟩

/-- To write to a file, whether it is there or not. -/
def overwrite : Manner := ⟨true, true⟩

/-- To write to a file that is not there yet. -/
def create : Manner := ⟨true, false⟩

end Manner

namespace FileTree

/-- The greatest length of a name, in bytes. -/
def nameLimit : Nat := 255

/-- The greatest length of a path, in bytes. -/
def pathLimit : Nat := 4095

/-- The number of symbolic links that a path may lead through. -/
def linkLimit : Nat := 40

/-- Takes the steps of a route from the folder `here`, through at most `links` symbolic links. -/
def walk (t : FileTree) (m : Manner) (links : Nat) (here : Path) (steps : List Text)
    (slash : Bool) : Except FileError Place :=
  match steps with
  | [] => .ok (.found here .folder)
  | step :: rest =>
    if step = ['.'] then t.walk m links here rest slash
    else if step = ['.', '.'] then t.walk m links here.dropLast rest slash
    else if rest.isEmpty && slash && m.creates then .error .isFolder
    else if step.encode.length > nameLimit then .error .nameTooLong
    else match t.get? (here ++ [step]) with
      | none => if rest.isEmpty && !slash then .ok (.free (here ++ [step])) else .error .notFound
      | some .folder => t.walk m links (here ++ [step]) rest slash
      | some (.file content) =>
        if rest.isEmpty && !slash then .ok (.found (here ++ [step]) (.file content))
        else .error .notFolder
      | some (.link target) =>
        if rest.isEmpty && !slash && !m.follows then
          .ok (.found (here ++ [step]) (.link target))
        else match links with
          | 0 => .error .tooManyLinks
          | links + 1 =>
            let route := Route.ofText target
            t.walk m links (if route.absolute then [] else here) (route.steps ++ rest)
              (slash || rest.isEmpty && route.slash)
termination_by (links, steps.length)

/-- Where a written path leads. -/
def locate (t : FileTree) (m : Manner) (path : Text) : Except FileError Place :=
  if path.contains '\x00' then .error .nulInPath
  else if path.isEmpty then .error .notFound
  else if path.encode.length > pathLimit then .error .nameTooLong
  else
    let route := Route.ofText path
    t.walk m linkLimit (if route.absolute then [] else t.home) route.steps route.slash

end FileTree

end LicenseForge
