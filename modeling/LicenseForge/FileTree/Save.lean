import LicenseForge.FileTree.Access

/-!
# Saving a license

`FileTree.save` : writes the text of a license, by default only where there is nothing.
-/

namespace LicenseForge

/-- Why a license cannot be saved. -/
inductive SaveError where
  /-- There is something at the path, and nothing may be overwritten. -/
  | occupied (path : Text)
  /-- The operating system refuses. -/
  | refused (path : Text) (cause : FileError)
  deriving DecidableEq, Repr

namespace SaveError

/-- The error that a refusal of the operating system leads to. -/
def ofCause (path : Text) : FileError → SaveError
  | .occupied => .occupied path
  | cause => .refused path cause

/-- The wording of the error. -/
def message : SaveError → Text
  | occupied path => '\'' :: path ++ "' already exists (use --force to overwrite)".toList
  | refused path cause => "failed to write '".toList ++ path ++ "': ".toList ++ cause.message

end SaveError

/-- The tree with a text saved in a file. Only by force a file is overwritten, or written through
a symbolic link. -/
def FileTree.save (t : FileTree) (path text : Text) (force : Bool) : Except SaveError FileTree :=
  (if force then t.overwrite path text.encode else t.create path text.encode).mapError
    (SaveError.ofCause path)

end LicenseForge
