import LicenseForge.Catalog.Basic
import LicenseForge.EditDistance

/-!
# Looking up a license

* `Catalog.suggest?` : the license whose key is nearest to a misspelt id.
* `Catalog.find` : the license with an id, or a suggestion.
-/

namespace LicenseForge

/-- No license has the id; one with a similar id may be suggested. -/
structure UnknownLicense where
  /-- The id as it was asked for. -/
  id : Text
  /-- The id of a license with a similar key. -/
  suggestion : Option Text
  deriving DecidableEq, Repr

/-- The wording of the error. -/
def UnknownLicense.message (e : UnknownLicense) : Text :=
  "unknown license: '".toList ++ e.id ++ ['\'']
    ++ (match e.suggestion with
      | some s => "\n\nDid you mean '".toList ++ s ++ "'?".toList
      | none => [])

namespace Catalog

/-- The largest distance at which an id is taken for a misspelling. -/
def reach : Nat := 2

/-- Of two candidates the nearer one, and the first of two that are equally near. -/
def nearer (best : Option (Nat × License)) (d : Nat) (l : License) : Option (Nat × License) :=
  match best with
  | none => some (d, l)
  | some (n, b) => if d < n then some (d, l) else some (n, b)

/-- The license nearest to `key` among those within reach. -/
def nearest (key : Text) (ls : List License) : Option (Nat × License) :=
  ls.foldl (fun best l =>
    let d := Text.distance l.key key
    if d ≤ reach then nearer best d l else best) none

/-- The license whose key is nearest to a misspelt id, if one is within reach. -/
def suggest? (c : Catalog) (id : Text) : Option License :=
  (nearest id.lowercase c.licenses).map (·.2)

/-- The license with an id, or what to say when there is none. -/
def find (c : Catalog) (id : Text) : Except UnknownLicense License :=
  match c.get? id with
  | some l => .ok l
  | none => .error { id, suggestion := (c.suggest? id).map (·.id) }

end Catalog

end LicenseForge
