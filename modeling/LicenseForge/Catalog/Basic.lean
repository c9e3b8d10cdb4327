import LicenseForge.License.Basic
import LicenseForge.Text.Lowercase

/-!
# Catalogs

* `License.key` : the lower-case form of the id, by which a license is found.
* `Catalog` : licenses with different keys, in the byte order of the keys.
* `Catalog.insert`, `Catalog.merge`, `Catalog.get?` : the last license with a key is the one that
  stands.
-/

namespace LicenseForge

namespace License

/-- The key of a license: its id in lower case. -/
def key (l : License) : Text := l.id.lowercase

/-- The order of licenses in a catalog. -/
def Before (a b : License) : Prop := a.key.Precedes b.key

instance (a b : License) : Decidable (Before a b) := inferInstanceAs (Decidable (_ < _))

theorem Before.trans {a b c : License} (h : Before a b) (h' : Before b c) : Before a c :=
  Text.Precedes.trans h h'

theorem before_congr {a a' b b' : License} (ha : a.key = a'.key) (hb : b.key = b'.key) :
    Before a b ↔ Before a' b' := by
  rw [Before, Before, ha, hb]

end License

/-- Licenses with different keys, in the order of their keys. -/
structure Catalog where
  /-- The licenses in order. -/
  licenses : List License
  /-- Every license has a smaller key than those after it. -/
  sorted : licenses.Pairwise License.Before

namespace Catalog

/-- The catalog of no licenses. -/
def empty : Catalog := ⟨[], .nil⟩

instance : Inhabited Catalog := ⟨empty⟩

/-- The number of licenses. -/
def size (c : Catalog) : Nat := c.licenses.length

/-- The catalog has no license. -/
def isEmpty (c : Catalog) : Bool := c.licenses.isEmpty

/-- The license with the given key. -/
def find? (c : Catalog) (key : Text) : Option License := c.licenses.find? (·.key == key)

/-- The license with the given id, whatever the case of its letters. -/
def get? (c : Catalog) (id : Text) : Option License := c.find? id.lowercase

/-! ### Insertion -/

/-- Puts a license in its place among licenses in order. -/
def place (l : License) : List License → List License
  | [] => [l]
  | h :: t =>
    if l.Before h then l :: h :: t
    else if h.Before l then h :: place l t
    else l :: t

theorem mem_place {l x : License} {ls : List License} (h : x ∈ place l ls) : x = l ∨ x ∈ ls := by
  induction ls with
  | nil => simpa [place] using h
  | cons a t ih =>
    rw [place] at h
    split at h
    · simpa using h
    · split at h
      · rcases List.mem_cons.1 h with rfl | h
        · simp
        · rcases ih h with rfl | h <;> simp [*]
      · rcases List.mem_cons.1 h with rfl | h <;> simp [*]

theorem pairwise_place (l : License) {ls : List License} (hs : ls.Pairwise License.Before) :
    (place l ls).Pairwise License.Before := by
  induction ls with
  | nil => simp [place]
  | cons a t ih =>
    obtain ⟨ha, ht⟩ := List.pairwise_cons.1 hs
    rw [place]
    split
    next hl =>
      exact List.pairwise_cons.2 ⟨fun x hx => by
        rcases List.mem_cons.1 hx with rfl | hx
        · exact hl
        · exact hl.trans (ha x hx), hs⟩
    next hl =>
      split
      next hal =>
        exact List.pairwise_cons.2 ⟨fun x hx => by
          rcases mem_place hx with rfl | hx
          · exact hal
          · exact ha x hx, ih ht⟩
      next hal =>
        have hk : l.key = a.key := Text.eq_of_not_precedes hl hal
        exact List.pairwise_cons.2
          ⟨fun x hx => (License.before_congr hk rfl).2 (ha x hx), ht⟩

/-- The catalog with a license, in the place of one with the same key. -/
def insert (c : Catalog) (l : License) : Catalog :=
  ⟨place l c.licenses, pairwise_place l c.sorted⟩

/-- The license that gives way when `l` is put in its place among licenses in order. -/
def displaced (l : License) : List License → Option License
  | [] => none
  | h :: t =>
    if l.Before h then none
    else if h.Before l then displaced l t
    else some h

/-- The license that would leave the catalog if `l` were inserted. -/
def replacedBy (c : Catalog) (l : License) : Option License := displaced l c.licenses

/-- The catalog with all licenses of another one, which take the place of those with their keys. -/
def merge (c other : Catalog) : Catalog := other.licenses.foldl insert c

/-- The licenses that leave the catalog when another one is merged into it, in the order in which
they do. -/
def replacedByAll (c other : Catalog) : List License := other.licenses.filterMap c.replacedBy

end Catalog

end LicenseForge
