import LicenseForge.Catalog.Lookup
import Mathlib.Data.List.Nodup
import Mathlib.Data.List.Sort

/-!
# Looking up what was inserted

* `Catalog.get?_eq_some_iff` : looking up finds the one license with the key.
* `Catalog.ext_get?` : catalogs in which the same is found are the same.
* `Catalog.get?_insert` : a license is found under its own id, whatever the case of its letters.
* `Catalog.replacedBy_eq_get?` : what leaves a catalog on an insertion was found under the id.
* `Catalog.get?_merge` : what is merged in is found first.
-/

namespace LicenseForge

theorem License.Before.key_ne {a b : License} (h : a.Before b) : a.key ≠ b.key := fun he => by
  rw [License.Before, he] at h
  exact Text.Precedes.irrefl b.key h

instance : Std.Irrefl License.Before := ⟨fun _ h => h.key_ne rfl⟩

instance : Std.Antisymm License.Before := ⟨fun _ _ h h' => absurd rfl (h.trans h').key_ne⟩

namespace Catalog

variable {c c' : Catalog} {l : License} {id key : Text}

/-! ### Licenses with different keys -/

theorem nodup_keys (c : Catalog) : (c.licenses.map License.key).Nodup :=
  List.pairwise_map.2 (c.sorted.imp License.Before.key_ne)

theorem find?_key_eq_some_iff {ls : List License} (h : (ls.map License.key).Nodup) :
    ls.find? (·.key == key) = some l ↔ l ∈ ls ∧ l.key = key := by
  constructor
  · exact fun hl => ⟨List.mem_of_find?_eq_some hl, by simpa using List.find?_some hl⟩
  · rintro ⟨hl, hk⟩
    have hsome : (ls.find? (·.key == key)).isSome :=
      List.find?_isSome.2 ⟨l, hl, by simpa using hk⟩
    obtain ⟨x, hx⟩ := Option.isSome_iff_exists.1 hsome
    have hxk : x.key = l.key := hk ▸ by simpa using List.find?_some hx
    rw [hx, List.inj_on_of_nodup_map h (List.mem_of_find?_eq_some hx) hl hxk]

theorem get?_eq_some_iff : c.get? id = some l ↔ l ∈ c.licenses ∧ l.key = id.lowercase :=
  find?_key_eq_some_iff c.nodup_keys

theorem mem_licenses_iff : l ∈ c.licenses ↔ c.get? l.id = some l := by
  simp [get?_eq_some_iff, License.key]

/-- Catalogs in which the same is found are the same. -/
theorem ext_get? (h : ∀ id, c.get? id = c'.get? id) : c = c' := by
  have hm : ∀ l, l ∈ c.licenses ↔ l ∈ c'.licenses := fun l => by
    rw [mem_licenses_iff, mem_licenses_iff, h]
  have hl : c.licenses = c'.licenses := c.sorted.eq_of_mem_iff c'.sorted hm
  cases c
  cases c'
  simpa using hl

/-! ### Insertion -/

theorem find?_place (l : License) (key : Text) (ls : List License) :
    (place l ls).find? (·.key == key)
      = if l.key = key then some l else ls.find? (·.key == key) := by
  induction ls with
  | nil => by_cases h : l.key = key <;> simp [place, h]
  | cons a ls ih =>
    rw [place]
    split
    · by_cases h : l.key = key <;> simp [h]
    · next hla =>
      split
      · next hal =>
        -- the license with a smaller key stays in front
        by_cases ha : a.key = key
        · simp [ha, show l.key ≠ key from fun h => hal.key_ne (ha.trans h.symm)]
        · simp [ha, ih]
      · next hal =>
        have hk : l.key = a.key := Text.eq_of_not_precedes hla hal
        by_cases h : l.key = key
        · simp [h]
        · simp [h, hk ▸ h]

theorem get?_insert (c : Catalog) (l : License) (id : Text) :
    (c.insert l).get? id = if l.key = id.lowercase then some l else c.get? id :=
  find?_place l id.lowercase c.licenses

theorem displaced_eq_find? (l : License) {ls : List License} (hs : ls.Pairwise License.Before) :
    displaced l ls = ls.find? (·.key == l.key) := by
  induction ls with
  | nil => rfl
  | cons a ls ih =>
    obtain ⟨ha, hs⟩ := List.pairwise_cons.1 hs
    rw [displaced]
    split
    next hla =>
      -- all that follow have greater keys
      have hb : ∀ x ∈ a :: ls, l.Before x :=
        List.forall_mem_cons.2 ⟨hla, fun x hx => hla.trans (ha x hx)⟩
      symm
      exact List.find?_eq_none.2 fun x hx => by simpa using (hb x hx).key_ne.symm
    next hla =>
      split
      next hal => rw [ih hs, List.find?_cons_of_neg (by simpa using hal.key_ne)]
      next hal =>
        have hk : a.key = l.key := (Text.eq_of_not_precedes hla hal).symm
        rw [List.find?_cons_of_pos (by simpa using hk)]

theorem replacedBy_eq_get? (c : Catalog) (l : License) : c.replacedBy l = c.get? l.id :=
  displaced_eq_find? l c.sorted

/-! ### Several licenses -/

/-- Of several licenses that are inserted, the last one with a key stands. -/
theorem get?_foldl_insert (c : Catalog) (ls : List License) (id : Text) :
    (ls.foldl insert c).get? id = (ls.findRev? (·.key == id.lowercase)).or (c.get? id) := by
  induction ls generalizing c with
  | nil => rfl
  | cons a ls ih =>
    rw [List.foldl_cons, ih, get?_insert, List.findRev?]
    cases ls.findRev? (·.key == id.lowercase) with
    | some l => rfl
    | none => by_cases h : a.key = id.lowercase <;> simp [h]

theorem get?_merge (c other : Catalog) (id : Text) :
    (c.merge other).get? id = (other.get? id).or (c.get? id) := by
  -- the keys differ, so that the last license with a key is the only one
  have hlast : other.licenses.findRev? (·.key == id.lowercase) = other.get? id := by
    have hn : (other.licenses.reverse.map License.key).Nodup := by
      rw [List.map_reverse, List.nodup_reverse]
      exact other.nodup_keys
    refine Option.ext fun l => ?_
    rw [List.findRev?_eq_find?_reverse, find?_key_eq_some_iff hn, List.mem_reverse,
      get?_eq_some_iff]
  rw [merge, get?_foldl_insert, hlast]

theorem find_eq_ok_of_get? {c : Catalog} {id : Text} {l : License} (h : c.get? id = some l) :
    c.find id = .ok l := by
  rw [find, h]

end Catalog

end LicenseForge
