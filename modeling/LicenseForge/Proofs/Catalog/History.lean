import LicenseForge.Proofs.Catalog.Lookup
import Mathlib.Data.Finset.Card

/-!
# Catalogs are maps in which the last writer wins

A catalog comes about by insertions and by merging in catalogs that came about likewise.  Whatever
the order in which this happens, all that counts is which licenses were put in, and which of those
with the same key was put in last.

* `Catalog.History` : how a catalog came about.
* `Catalog.History.writes`, `Catalog.History.last?` : what was put in, and the last license with a
  key.
* `Catalog.merge_assoc`, `Catalog.merge_self` : the laws of merging.
* `Catalog.History.last_writer_wins` : a catalog holds the last license with each key.
-/

namespace LicenseForge.Catalog

/-! ### Merging -/

section

variable (a b c : Catalog)

theorem merge_assoc : (a.merge b).merge c = a.merge (b.merge c) :=
  ext_get? fun id => by simp only [get?_merge, Option.or_assoc]

theorem merge_self : c.merge c = c := ext_get? fun id => by rw [get?_merge, Option.or_self]

theorem merge_empty : c.merge empty = c := rfl

theorem empty_merge : empty.merge c = c :=
  ext_get? fun id => by rw [get?_merge, show empty.get? id = none from rfl, Option.or_none]

end

/-! ### Histories -/

/-- How a catalog came about. -/
inductive History where
  /-- It holds no license yet. -/
  | empty
  /-- A license was inserted. -/
  | insert (h : History) (l : License)
  /-- A catalog with a history of its own was merged in. -/
  | merge (h other : History)

namespace History

/-- The catalog that came about. -/
def catalog : History → Catalog
  | empty => .empty
  | insert h l => h.catalog.insert l
  | merge h other => h.catalog.merge other.catalog

/-- The licenses that were put in, one after the other. -/
def writes : History → List License
  | empty => []
  | insert h l => h.writes ++ [l]
  | merge h other => h.writes ++ other.writes

/-- The last license with the key that was put in. -/
def last? (h : History) (key : Text) : Option License := h.writes.findRev? (·.key == key)

variable {h : History} {l : License} {key : Text}

theorem last?_eq_none_iff : h.last? key = none ↔ ∀ l ∈ h.writes, l.key ≠ key := by
  simp [last?]

theorem mem_writes_of_last? (hl : h.last? key = some l) : l ∈ h.writes := by
  rw [last?, List.findRev?_eq_find?_reverse] at hl
  exact List.mem_reverse.1 (List.mem_of_find?_eq_some hl)

/-- A catalog finds what was put in last. -/
theorem get?_catalog (h : History) (id : Text) : h.catalog.get? id = h.last? id.lowercase := by
  induction h with
  | empty => rfl
  | insert h l ih =>
    rw [catalog, get?_insert, ih]
    by_cases hk : l.key = id.lowercase <;> simp [last?, writes, hk]
  | merge h other ih iho =>
    rw [catalog, get?_merge, ih, iho]
    simp [last?, writes]

theorem mem_catalog_iff : l ∈ h.catalog.licenses ↔ h.last? l.key = some l := by
  rw [mem_licenses_iff, get?_catalog, License.key]

/-- A key is in the catalog once it was put in. -/
theorem mem_keys_iff :
    key ∈ h.catalog.licenses.map License.key ↔ key ∈ h.writes.map License.key := by
  simp only [List.mem_map]
  constructor
  · rintro ⟨l, hl, hk⟩
    exact ⟨l, mem_writes_of_last? (mem_catalog_iff.1 hl), hk⟩
  · rintro ⟨l, hl, rfl⟩
    -- something with the key was put in last, and it is still there
    have hne : h.last? l.key ≠ none := fun hn => last?_eq_none_iff.1 hn l hl rfl
    obtain ⟨x, hx⟩ := Option.ne_none_iff_exists'.1 hne
    exact ⟨x, get?_eq_some_iff.1 ((get?_catalog h l.id).trans hx)⟩

theorem size_catalog (h : History) :
    h.catalog.size = (h.writes.map License.key).toFinset.card := by
  have hs : (h.writes.map License.key).toFinset = (h.catalog.licenses.map License.key).toFinset := by
    ext key
    rw [List.mem_toFinset, List.mem_toFinset, mem_keys_iff]
  rw [hs, List.toFinset_card_of_nodup h.catalog.nodup_keys, List.length_map, size]

theorem isEmpty_catalog (h : History) : h.catalog.isEmpty ↔ h.writes = [] := by
  have hs := size_catalog h
  rw [isEmpty, List.isEmpty_iff_length_eq_zero, show h.catalog.licenses.length = _ from hs,
    Finset.card_eq_zero, List.toFinset_eq_empty_iff, List.map_eq_nil_iff]

/-- **A catalog is a map in which the last writer wins.**  For every history, looking up finds the
last license with the key that was put in; the licenses are listed in the order of their keys, each
that is the last with its key once; their number is the number of different keys; and what an
insertion replaces is what was found under the id.  Merging prefers what is merged in, is
associative, has the catalog of no licenses as identity on both sides, and changes nothing if a
catalog is merged with itself. -/
theorem last_writer_wins (h : History) :
    (∀ id, h.catalog.get? id = h.last? id.lowercase) ∧
      (h.catalog.licenses.map License.key).Pairwise Text.Precedes ∧
      (∀ l, l ∈ h.catalog.licenses ↔ h.last? l.key = some l) ∧
      h.catalog.size = (h.writes.map License.key).toFinset.card ∧
      (h.catalog.isEmpty ↔ h.writes = []) ∧
      (∀ l, h.catalog.replacedBy l = h.catalog.get? l.id) ∧
      (∀ l, l ∈ h.catalog.licenses ↔ h.catalog.get? l.id = some l) ∧
      (∀ (g : History) (id : Text),
        (h.catalog.merge g.catalog).get? id = (g.catalog.get? id).or (h.catalog.get? id)) ∧
      (∀ g k : History, (h.catalog.merge g.catalog).merge k.catalog
        = h.catalog.merge (g.catalog.merge k.catalog)) ∧
      h.catalog.merge Catalog.empty = h.catalog ∧ Catalog.empty.merge h.catalog = h.catalog ∧
      h.catalog.merge h.catalog = h.catalog := by
  refine ⟨get?_catalog h, List.pairwise_map.2 h.catalog.sorted, fun l => mem_catalog_iff,
    size_catalog h, isEmpty_catalog h, replacedBy_eq_get? h.catalog, fun l => mem_licenses_iff,
    fun g id => get?_merge _ _ id, fun g k => merge_assoc _ _ _, merge_empty _, empty_merge _,
    merge_self _⟩

/-- Ids that differ only in the case of their letters have one key. -/
example :
    let h := (History.empty.insert { id := "MIT".toList }).insert { id := "Mit".toList }
    h.catalog.licenses = [{ id := "Mit".toList }] ∧
      h.catalog.get? "mit".toList = some { id := "Mit".toList } := by
  decide +kernel

end History

end LicenseForge.Catalog
