import LicenseForge.Catalog.Folder
import LicenseForge.Proofs.Catalog.Lookup
import LicenseForge.Proofs.Template.Reading

/-!
# The catalog of the licenses that come with the program

Only the header of a template is looked at: whatever follows the separator is a text.

* `Builtin.exists_parse_source` : each template describes a license with the id of its entry.
* `Builtin.Describes` : a template describes the license with an id.
* `Catalog.exists_builtin` : there is a catalog of these licenses and of no others.
-/

namespace LicenseForge

/-! ### Headers of templates -/

/-- The characters of a string that is written out, in one piece or in several. -/
inductive Spelt : String → Text → Prop
  /-- One piece. -/
  | ofList (t : Text) : Spelt (String.ofList t) t
  /-- Several pieces. -/
  | append {a b t u} (ha : Spelt a t) (hb : Spelt b u) : Spelt (a ++ b) (t ++ u)

theorem Spelt.toList_eq {a : String} {t : Text} (h : Spelt a t) : a.toList = t := by
  induction h with
  | ofList t => exact String.toList_ofList
  | append _ _ iha ihb => rw [String.toList_append, iha, ihb]

theorem Spelt.map_toList_eq {as : List String} {ts : List Text} (h : List.Forall₂ Spelt as ts) :
    as.map String.toList = ts := by
  induction h with
  | nil => rfl
  | cons ha _ ih => rw [List.map_cons, ha.toList_eq, ih]

namespace Builtin

/-- Lines, without their ends, that can stand in front of a separator and give the id. -/
def Heads (header : List Text) (id : Text) : Prop :=
  (∀ line ∈ header, '\n' ∉ line ∧ line.head? ≠ some '-') ∧
    Header.value (header.map fun line => .ofText (line ++ ['\n'])) Scalar.id.key = id

instance (header : List Text) (id : Text) : Decidable (Heads header id) :=
  inferInstanceAs (Decidable (_ ∧ _))

/-- A template with the separator at line `n` describes a license if the lines before it give an
id. -/
theorem parse_source_of_heads {lines : List String} {header : List Text} {id : Text} (n : Nat)
    (hsep : lines = lines.take n ++ "---" :: lines.drop (n + 1))
    (hs : List.Forall₂ Spelt (lines.take n) header) (hh : Heads header id) (hne : id ≠ []) :
    ∃ l, License.parse (source lines) = .ok l ∧ l.id = id := by
  obtain ⟨hline, hid⟩ := hh
  -- the lines behind the separator stay as they are: none of them is read
  have hsource : source lines = (header.map (· ++ ['\n'])).flatten ++
      (Template.separator ++ '\n' :: source (lines.drop (n + 1))) := by
    rw [← Spelt.map_toList_eq hs]
    conv_lhs => rw [hsep]
    simp [source, List.flatMap_def, List.map_map, Function.comp_def, Template.separator]
  have hlines : ∀ line ∈ header.map (· ++ ['\n']), Text.IsLine line ∧ line.head? ≠ some '-' := by
    intro line hl
    obtain ⟨u, hu, rfl⟩ := List.mem_map.1 hl
    obtain ⟨hn, hd⟩ := hline u hu
    refine ⟨⟨u, rfl, hn⟩, ?_⟩
    cases u with
    | nil => decide
    | cons c u => exact hd
  have hsplit := Template.splitsInto_append (t := source (lines.drop (n + 1))) hlines
  rw [← hsource] at hsplit
  refine ⟨_, License.parse_eq_of_says (.license hsplit (HeaderLine.forall₂_says_iff.2 rfl) ?_
    (Template.body_eq_iff.1 rfl)), ?_⟩
  · rw [List.map_map]
    exact hid ▸ hne
  · rw [List.map_map]
    exact hid

/-- Each template describes a license with the id under which it is listed. -/
theorem exists_parse_source :
    ∀ e ∈ templates, ∃ l, License.parse (source e.2) = .ok l ∧ l.id = e.1.toList := by
  simp only [templates, List.forall_mem_cons, List.not_mem_nil]
  refine ⟨?_, ?_, ?_, ?_, ?_, ?_, ?_, ?_, by simp⟩
  · exact parse_source_of_heads 13 rfl (by repeat constructor) (by decide +kernel) (by decide)
  · exact parse_source_of_heads 18 rfl (by repeat constructor) (by decide +kernel) (by decide)
  · exact parse_source_of_heads 15 rfl (by repeat constructor) (by decide +kernel) (by decide)
  · exact parse_source_of_heads 15 rfl (by repeat constructor) (by decide +kernel) (by decide)
  · exact parse_source_of_heads 15 rfl (by repeat constructor) (by decide +kernel) (by decide)
  · exact parse_source_of_heads 15 rfl (by repeat constructor) (by decide +kernel) (by decide)
  · exact parse_source_of_heads 13 rfl (by repeat constructor) (by decide +kernel) (by decide)
  · exact parse_source_of_heads 16 rfl (by repeat constructor) (by decide +kernel) (by decide)

theorem isc_mem_templates : ("isc", isc) ∈ templates := by simp [templates]

/-- One of the templates describes the license, whose id is the given one, whatever the case of its
letters. -/
def Describes (id : Text) (l : License) : Prop :=
  ∃ e ∈ templates, License.parse (source e.2) = .ok l ∧ l.key = id.lowercase

/-- The template that is listed under an id describes a license with this id. -/
theorem exists_describes {name : String} {lines : List String} (h : (name, lines) ∈ templates) :
    ∃ l, Describes name.toList l := by
  obtain ⟨l, hp, hid⟩ := exists_parse_source _ h
  exact ⟨l, _, h, hp, by rw [License.key, hid]⟩

end Builtin

/-! ### The catalog -/

namespace Catalog

variable {ts : List (String × List String)}

/-- Templates with different keys are all in the catalog to which they are added. -/
theorem exists_addTemplates
    (hp : ∀ e ∈ ts, ∃ l, License.parse (Builtin.source e.2) = .ok l ∧ l.id = e.1.toList)
    (hd : ts.Pairwise fun a b => Text.lowercase a.1.toList ≠ Text.lowercase b.1.toList)
    (c : Catalog) :
    ∃ c', c.addTemplates ts = .ok c' ∧
      (∀ e ∈ ts, ∃ l, License.parse (Builtin.source e.2) = .ok l ∧ l.id = e.1.toList ∧
        c'.get? e.1.toList = some l) ∧
      ∀ id, (∀ e ∈ ts, Text.lowercase e.1.toList ≠ id.lowercase) → c'.get? id = c.get? id := by
  induction ts generalizing c with
  | nil => exact ⟨c, rfl, by simp, fun id _ => rfl⟩
  | cons e ts ih =>
    obtain ⟨he, hp⟩ := List.forall_mem_cons.1 hp
    obtain ⟨hne, hd⟩ := List.pairwise_cons.1 hd
    obtain ⟨l, hl, hid⟩ := he
    obtain ⟨c', hc, hin, hout⟩ := ih hp hd (c.insert l)
    have hkey : l.key = Text.lowercase e.1.toList := by rw [License.key, hid]
    refine ⟨c', ?_, List.forall_mem_cons.2 ⟨⟨l, hl, hid, ?_⟩, hin⟩, fun id h => ?_⟩
    · rw [addTemplates, hl]
      exact hc
    · -- the templates that follow have other keys and do not take its place
      rw [hout _ fun e' he' => (hne e' he').symm, get?_insert, if_pos hkey]
    · obtain ⟨h, ht⟩ := List.forall_mem_cons.1 h
      rw [hout id ht, get?_insert, if_neg (hkey ▸ h)]

/-- **The licenses that come with the program** make up a catalog: all that it finds is what one of
the templates describes. -/
theorem exists_builtin :
    ∃ c, builtin = .ok c ∧ ∀ id l, c.get? id = some l ↔ Builtin.Describes id l := by
  obtain ⟨c, hc, hin, hout⟩ :=
    exists_addTemplates Builtin.exists_parse_source (by decide +kernel) empty
  refine ⟨c, hc, fun id l => ⟨fun hl => ?_, ?_⟩⟩
  · by_cases hkey : ∃ e ∈ Builtin.templates, Text.lowercase e.1.toList = id.lowercase
    · obtain ⟨e, he, hkey⟩ := hkey
      obtain ⟨l', hp, hid, hget⟩ := hin e he
      obtain rfl : l' = l := by
        rw [get?, hkey] at hget
        exact Option.some.inj (hget.symm.trans hl)
      exact ⟨e, he, hp, by rw [License.key, hid, hkey]⟩
    · have hnone : c.get? id = empty.get? id := hout id fun e he hk => hkey ⟨e, he, hk⟩
      cases hl.symm.trans hnone
  · rintro ⟨e, he, hp, hkey⟩
    obtain ⟨l', hp', hid, hget⟩ := hin e he
    obtain rfl : l' = l := Except.ok.inj (hp'.symm.trans hp)
    rw [get?, ← hkey, License.key, hid]
    exact hget

theorem load_none {c : Catalog} (h : builtin = .ok c) (t : FileTree) :
    (load t none).result = .ok c := by
  rw [load, h, overlay]

end Catalog

end LicenseForge
