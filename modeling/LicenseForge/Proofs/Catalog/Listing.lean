import LicenseForge.Catalog.Listing
import LicenseForge.Proofs.Stream.Writing
import LicenseForge.Proofs.Template.Canonical
import LicenseForge.Proofs.Text.Utf8

/-!
# The table of licenses

The list without colours is a heading and a table of two columns. The first column is as wide as the
longest id in bytes, and since no id has more characters than bytes, every id fits in.

* `Catalog.IsRow`, `Catalog.IsTable` : what a row and the whole list look like.
* `Catalog.length_id_le_idWidth` : every id fits into its column.
* `Catalog.listing_columns` : the list of licenses that templates describe is such a table.
-/

namespace LicenseForge

namespace Catalog

/-! ### What a table looks like -/

/-- The row of a license: its id, blanks up to the width of the column, and its name. -/
structure IsRow (width : Nat) (l : License) (line : Text) : Prop where
  /-- The id is written as it is, and blanks fill up its column. -/
  columns : ∃ gap, l.id.length + gap = width ∧
    line = "  ".toList ++ (l.id ++ List.replicate gap ' ') ++ "  ".toList ++ l.name ++ ['\n']
  /-- The name starts behind the column and the two blanks on each side of it. -/
  name_column : line.drop (2 + width + 2) = l.name ++ ['\n']

/-- The heading and the rows of some licenses. -/
structure IsTable (ls : List License) (width : Nat) (out : Text) : Prop where
  /-- No id has more bytes than the column is wide. -/
  wide : ∀ l ∈ ls, l.id.encode.length ≤ width
  /-- The column is no wider than it has to be. -/
  narrow : ls ≠ [] → ∃ l ∈ ls, l.id.encode.length = width
  /-- The keys of the licenses are in strictly increasing byte order. -/
  ordered : ls.Pairwise fun l l' => l.id.lowercase.Precedes l'.id.lowercase
  /-- There is one line more than there are licenses. -/
  count : out.lines.length = ls.length + 1
  /-- Every line has a line feed at its end, and nowhere else. -/
  ended : ∀ line ∈ out.lines, line.IsLine
  /-- The first line gives the number of licenses, and there is a row for each of them. -/
  rows : ∃ rows, out.lines =
      ("Available licenses (".toList ++ Nat.toDigits 10 ls.length ++ "):\n".toList) :: rows ∧
    List.Forall₂ (IsRow width) ls rows

/-! ### The width of the column -/

variable {c : Catalog} {l : License}

/-- The width is the greatest number of bytes of an id. -/
theorem max?_eq_idWidth (h : c.licenses ≠ []) :
    (c.licenses.map (·.id.encode.length)).max? = some c.idWidth := by
  have hne : c.licenses.map (·.id.encode.length) ≠ [] := mt List.map_eq_nil_iff.1 h
  obtain ⟨n, hn⟩ := Option.isSome_iff_exists.1 (List.isSome_max?_of_ne_nil hne)
  rw [idWidth, List.foldl_max, hn, Option.getD_some, Nat.zero_max]

theorem length_encode_id_le_idWidth (hl : l ∈ c.licenses) : l.id.encode.length ≤ c.idWidth :=
  (List.max?_eq_some_iff.1 (max?_eq_idWidth (List.ne_nil_of_mem hl))).2 _
    (List.mem_map_of_mem hl)

theorem exists_length_encode_id_eq_idWidth (h : c.licenses ≠ []) :
    ∃ l ∈ c.licenses, l.id.encode.length = c.idWidth :=
  List.mem_map.1 (List.max?_eq_some_iff.1 (max?_eq_idWidth h)).1

/-- An id fits into the column, since it has no more characters than bytes. -/
theorem length_id_le_idWidth (hl : l ∈ c.licenses) : l.id.length ≤ c.idWidth :=
  Nat.le_trans (Text.length_le_length_encode l.id) (length_encode_id_le_idWidth hl)

/-! ### Its lines -/

theorem isLine_heading (c : Catalog) : c.heading.IsLine := by
  have hdigits : '\n' ∉ Nat.toDigits 10 c.size := fun h =>
    absurd (Nat.isDigit_of_mem_toDigits (by decide) (by decide) h) (by decide)
  exact ⟨_, c.heading_eq, by simp [hdigits]⟩

theorem row_plain (width : Nat) (l : License) : row .plain width l =
    ("  ".toList ++ l.id.rightpad width ' ' ++ "  ".toList) ++ (l.name ++ ['\n']) := by
  unfold row
  simp [Palette.plain]

theorem isLine_row (hl : l.WellFormed) (width : Nat) : (row .plain width l).IsLine := by
  refine ⟨"  ".toList ++ l.id.rightpad width ' ' ++ "  ".toList ++ l.name, ?_, ?_⟩
  · rw [row_plain, List.append_assoc _ l.name]
  · simp [List.rightpad, hl.id_tidy.1, hl.name_tidy.1]

theorem isRow_row {width : Nat} (hl : l.id.length ≤ width) :
    IsRow width l (row .plain width l) := by
  have hwidth : (l.id.rightpad width ' ').length = width := by
    rw [List.length_rightpad, Nat.max_eq_left hl]
  refine ⟨⟨width - l.id.length, by omega, by simp [row_plain, List.rightpad]⟩, ?_⟩
  have hfront : ("  ".toList ++ l.id.rightpad width ' ' ++ "  ".toList).length = 2 + width + 2 := by
    rw [List.length_append, List.length_append, hwidth]
    rfl
  rw [row_plain, List.drop_left' hfront]

/-- **The list is a table.** If templates describe the licenses of a catalog, its list without
colours has a line for the number of licenses and one for each license, in the byte order of the
keys. Every id is written in full, and all names start in one column, as far to the right as the
longest id in bytes asks for. -/
theorem listing_columns (c : Catalog)
    (hc : ∀ l ∈ c.licenses, ∃ source, License.parse source = .ok l) :
    ({} : Output).putAll (c.listing .plain) =
        (.ok (), { written := Text.encode (c.listing .plain).flatten }) ∧
      IsTable c.licenses c.idWidth (c.listing .plain).flatten := by
  have hformed : ∀ l ∈ c.licenses, l.WellFormed := by
    intro l hl
    obtain ⟨source, hs⟩ := hc l hl
    exact License.wellFormed_of_parse hs
  have hended : ∀ line ∈ c.listing .plain, line.IsLine := by
    intro line hline
    rcases List.mem_cons.1 hline with rfl | hline
    · exact c.isLine_heading
    · obtain ⟨l, hl, rfl⟩ := List.mem_map.1 hline
      exact isLine_row (hformed l hl) c.idWidth
  have hlines : Text.lines (c.listing .plain).flatten = c.listing .plain :=
    Text.lines_flatten hended
  refine ⟨Output.putAll_unbounded _, ?_⟩
  exact
    { wide := fun l => length_encode_id_le_idWidth
      narrow := exists_length_encode_id_eq_idWidth
      ordered := c.sorted
      count := by rw [hlines, listing, List.length_cons, List.length_map]
      ended := by rwa [hlines]
      rows := by
        refine ⟨c.licenses.map (row .plain c.idWidth), hlines, ?_⟩
        rw [List.forall₂_map_right_iff, List.forall₂_same]
        exact fun l hl => isRow_row (length_id_le_idWidth hl) }

/-- Two ids of three bytes, of which one has three characters and the other one. -/
theorem listing_columns_wide :
    let c := (Catalog.empty.insert { id := "€".toList, name := "b".toList }).insert
      { id := "mit".toList, name := "c".toList }
    (∀ l ∈ c.licenses, ∃ source, License.parse source = .ok l) ∧
      (c.listing .plain).flatten =
        "Available licenses (2):\n  mit  c\n  €    b\n".toList ∧
      IsTable c.licenses c.idWidth (c.listing .plain).flatten := by
  intro c
  have hc : ∀ l ∈ c.licenses, ∃ source, License.parse source = .ok l := by
    have hlist : c.licenses = [{ id := "mit".toList, name := "c".toList },
        { id := "€".toList, name := "b".toList }] := by decide +kernel
    intro l hl
    simp only [hlist, List.mem_cons, List.not_mem_nil, or_false] at hl
    rcases hl with rfl | rfl
    · exact ⟨"id: mit\nname: c\n---".toList, by decide +kernel⟩
    · exact ⟨"id: €\nname: b\n---".toList, by decide +kernel⟩
  exact ⟨hc, by decide +kernel, (listing_columns c hc).2⟩

end Catalog

end LicenseForge
