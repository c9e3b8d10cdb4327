import LicenseForge.Catalog.Listing
import LicenseForge.License.Details
import LicenseForge.Proofs.Stream.Writing

/-!
# Output that breaks off

The list of licenses, the details of a license and a text in a colour are written in many small
pieces, and each of them may be the one that there is not enough room for.

* `Catalog.writeListing`, `License.writeDetails`, `Palette.writePainted` : the pieces that are
  written, one after the other.
* `output_breaks_off` : however little room there is, the stream gets the start of the output, and
  the error of the stream is returned if that is not all of it.
-/

namespace LicenseForge

open Writing

/-! ### The list of licenses -/

namespace Catalog

/-- Writes the row of a license. -/
def writeRow (p : Palette) (width : Nat) (l : License) : Writing := do
  write "  ".toList
  write p.cyan
  write l.id
  -- the column is filled up with one blank after the other
  (List.replicate (width - l.id.length) [' ']).forM write
  line [p.reset, "  ".toList, l.name]

/-- Writes the heading and the rows of the list. -/
def writeListing (c : Catalog) (p : Palette) : Writing := do
  line ["Available licenses (".toList, Nat.toDigits 10 c.size, "):".toList]
  c.licenses.forM (writeRow p c.idWidth)

theorem emits_row (p : Palette) (width : Nat) (l : License) :
    Emits (writeRow p width l) (row p width l) := by
  have hblanks : (List.replicate (width - l.id.length) [' ']).flatMap (fun t : Text => t) =
      List.replicate (width - l.id.length) ' ' := by
    rw [List.flatMap_id', List.flatten_replicate_singleton]
  unfold writeRow row List.rightpad
  refine Emits.of_eq ((emits_write _).bind ((emits_write _).bind ((emits_write _).bind
    ((Emits.forM emits_write _).bind (emits_line _))))) ?_
  rw [hblanks]
  simp only [List.flatten_cons, List.flatten_nil, List.append_nil, List.append_assoc]

theorem emits_heading (c : Catalog) :
    Emits (line ["Available licenses (".toList, Nat.toDigits 10 c.size, "):".toList])
      c.heading := by
  have hflat (a b d : Text) : [a, b, d].flatten ++ ['\n'] = a ++ b ++ d ++ ['\n'] := by simp
  exact Emits.of_eq (emits_line _) ((hflat _ _ _).trans c.heading_eq.symm)

theorem emits_listing (c : Catalog) (p : Palette) :
    Emits (c.writeListing p) (c.listing p).flatten :=
  c.emits_heading.bind (Emits.forM (emits_row p c.idWidth) c.licenses)

end Catalog

/-! ### The details of a license -/

namespace License

/-- Writes the line of a property. -/
def writeProperty (p : Palette) (label : String) (gap : Nat) (value : Text) : Writing :=
  line ["  ".toList, p.dim, label.toList, p.reset, List.replicate gap ' ', value]

/-- Writes a section, unless it is empty. -/
def writeSection (l : License) (p : Palette) (s : Section) : Writing :=
  if (l.items s).isEmpty then pure ()
  else do
    line []
    line [p.bold, s.title, p.reset]
    (l.items s).forM fun item => line ["  ".toList, s.color p, [s.icon], p.reset, [' '], item]

/-- Writes the details of a license. -/
def writeDetails (l : License) (p : Palette) (now : Int) : Writing := do
  line [p.bold, l.name, p.reset]
  line []
  writeProperty p "id" 8 l.id
  l.spdx.toList.forM (writeProperty p "spdx" 6)
  l.category.toList.forM (writeProperty p "category" 2)
  line []
  line [if l.description.isEmpty then noDescription else l.description]
  [Section.permissions, .conditions, .limitations].forM (l.writeSection p)
  line []
  line ["Usage: ".toList, l.invocation (l.sampleFilling now)]

theorem emits_property (p : Palette) (label : String) (gap : Nat) (value : Text) :
    Emits (writeProperty p label gap value) (property p label gap value) := by
  unfold writeProperty property
  refine Emits.of_eq (emits_line _) ?_
  simp only [List.flatten_cons, List.flatten_nil, List.append_nil, List.append_assoc]

theorem emits_property? (p : Palette) (label : String) (gap : Nat) (value : Option Text) :
    Emits (value.toList.forM (writeProperty p label gap))
      (value.map (property p label gap)).toList.flatten := by
  refine Emits.of_eq (Emits.forM (emits_property p label gap) value.toList) ?_
  cases value <;> simp

theorem emits_section (l : License) (p : Palette) (s : Section) :
    Emits (l.writeSection p s) (l.sectionLines p s).flatten := by
  unfold writeSection sectionLines
  split
  · exact emits_nothing
  · refine Emits.of_eq ((emits_line _).bind ((emits_line _).bind
      (Emits.forM (fun item => emits_line _) (l.items s)))) ?_
    simp only [List.flatMap_def, List.flatten_cons, List.flatten_nil, List.append_nil,
      List.nil_append, List.append_assoc, List.cons_append]

theorem emits_sections (l : License) (p : Palette) (ss : List Section) :
    Emits (ss.forM (l.writeSection p)) (ss.flatMap (l.sectionLines p)).flatten := by
  refine Emits.of_eq (Emits.forM (l.emits_section p) ss) ?_
  simp only [List.flatMap_def, List.flatten_flatten, List.map_map]
  rfl

theorem emits_details (l : License) (p : Palette) (now : Int) :
    Emits (l.writeDetails p now) (l.details p now).flatten := by
  unfold writeDetails details
  refine Emits.of_eq ((emits_line _).bind ((emits_line _).bind ((emits_property _ _ _ _).bind
    ((emits_property? _ _ _ _).bind ((emits_property? _ _ _ _).bind ((emits_line _).bind
      ((emits_line _).bind ((l.emits_sections p _).bind ((emits_line _).bind
        (emits_line _)))))))))) ?_
  simp only [List.flatten_append, List.flatten_cons, List.flatten_nil, List.append_nil,
    List.nil_append, List.append_assoc]

end License

/-! ### A text in a colour -/

/-- Writes a text in a colour, or as it is on plain output. -/
def Palette.writePainted (p : Palette) (color text : Text) : Writing :=
  if p.isColored then do
    write color
    write text
    write p.reset
  else write text

theorem Palette.emits_painted (p : Palette) (color text : Text) :
    Emits (p.writePainted color text) (p.parts color text).flatten := by
  unfold writePainted parts
  split
  · refine Emits.of_eq ((emits_write _).bind ((emits_write _).bind (emits_write _))) ?_
    simp only [List.flatten_cons, List.flatten_nil, List.append_nil]
  · refine Emits.of_eq (emits_write _) ?_
    simp only [List.flatten_cons, List.flatten_nil, List.append_nil]

/-- **Output breaks off where the room ends.** The list of licenses, the details of a license and a
text in a colour are written to their end if there is room for all bytes. If there is not, as many
of the first bytes are written as there is room for, which may end within a character, and the error
of the stream is returned. -/
theorem output_breaks_off :
    (∀ (c : Catalog) (p : Palette), (c.writeListing p).BreaksOff (c.listing p)) ∧
      (∀ (l : License) (p : Palette) (now : Int),
        (l.writeDetails p now).BreaksOff (l.details p now)) ∧
      ∀ (p : Palette) (color text : Text),
        (p.writePainted color text).BreaksOff (p.parts color text) :=
  ⟨fun c p => (c.emits_listing p).breaksOff, fun l p now => (l.emits_details p now).breaksOff,
    fun p color text => (p.emits_painted color text).breaksOff⟩

/-- Room for the first of the two bytes of a letter. -/
example : (Palette.plain.writePainted [] "é".toList).on { room := some 1 } =
    (.error .full, { written := [0xC3], room := some 0 }) := by
  rfl

end LicenseForge
