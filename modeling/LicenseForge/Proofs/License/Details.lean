import LicenseForge.License.Details
import LicenseForge.Proofs.Stream.Writing
import LicenseForge.Proofs.Template.Canonical
import LicenseForge.Proofs.Year

/-!
# What the details of a license tell

The details are plain lines of text, and a name, a description or an item may look like any of them.
Still they can be read in one way only: where a line stands tells what it is, and an empty line or
the start of a line tells where a block of lines ends.

* `License.SameDetails` : two licenses do not differ in what the details are meant to show.
* `License.block_inj`, `License.sections_inj` : optional lines and sections are told apart.
* `License.details_unique` : licenses that templates describe have the same details just if they do
  not differ in what these are meant to show.
-/

namespace LicenseForge

/-- The line of the title of a section. -/
def Section.titleLine (s : Section) : Text := s.title ++ ['\n']

/-- The line of an item. -/
def Section.itemLine (s : Section) (item : Text) : Text :=
  "  ".toList ++ s.icon :: ' ' :: item ++ ['\n']

/-- A character that of the two flags for the placeholders only one has. -/
def Placeholder.sign : Placeholder → Char
  | holder => '"'
  | year => 'y'

namespace License

/-- What the details are meant to show is the same. -/
structure SameDetails (l l' : License) : Prop where
  /-- The ids are the same. -/
  id : l.id = l'.id
  /-- The names are the same. -/
  name : l.name = l'.name
  /-- The identifiers in the SPDX list are the same. -/
  spdx : l.spdx = l'.spdx
  /-- The kinds of license are the same. -/
  category : l.category = l'.category
  /-- The same items are in the same section and in the same order. -/
  items (s : Section) : l.items s = l'.items s
  /-- The same is left open. -/
  needs (p : Placeholder) : l.needs p = l'.needs p
  /-- The descriptions are the same, but for an empty one that is shown as if it were the text that
  stands for it. -/
  description : l.description = l'.description ∨
    l.description = [] ∧ l'.description = noDescription ∨
    l.description = noDescription ∧ l'.description = []

variable {l l' : License} {now : Int}

/-! ### Blocks of lines -/

/-- Lines of one kind end where a line of another kind begins what stands behind them. -/
theorem block_inj {f : Text → Text} (hf : Function.Injective f) {xs ys rest rest' : List Text}
    (hrest : ∀ x, rest.head? ≠ some (f x)) (hrest' : ∀ x, rest'.head? ≠ some (f x))
    (h : xs.map f ++ rest = ys.map f ++ rest') : xs = ys ∧ rest = rest' := by
  induction xs generalizing ys with
  | nil =>
    cases ys with
    | nil => exact ⟨rfl, h⟩
    | cons y ys =>
      have hhead : rest.head? = some (f y) := congrArg List.head? h
      exact absurd hhead (hrest y)
  | cons x xs ih =>
    cases ys with
    | nil =>
      have hhead : rest'.head? = some (f x) := congrArg List.head? h.symm
      exact absurd hhead (hrest' x)
    | cons y ys =>
      obtain ⟨hxy, htail⟩ := List.cons.inj h
      obtain ⟨hxs, hr⟩ := ih htail
      exact ⟨by rw [hf hxy, hxs], hr⟩

theorem property_plain (label : String) (gap : Nat) (value : Text) :
    property .plain label gap value =
      "  ".toList ++ label.toList ++ List.replicate gap ' ' ++ value ++ ['\n'] := by
  unfold property
  simp [Palette.plain]

theorem property_injective (label : String) (gap : Nat) :
    Function.Injective (property .plain label gap) := by
  intro v v' h
  rw [property_plain, property_plain] at h
  exact List.append_cancel_left (List.append_cancel_right h)

theorem itemLine_injective (s : Section) : Function.Injective s.itemLine := by
  intro t t' h
  simpa [Section.itemLine] using h

/-! ### Sections -/

theorem sectionLines_plain (l : License) (s : Section) :
    l.sectionLines .plain s =
      if (l.items s).isEmpty then [] else ['\n'] :: s.titleLine :: (l.items s).map s.itemLine := by
  have hcolor : s.color .plain = [] := by cases s <;> rfl
  unfold sectionLines
  rw [hcolor]
  congr 1
  simp [Section.titleLine, Section.itemLine, Palette.plain]

/-- What stands behind some sections begins with an empty line, and then comes the title of another
section or the last line of the details. -/
theorem exists_sections_start (l : License) (ss : List Section) (last : Text) :
    ∃ line rest, ss.flatMap (l.sectionLines .plain) ++ [['\n'], last] = ['\n'] :: line :: rest ∧
      (line = last ∨ ∃ s ∈ ss, line = s.titleLine) := by
  induction ss with
  | nil => exact ⟨last, [], rfl, .inl rfl⟩
  | cons s ss ih =>
    rw [List.flatMap_cons, sectionLines_plain]
    split
    · obtain ⟨line, rest, hstart, hline⟩ := ih
      refine ⟨line, rest, hstart, hline.imp_right ?_⟩
      exact fun ⟨s', hs', he⟩ => ⟨s', List.mem_cons_of_mem _ hs', he⟩
    · exact ⟨s.titleLine, _, rfl, .inr ⟨s, List.mem_cons_self, rfl⟩⟩

/-- The items of a section end where the next section or the last line begins. -/
theorem head?_sections_ne_itemLine (l : License) (ss : List Section) (last : Text) (s : Section)
    (item : Text) :
    (ss.flatMap (l.sectionLines .plain) ++ [['\n'], last]).head? ≠ some (s.itemLine item) := by
  obtain ⟨line, rest, hstart, -⟩ := l.exists_sections_start ss last
  rw [hstart]
  simp [Section.itemLine]

/-- A section that is shown is not mistaken for one behind it. -/
theorem sections_ne {s : Section} {ss : List Section} {last : Text} (hs : s ∉ ss)
    (hlast : ∀ s : Section, s.titleLine ≠ last) (l : License) (lines : List Text) :
    ['\n'] :: s.titleLine :: lines ≠ ss.flatMap (l.sectionLines .plain) ++ [['\n'], last] := by
  intro h
  obtain ⟨line, rest, hstart, hline⟩ := l.exists_sections_start ss last
  have htitle : s.titleLine = line := by
    rw [hstart] at h
    exact (List.cons.inj (List.cons.inj h).2).1
  rcases hline with rfl | ⟨s', hs', rfl⟩
  · exact hlast s htitle
  · have he : s = s' := by
      cases s <;> cases s' <;> first | rfl | exact absurd htitle (by decide)
    exact hs (he ▸ hs')

theorem sections_inj {ss : List Section} {last last' : Text} (hss : ss.Nodup)
    (hlast : ∀ s : Section, s.titleLine ≠ last) (hlast' : ∀ s : Section, s.titleLine ≠ last')
    (h : ss.flatMap (l.sectionLines .plain) ++ [['\n'], last] =
      ss.flatMap (l'.sectionLines .plain) ++ [['\n'], last']) :
    (∀ s ∈ ss, l.items s = l'.items s) ∧ last = last' := by
  induction ss with
  | nil => exact ⟨fun s hs => absurd hs List.not_mem_nil, by simpa using h⟩
  | cons s ss ih =>
    obtain ⟨hs, hss⟩ := List.nodup_cons.1 hss
    rw [List.flatMap_cons, List.flatMap_cons, sectionLines_plain, sectionLines_plain] at h
    by_cases hl : (l.items s).isEmpty
    · by_cases hl' : (l'.items s).isEmpty
      · rw [if_pos hl, if_pos hl'] at h
        obtain ⟨hitems, he⟩ := ih hss h
        have hempty : l.items s = l'.items s := by
          rw [List.isEmpty_iff.1 hl, List.isEmpty_iff.1 hl']
        exact ⟨List.forall_mem_cons.2 ⟨hempty, hitems⟩, he⟩
      · rw [if_pos hl, if_neg hl'] at h
        exact absurd h.symm (sections_ne hs hlast l _)
    · by_cases hl' : (l'.items s).isEmpty
      · rw [if_neg hl, if_pos hl'] at h
        exact absurd h (sections_ne hs hlast' l' _)
      · rw [if_neg hl, if_neg hl'] at h
        simp only [List.cons_append, List.append_assoc, List.cons.injEq, true_and] at h
        obtain ⟨hs', hrest⟩ := block_inj (itemLine_injective s)
          (l.head?_sections_ne_itemLine ss last s) (l'.head?_sections_ne_itemLine ss last' s) h
        obtain ⟨hitems, he⟩ := ih hss hrest
        exact ⟨List.forall_mem_cons.2 ⟨hs', hitems⟩, he⟩

/-! ### Properties -/

/-- The line of a property begins with its label. -/
theorem property_ne {label label' : String} {gap gap' : Nat}
    (h : label.toList.head? ≠ label'.toList.head?) (hne : label.toList ≠ [])
    (hne' : label'.toList ≠ []) (v v' : Text) :
    property .plain label gap v ≠ property .plain label' gap' v' := by
  intro he
  rw [property_plain, property_plain] at he
  simp only [List.append_assoc] at he
  have hhead := congrArg List.head? (List.append_cancel_left he)
  rw [List.head?_append_of_ne_nil _ hne, List.head?_append_of_ne_nil _ hne'] at hhead
  exact h hhead

theorem property_ne_empty (label : String) (gap : Nat) (v : Text) :
    property .plain label gap v ≠ ['\n'] := by
  intro he
  rw [property_plain] at he
  simp at he

/-! ### The last line -/

/-- The flags of the command in the last line. -/
def sampleFlags (l : License) (now : Int) : Text :=
  (if l.needs .holder then " --name \"".toList ++ "Your Name".toList ++ ['"'] else []) ++
    if l.needs .year then " --year ".toList ++ Year.format now else []

/-- The last line of the details. -/
def usageLine (l : License) (now : Int) : Text :=
  "Usage: ".toList ++ l.invocation (l.sampleFilling now) ++ ['\n']

theorem invocation_sampleFilling (l : License) (now : Int) :
    l.invocation (l.sampleFilling now) = programName ++ ' ' :: l.id ++ l.sampleFlags now := by
  unfold invocation sampleFilling sampleFlags
  cases l.needs .holder <;> cases l.needs .year <;>
    simp only [Bool.false_eq_true, if_false, if_true, List.append_assoc, List.append_nil,
      List.nil_append]

theorem notMem_format {c : Char} (hc : ¬(c.isDigit ∨ c = '-')) (year : Int) :
    c ∉ Year.format year :=
  fun h => hc ((Year.isNumeral_format year).2 c h)

theorem sign_mem_sampleFlags_iff (l : License) (now : Int) (p : Placeholder) :
    p.sign ∈ l.sampleFlags now ↔ l.needs p := by
  have hquote : '"' ∉ Year.format now := notMem_format (by decide) now
  have hy : 'y' ∉ Year.format now := notMem_format (by decide) now
  unfold sampleFlags
  cases p <;> cases l.needs .holder <;> cases l.needs .year <;> simp [Placeholder.sign, hquote, hy]

/-- The flags of the command tell what the text leaves open. -/
theorem needs_of_usageLine (hid : l.id = l'.id) (h : l.usageLine now = l'.usageLine now)
    (p : Placeholder) : l.needs p = l'.needs p := by
  have hcommand : l.invocation (l.sampleFilling now) = l'.invocation (l'.sampleFilling now) :=
    List.append_cancel_left (List.append_cancel_right h)
  rw [invocation_sampleFilling, invocation_sampleFilling, hid] at hcommand
  have hflags : l.sampleFlags now = l'.sampleFlags now := List.append_cancel_left hcommand
  rw [Bool.eq_iff_iff, ← sign_mem_sampleFlags_iff l now, ← sign_mem_sampleFlags_iff l' now, hflags]

theorem titleLine_ne_usageLine (l : License) (now : Int) (s : Section) :
    s.titleLine ≠ l.usageLine now := by
  intro h
  have husage : (l.usageLine now).head? = some 'U' := by
    unfold usageLine
    simp
  rw [← h] at husage
  cases s <;> exact absurd husage (by decide)

/-! ### All lines -/

/-- The description, or what stands for an empty one. -/
def shownDescription (l : License) : Text :=
  if l.description.isEmpty then noDescription else l.description

theorem details_plain (l : License) (now : Int) : l.details .plain now =
    (l.name ++ ['\n']) :: ['\n'] :: property .plain "id" 8 l.id ::
      (l.spdx.toList.map (property .plain "spdx" 6) ++
        (l.category.toList.map (property .plain "category" 2) ++
          ['\n'] :: (l.shownDescription ++ ['\n']) ::
            ([Section.permissions, .conditions, .limitations].flatMap (l.sectionLines .plain) ++
              [['\n'], l.usageLine now]))) := by
  have hoption (f : Text → Text) (o : Option Text) : (o.map f).toList = o.toList.map f := by
    cases o <;> rfl
  have hname : Palette.plain.bold ++ l.name ++ Palette.plain.reset ++ ['\n'] =
      l.name ++ ['\n'] := by
    simp [Palette.plain]
  unfold details
  rw [hoption, hoption, hname]
  simp only [List.append_assoc, List.cons_append, List.nil_append]
  rfl

theorem isLine_property {label : String} {value : Text} (hlabel : '\n' ∉ label.toList)
    (hvalue : '\n' ∉ value) (gap : Nat) : (property .plain label gap value).IsLine :=
  ⟨_, property_plain label gap value, by simp [hlabel, hvalue]⟩

theorem isLine_usageLine (hid : '\n' ∉ l.id) (now : Int) : (l.usageLine now).IsLine := by
  have hformat : '\n' ∉ Year.format now := notMem_format (by decide) now
  have hflags : '\n' ∉ l.sampleFlags now := by
    unfold sampleFlags
    cases l.needs .holder <;> cases l.needs .year <;> simp [hformat]
  have hprogram : '\n' ∉ programName := by decide
  refine ⟨_, rfl, ?_⟩
  rw [invocation_sampleFilling]
  simp [hprogram, hid, hflags]

theorem WellFormed.isLine_of_mem_sectionLines (h : l.WellFormed) {s : Section} {line : Text}
    (hline : line ∈ l.sectionLines .plain s) : line.IsLine := by
  rw [sectionLines_plain] at hline
  split at hline
  · exact absurd hline List.not_mem_nil
  · rcases List.mem_cons.1 hline with rfl | hline
    · exact ⟨[], rfl, List.not_mem_nil⟩
    · rcases List.mem_cons.1 hline with rfl | hline
      · exact ⟨_, rfl, by cases s <;> decide⟩
      · obtain ⟨item, hitem, rfl⟩ := List.mem_map.1 hline
        have hicon : '\n' ≠ s.icon := by cases s <;> decide
        exact ⟨_, rfl, by simp [hicon, (h.items_tidy s item hitem).2.1]⟩

theorem WellFormed.isLine_of_mem_details (h : l.WellFormed) {line : Text}
    (hline : line ∈ l.details .plain now) : line.IsLine := by
  have hempty : Text.IsLine ['\n'] := ⟨[], rfl, List.not_mem_nil⟩
  have hdescription : '\n' ∉ l.shownDescription := by
    unfold shownDescription
    split
    · decide
    · exact h.description_tidy.1
  rw [details_plain] at hline
  simp only [List.mem_cons, List.mem_append, List.mem_map, Option.mem_toList, List.mem_flatMap,
    List.not_mem_nil, or_false] at hline
  rcases hline with rfl | rfl | rfl | ⟨v, hv, rfl⟩ | ⟨v, hv, rfl⟩ | rfl | rfl | ⟨s, -, hs⟩ | rfl |
    rfl
  · exact ⟨l.name, rfl, h.name_tidy.1⟩
  · exact hempty
  · exact isLine_property (by decide) h.id_tidy.1 8
  · exact isLine_property (by decide) (h.spdx_tidy v hv).2.1 6
  · exact isLine_property (by decide) (h.category_tidy v hv).2.1 2
  · exact hempty
  · exact ⟨l.shownDescription, rfl, hdescription⟩
  · exact h.isLine_of_mem_sectionLines hs
  · exact hempty
  · exact isLine_usageLine h.id_tidy.1 now

/-! ### One way to read them -/

/-- Only an empty description is shown as another one would be. -/
theorem shownDescription_eq_iff : l.shownDescription = l'.shownDescription ↔
    l.description = l'.description ∨
      l.description = [] ∧ l'.description = noDescription ∨
      l.description = noDescription ∧ l'.description = [] := by
  have hne : noDescription ≠ [] := by decide
  unfold shownDescription
  simp only [List.isEmpty_iff]
  split <;> split <;> grind

/-- What begins with an empty line begins with no property. -/
theorem head?_ne_property (label : String) (gap : Nat) (rest : List Text) (v : Text) :
    (['\n'] :: rest).head? ≠ some (property .plain label gap v) := by
  intro h
  exact property_ne_empty label gap v (Option.some.inj h).symm

/-- The kind of license is not mistaken for an identifier in the SPDX list. -/
theorem head?_category_ne_spdx (o : Option Text) (rest : List Text) (v : Text) :
    (o.toList.map (property .plain "category" 2) ++ ['\n'] :: rest).head? ≠
      some (property .plain "spdx" 6 v) := by
  cases o with
  | none => exact head?_ne_property "spdx" 6 rest v
  | some w =>
    intro h
    exact property_ne (by decide) (by decide) (by decide) w v (Option.some.inj h)

theorem toList_injective {o o' : Option Text} (h : o.toList = o'.toList) : o = o' := by
  rw [← Option.head?_toList (o := o), h, Option.head?_toList]

theorem sameDetails_of_details (h : l.details .plain now = l'.details .plain now) :
    SameDetails l l' := by
  rw [details_plain, details_plain] at h
  obtain ⟨hname, h⟩ := List.cons.inj h
  obtain ⟨hid, h⟩ := List.cons.inj (List.cons.inj h).2
  have hid : l.id = l'.id := property_injective _ _ hid
  obtain ⟨hspdx, h⟩ := block_inj (property_injective _ _) (head?_category_ne_spdx _ _)
    (head?_category_ne_spdx _ _) h
  obtain ⟨hcategory, h⟩ := block_inj (property_injective _ _) (head?_ne_property _ _ _)
    (head?_ne_property _ _ _) h
  obtain ⟨hdescription, h⟩ := List.cons.inj (List.cons.inj h).2
  obtain ⟨hitems, husage⟩ := sections_inj (by decide) (l.titleLine_ne_usageLine now)
    (l'.titleLine_ne_usageLine now) h
  exact
    { id := hid
      name := List.append_cancel_right hname
      spdx := toList_injective hspdx
      category := toList_injective hcategory
      items := fun s => hitems s (by cases s <;> decide)
      needs := needs_of_usageLine hid husage
      description := shownDescription_eq_iff.1 (List.append_cancel_right hdescription) }

theorem SameDetails.details_eq (h : SameDetails l l') (now : Int) :
    l.details .plain now = l'.details .plain now := by
  have hsections (s : Section) : l.sectionLines .plain s = l'.sectionLines .plain s := by
    rw [sectionLines_plain, sectionLines_plain, h.items s]
  have husage : l.usageLine now = l'.usageLine now := by
    have hflags : l.sampleFlags now = l'.sampleFlags now := by
      unfold sampleFlags
      rw [h.needs, h.needs]
    unfold usageLine
    rw [invocation_sampleFilling, invocation_sampleFilling, h.id, hflags]
  rw [details_plain, details_plain, h.name, h.id, h.spdx, h.category,
    shownDescription_eq_iff.2 h.description, husage, funext hsections]

/-- **The details can be read in one way only.** Of two licenses that templates describe the details
without colours are the same bytes, at any year of the clock, just if the licenses do not differ in
what the details are meant to show. -/
theorem details_unique (hl : ∃ source, parse source = .ok l) (hl' : ∃ source, parse source = .ok l')
    (now : Int) :
    (({} : Output).putAll (l.details .plain now)).2.written =
        (({} : Output).putAll (l'.details .plain now)).2.written ↔
      SameDetails l l' := by
  have hlines {l : License} (h : ∃ source, parse source = .ok l) :
      Text.lines (l.details .plain now).flatten = l.details .plain now := by
    obtain ⟨source, hs⟩ := h
    exact Text.lines_flatten fun line => (wellFormed_of_parse hs).isLine_of_mem_details
  rw [Output.putAll_unbounded, Output.putAll_unbounded]
  constructor
  · intro h
    have htext := congrArg Text.lines (Text.encode_injective h)
    rw [hlines hl, hlines hl'] at htext
    exact sameDetails_of_details htext
  · intro h
    rw [h.details_eq now]

/-- A license without a description, and one that describes itself by the text that stands for an
empty description. An item looks like the last line. -/
theorem details_unique_undescribed :
    let l : License :=
      { id := "x".toList
        name := "x".toList
        permissions := ["Usage: licgen x".toList]
        text := "a".toList }
    let l' : License :=
      { l with
        description := noDescription
        text := "b".toList }
    ((∃ source, parse source = .ok l) ∧ ∃ source, parse source = .ok l') ∧
      (({} : Output).putAll (l.details .plain 2024)).2.written =
        (({} : Output).putAll (l'.details .plain 2024)).2.written ∧
      SameDetails l l' := by
  intro l l'
  have hl : ∃ source, parse source = .ok l :=
    ⟨"id: x\npermissions:\n- Usage: licgen x\n---\na".toList, by decide +kernel⟩
  have hl' : ∃ source, parse source = .ok l' :=
    ⟨("id: x\ndescription: No description available.\n" ++
      "permissions:\n- Usage: licgen x\n---\nb").toList, by decide +kernel⟩
  have hwritten : (({} : Output).putAll (l.details .plain 2024)).2.written =
      (({} : Output).putAll (l'.details .plain 2024)).2.written := by decide +kernel
  exact ⟨⟨hl, hl'⟩, hwritten, (details_unique hl hl' 2024).1 hwritten⟩

end License

end LicenseForge
