import LicenseForge.Proofs.Template.Reading

/-!
# Licenses that a template can describe

* `License.WellFormed` : what is true of every license that comes from a template.
* `License.source` : the canonical template of a license.
* `License.parse_source` : a license that is well-formed comes back from its canonical template.
* `License.parse_image` : the licenses that templates describe are exactly the well-formed ones.
-/

namespace LicenseForge

/-- A text on one line that trimming leaves as it is. -/
def Text.IsTidy (t : Text) : Prop := '\n' ∉ t ∧ t.trim = t

/-- The first line of a text is not blank, unless the text is empty. -/
def Text.FirstLineFull (t : Text) : Prop := ∀ line ∈ t.lines.head?, ¬line.AllBlank

/-- What is true of a license that comes from a template. -/
structure License.WellFormed (l : License) : Prop where
  /-- There is an id. -/
  id_ne_nil : l.id ≠ []
  /-- There is a name. -/
  name_ne_nil : l.name ≠ []
  /-- The id is on one line. -/
  id_tidy : l.id.IsTidy
  /-- The name is on one line. -/
  name_tidy : l.name.IsTidy
  /-- The description is on one line. -/
  description_tidy : l.description.IsTidy
  /-- The identifier in the SPDX list, if there is one, is not empty and on one line. -/
  spdx_tidy : ∀ t ∈ l.spdx, t ≠ [] ∧ t.IsTidy
  /-- The kind of license, if there is one, is not empty and on one line. -/
  category_tidy : ∀ t ∈ l.category, t ≠ [] ∧ t.IsTidy
  /-- The items are not empty, and each is on one line. -/
  items_tidy : ∀ s, ∀ t ∈ l.items s, t ≠ [] ∧ t.IsTidy
  /-- No blanks end the text. -/
  text_endsFull : l.text.EndsFull
  /-- No blank line begins the text. -/
  text_firstLineFull : l.text.FirstLineFull

namespace Text

theorem isTidy_nil : IsTidy [] := ⟨List.not_mem_nil, rfl⟩

theorem isTidy_trim_of_infix {t u : Text} (ht : '\n' ∉ t) (h : u <:+: t) : IsTidy u.trim :=
  ⟨fun hm => ht (h.subset (mem_of_mem_trim hm)), trim_trim u⟩

end Text

/-! ### What a template describes is well-formed -/

namespace HeaderLine

theorem isTidy_of_says_entry {source line key value : Text} (hl : line ∈ source.lines)
    (h : Says line (.entry key value)) : value.IsTidy := by
  obtain ⟨-, a, b, hab, -, -, rfl⟩ := h
  refine Text.isTidy_trim_of_infix (Text.newline_not_mem_trim_of_mem_lines hl) ?_
  exact ⟨a ++ [':'], [], by simp [hab]⟩

theorem isTidy_of_says_item {source line text : Text} (hl : line ∈ source.lines)
    (h : Says line (.item text)) : text ≠ [] ∧ text.IsTidy := by
  obtain ⟨u, hu, rfl⟩ := h
  refine ⟨fun hn => ?_, Text.isTidy_trim_of_infix (Text.newline_not_mem_trim_of_mem_lines hl)
    ⟨bullet, [], by simp [hu]⟩⟩
  -- an item of blanks would leave a blank at the end of the trimmed line
  have hb := Text.trim_eq_nil_iff.1 hn
  have he : (bullet ++ u).EndsFull := hu ▸ (Text.isTrimmed_trim line).2
  have hsp : Text.AllBlank (' ' :: u) := Text.allBlank_cons.2 ⟨by decide, hb⟩
  have hs : Text.EndsFull (['-'] ++ ' ' :: u) := he
  rw [Text.endsFull_append (List.cons_ne_nil _ _)] at hs
  exact List.cons_ne_nil _ _ (Text.eq_nil_of_allBlank_of_endsFull hsp hs)

end HeaderLine

namespace Header

variable {hs : List HeaderLine}

theorem value_eq_nil_or_mem (hs : List HeaderLine) (key : Text) :
    value hs key = [] ∨ ∃ k, .entry k (value hs key) ∈ hs := by
  induction hs using List.reverseRecOn with
  | nil => exact .inl rfl
  | append_singleton hs h ih =>
    have hold : value hs key = [] ∨ ∃ k, .entry k (value hs key) ∈ hs ++ [h] := by
      rcases ih with ih | ⟨k, ih⟩
      · exact .inl ih
      · exact .inr ⟨k, List.mem_append_left _ ih⟩
    cases h with
    | item text => simpa using hold
    | idle => simpa using hold
    | entry k v =>
      rw [value_concat_entry]
      split
      · exact .inr ⟨k, by simp⟩
      · exact hold

theorem mem_of_mem_items {key t : Text} (h : t ∈ items hs key) : .item t ∈ hs := by
  obtain ⟨n, -, hn⟩ := List.mem_filterMap.1 h
  split at hn
  next text hget =>
    split at hn
    · obtain rfl := Option.some.inj hn
      exact List.mem_of_getElem? hget
    · cases hn
  next => cases hn

theorem items_license (hs : List HeaderLine) (text : Text) (s : Section) :
    (license hs text).items s = items hs s.key := by
  cases s <;> rfl

end Header

theorem Text.mem_nonempty?_iff {t u : Text} : u ∈ t.nonempty? ↔ t ≠ [] ∧ t = u := by
  cases t <;> simp [Text.nonempty?]

namespace Template

theorem firstLineFull_of_isBody {source text : Text} {before rest : List Text}
    (hl : source.lines = before ++ rest) (hb : IsBody rest text) : text.FirstLineFull := by
  obtain ⟨lead, kept, trail, rfl, hk, -, hf, -, he⟩ := hb
  have hkept : Text.lines kept.flatten = kept := by
    rw [← List.append_assoc] at hl
    exact Text.lines_flatten_of_lines_eq_append hl
  rw [hk] at hkept
  intro line hline hblank
  -- the first line of the text is the first line that is kept, up to its end
  induction text using Text.lines_induction with
  | nil => cases hline
  | tail u hu hne =>
    rw [Text.lines_tail hu hne] at hline
    obtain rfl := Option.some.inj hline
    exact hne (Text.eq_nil_of_allBlank_of_endsFull hblank he)
  | line u t hu =>
    rw [Text.lines_line hu] at hline
    rw [List.append_assoc, List.cons_append, Text.lines_line hu] at hkept
    rw [← hkept] at hf
    exact hf line hline hblank

end Template

namespace License

theorem wellFormed_of_says {source : Text} {l : License} (h : Template.Says source (.ok l)) :
    l.WellFormed := by
  cases h with
  | @license header rest hs text split read id body =>
    obtain rfl := HeaderLine.forall₂_says_iff.1 read
    obtain ⟨sep, hlines, -, -⟩ := split
    have hmem {h : HeaderLine} (hm : h ∈ header.map HeaderLine.ofText) :
        ∃ line ∈ source.lines, HeaderLine.Says line h := by
      obtain ⟨line, hl, rfl⟩ := List.mem_map.1 hm
      exact ⟨line, hlines ▸ List.mem_append_left _ hl, HeaderLine.says_ofText line⟩
    have hvalue (key : Text) : (Header.value (header.map .ofText) key).IsTidy := by
      rcases Header.value_eq_nil_or_mem (header.map .ofText) key with hn | ⟨k, hm⟩
      · exact hn ▸ Text.isTidy_nil
      · obtain ⟨line, hl, hsays⟩ := hmem hm
        exact HeaderLine.isTidy_of_says_entry hl hsays
    have hopt (key : Text) : ∀ t ∈ (Header.value (header.map .ofText) key).nonempty?,
        t ≠ [] ∧ t.IsTidy := by
      intro t ht
      obtain ⟨hne, rfl⟩ := Text.mem_nonempty?_iff.1 ht
      exact ⟨hne, hvalue key⟩
    exact
      { id_ne_nil := id
        name_ne_nil := by
          simp only [Header.license]
          split <;> assumption
        id_tidy := hvalue _
        name_tidy := by
          simp only [Header.license]
          split
          · exact hvalue _
          · exact hvalue _
        description_tidy := hvalue _
        spdx_tidy := hopt _
        category_tidy := hopt _
        items_tidy := fun s t ht => by
          rw [Header.items_license] at ht
          obtain ⟨line, hl, hsays⟩ := hmem (Header.mem_of_mem_items ht)
          exact HeaderLine.isTidy_of_says_item hl hsays
        text_endsFull := by
          obtain ⟨lead, kept, trail, -, -, -, -, -, he⟩ := body
          exact he
        text_firstLineFull := by
          have hl : source.lines = (header ++ [sep]) ++ rest := by simp [hlines]
          exact Template.firstLineFull_of_isBody hl body }

theorem wellFormed_of_parse {source : Text} {l : License} (h : parse source = .ok l) :
    l.WellFormed :=
  wellFormed_of_says (h ▸ says_parse source)

end License

/-! ### The canonical template -/

namespace Template

/-- The line of a key with its value. -/
def keyLine (key value : Text) : Text := key ++ ": ".toList ++ value ++ ['\n']

/-- The line of an item. -/
def itemLine (item : Text) : Text := "  - ".toList ++ item ++ ['\n']

/-- The line that opens a section. -/
def sectionLine (s : Section) : Text := s.key ++ [':', '\n']

end Template

namespace License

/-- The value of a key, if the license has one. -/
def scalar? (l : License) : Scalar → Option Text
  | .id => some l.id
  | .name => some l.name
  | .description => l.description.nonempty?
  | .spdx => l.spdx
  | .category => l.category

/-- The header of the canonical template: the keys that have a value, then the three sections. -/
def headerLines (l : License) : List Text :=
  ([.id, .name, .description, .spdx, .category].flatMap fun s : Scalar =>
    ((l.scalar? s).map (Template.keyLine s.key)).toList) ++
  [.permissions, .conditions, .limitations].flatMap fun s : Section =>
    Template.sectionLine s :: (l.items s).map Template.itemLine

/-- The canonical template of a license. -/
def source (l : License) : Text :=
  l.headerLines.flatten ++ (Template.separator ++ '\n' :: l.text)

/-- What the header of the canonical template says. -/
def header (l : License) : List HeaderLine :=
  ([.id, .name, .description, .spdx, .category].flatMap fun s : Scalar =>
    ((l.scalar? s).map (HeaderLine.entry s.key)).toList) ++
  [.permissions, .conditions, .limitations].flatMap fun s : Section =>
    .entry s.key [] :: (l.items s).map .item

end License

/-! ### What its lines say -/

namespace Template

theorem isLine_keyLine {key value : Text} (hk : '\n' ∉ key) (hv : '\n' ∉ value) :
    (keyLine key value).IsLine :=
  ⟨key ++ ": ".toList ++ value, rfl, by simp [hk, hv]⟩

theorem isLine_itemLine {item : Text} (h : '\n' ∉ item) : (itemLine item).IsLine :=
  ⟨"  - ".toList ++ item, rfl, by simp [h]⟩

/-- The word of a key: it is read as it is written, and begins no item and no separator. -/
def IsKey (key : Text) : Prop :=
  key ≠ [] ∧ key.StartsFull ∧ ':' ∉ key ∧ '\n' ∉ key ∧ key.head? ≠ some '-' ∧
    key.trim.lowercaseAscii = key

instance (key : Text) : Decidable (IsKey key) := inferInstanceAs (Decidable (_ ∧ _))

theorem isKey_scalar (s : Scalar) : IsKey s.key := by
  cases s <;> decide

theorem isKey_section (s : Section) : IsKey s.key := by
  cases s <;> decide

theorem ofText_key {key : Text} (h : IsKey key) (t : Text) :
    HeaderLine.ofText (key ++ ':' :: t) = .entry key t.trim := by
  obtain ⟨hne, hs, hc, -, hh, hl⟩ := h
  have ht : Text.trim (key ++ ':' :: t) = key ++ ':' :: t.trimEnd :=
    Text.trim_append_cons hs hne (by decide) t
  refine HeaderLine.ofText_eq_of_says ⟨?_, key, t.trimEnd, ht, hc, hl.symm, by simp⟩
  rw [ht]
  rintro ⟨u, hu⟩
  obtain ⟨c, k, rfl⟩ := List.exists_cons_of_ne_nil hne
  exact hh (congrArg some (List.cons.inj hu).1.symm)

theorem ofText_keyLine {key value : Text} (hk : IsKey key) (hv : value.IsTidy) :
    HeaderLine.ofText (keyLine key value) = .entry key value := by
  have hb : Text.AllBlank [' '] ∧ Text.AllBlank ['\n'] := by decide
  have ht : Text.trim ([' '] ++ value ++ ['\n']) = value := by
    rw [Text.trim_append_of_allBlank hb.2, Text.trim_append_left_of_allBlank hb.1, hv.2]
  have := ofText_key hk ([' '] ++ value ++ ['\n'])
  rw [ht] at this
  rw [← this, keyLine]
  congr 1
  simp

theorem ofText_sectionLine (s : Section) :
    HeaderLine.ofText (sectionLine s) = .entry s.key [] :=
  ofText_key (isKey_section s) ['\n']

theorem ofText_itemLine {item : Text} (hne : item ≠ []) (h : item.IsTidy) :
    HeaderLine.ofText (itemLine item) = .item item := by
  have hb : Text.AllBlank "  ".toList ∧ Text.AllBlank ['\n'] := by decide
  have ht : (itemLine item).trim = HeaderLine.bullet ++ item := by
    refine Text.trim_eq_iff.2 ⟨"  ".toList, ['\n'], rfl, hb.1, hb.2, ?_, ?_⟩
    · exact Text.startsFull_cons.2 (by decide)
    · exact (Text.endsFull_append hne).2 (Text.trim_eq_self_iff.1 h.2).2
  exact HeaderLine.ofText_eq_of_says ⟨item, ht, h.2.symm⟩

end Template

namespace Header

/-- The parts that a header names have their new values, the others keep what they had. -/
theorem value_append_scalars (f : Scalar → Option Text) (ss : List Scalar) (s : Scalar)
    (hs : List HeaderLine) :
    value (hs ++ ss.flatMap fun s => ((f s).map (HeaderLine.entry s.key)).toList) s.key
      = if s ∈ ss then (f s).getD (value hs s.key) else value hs s.key := by
  induction ss generalizing hs with
  | nil => simp
  | cons s' ss ih =>
    have hstep : value (hs ++ ((f s').map (HeaderLine.entry s'.key)).toList) s.key
        = if s = s' then (f s').getD (value hs s.key) else value hs s.key := by
      cases f s' <;> simp
    rw [List.flatMap_cons, ← List.append_assoc, ih, hstep]
    by_cases h : s = s'
    · subst h
      cases f s <;> simp
    · simp [h]

theorem items_append_scalars (f : Scalar → Option Text) (ss : List Scalar) (key : Text)
    (hs : List HeaderLine) :
    items (hs ++ ss.flatMap fun s => ((f s).map (HeaderLine.entry s.key)).toList) key
      = items hs key := by
  induction ss generalizing hs with
  | nil => simp
  | cons s' ss ih =>
    rw [List.flatMap_cons, ← List.append_assoc, ih]
    cases f s' <;> simp

/-- Items change no value, and all belong to the last key before them. -/
theorem append_items (hs : List HeaderLine) (its : List Text) :
    lastKey? (hs ++ its.map .item) = lastKey? hs ∧
      (∀ key, value (hs ++ its.map .item) key = value hs key) ∧
      ∀ key, items (hs ++ its.map .item) key
        = items hs key ++ if lastKey? hs = some key then its else [] := by
  induction its using List.reverseRecOn with
  | nil => simp
  | append_singleton its item ih =>
    obtain ⟨hl, hv, hi⟩ := ih
    rw [List.map_append, List.map_singleton, ← List.append_assoc]
    refine ⟨by rw [lastKey?_concat_item, hl], fun key => by rw [value_concat_item, hv], ?_⟩
    intro key
    rw [items_concat_item, hl, hi, List.append_assoc]
    split <;> simp

theorem value_append_sections (f : Section → List Text) (ss : List Section) (s : Scalar)
    (hs : List HeaderLine) :
    value (hs ++ ss.flatMap fun s => .entry s.key [] :: (f s).map .item) s.key
      = value hs s.key := by
  induction ss generalizing hs with
  | nil => simp
  | cons s' ss ih =>
    rw [List.flatMap_cons, ← List.append_assoc, ih, List.append_cons, (append_items _ _).2.1,
      value_concat_entry, if_neg (s.key_ne_section_key s')]

/-- Each section gets the items that stand under its key. -/
theorem items_append_sections (f : Section → List Text) (ss : List Section) (s : Section)
    (hs : List HeaderLine) :
    items (hs ++ ss.flatMap fun s => .entry s.key [] :: (f s).map .item) s.key
      = items hs s.key ++ ss.flatMap fun s' => if s' = s then f s' else [] := by
  induction ss generalizing hs with
  | nil => simp
  | cons s' ss ih =>
    have hstep : items (hs ++ .entry s'.key [] :: (f s').map .item) s.key
        = items hs s.key ++ if s' = s then f s' else [] := by
      rw [List.append_cons, (append_items _ _).2.2, items_concat_entry, lastKey?_concat_entry]
      simp
    rw [List.flatMap_cons, ← List.append_assoc, ih, hstep, List.flatMap_cons, List.append_assoc]

end Header

namespace License

variable {l : License}

theorem WellFormed.scalar_tidy (h : l.WellFormed) (s : Scalar) :
    ∀ v ∈ l.scalar? s, v.IsTidy := by
  cases s with
  | id => simpa [scalar?] using h.id_tidy
  | name => simpa [scalar?] using h.name_tidy
  | description =>
    intro v hv
    obtain ⟨-, rfl⟩ := Text.mem_nonempty?_iff.1 hv
    exact h.description_tidy
  | spdx => exact fun v hv => (h.spdx_tidy v hv).2
  | category => exact fun v hv => (h.category_tidy v hv).2

/-- The header of the canonical template says what it was written for. -/
theorem WellFormed.map_ofText_headerLines (h : l.WellFormed) :
    l.headerLines.map .ofText = l.header := by
  rw [headerLines, header, List.map_append, List.map_flatMap, List.map_flatMap]
  congr 1
  · refine List.flatMap_congr fun s _ => ?_
    cases hv : l.scalar? s with
    | none => rfl
    | some v =>
      have := Template.ofText_keyLine (Template.isKey_scalar s) (h.scalar_tidy s v hv)
      simpa using this
  · refine List.flatMap_congr fun s _ => ?_
    rw [List.map_cons, Template.ofText_sectionLine, List.map_map]
    congr 1
    refine List.map_congr_left fun item hi => ?_
    obtain ⟨hne, ht⟩ := h.items_tidy s item hi
    exact Template.ofText_itemLine hne ht

theorem WellFormed.isLine_of_mem_headerLines (h : l.WellFormed) {line : Text}
    (hl : line ∈ l.headerLines) : line.IsLine ∧ line.head? ≠ some '-' := by
  rcases List.mem_append.1 hl with hl | hl
  · obtain ⟨s, -, hl⟩ := List.mem_flatMap.1 hl
    obtain ⟨v, hv, rfl⟩ := Option.map_eq_some_iff.1 (Option.mem_toList.1 hl)
    obtain ⟨hne, -, -, hn, hh, -⟩ := Template.isKey_scalar s
    refine ⟨Template.isLine_keyLine hn (h.scalar_tidy s v hv).1, ?_⟩
    simpa [Template.keyLine, List.head?_append_of_ne_nil _ hne] using hh
  · obtain ⟨s, -, hl⟩ := List.mem_flatMap.1 hl
    rcases List.mem_cons.1 hl with rfl | hl
    · obtain ⟨hne, -, -, hn, hh, -⟩ := Template.isKey_section s
      refine ⟨⟨s.key ++ [':'], by simp [Template.sectionLine], by simp [hn]⟩, ?_⟩
      simpa [Template.sectionLine, List.head?_append_of_ne_nil _ hne] using hh
    · obtain ⟨item, hi, rfl⟩ := List.mem_map.1 hl
      exact ⟨Template.isLine_itemLine (h.items_tidy s item hi).2.1, fun hc => by cases hc⟩

/-- A license is what its header and its text describe. -/
theorem WellFormed.license_header (h : l.WellFormed) : Header.license l.header l.text = l := by
  -- the keys of the sections are no keys of a value, and each section is opened once
  have hv (s : Scalar) : Header.value l.header s.key = (l.scalar? s).getD [] := by
    rw [header, Header.value_append_sections, ← List.nil_append (List.flatMap _ _),
      Header.value_append_scalars]
    cases s <;> rfl
  have hi (s : Section) : Header.items l.header s.key = l.items s := by
    rw [header, Header.items_append_sections, ← List.nil_append (List.flatMap _ (_ :: _)),
      Header.items_append_scalars]
    cases s <;> simp [Header.items]
  -- an empty identifier or kind would be read as none
  have hnonempty {o : Option Text} (ho : ∀ t ∈ o, t ≠ [] ∧ t.IsTidy) :
      (o.getD []).nonempty? = o := by
    cases o with
    | none => rfl
    | some t => exact Text.mem_nonempty?_iff.2 ⟨(ho t rfl).1, rfl⟩
  have hd : (l.description.nonempty?).getD [] = l.description := by
    cases l.description <;> rfl
  simp only [Header.license, hv, hi, scalar?, items, Option.getD_some, if_neg h.name_ne_nil,
    hnonempty h.spdx_tidy, hnonempty h.category_tidy, hd]

theorem WellFormed.splitsInto_source (h : l.WellFormed) :
    Template.SplitsInto l.source.lines l.headerLines l.text.lines := by
  rw [source]
  exact Template.splitsInto_append fun line hl => h.isLine_of_mem_headerLines hl

theorem WellFormed.isBody_text (h : l.WellFormed) : Template.IsBody l.text.lines l.text :=
  ⟨[], l.text.lines, [], rfl, by rw [Text.flatten_lines, List.append_nil], by simp,
    h.text_firstLineFull, Text.allBlank_nil, h.text_endsFull⟩

/-- **Round trip.** A well-formed license comes back from its canonical template. -/
theorem parse_source (h : l.WellFormed) : parse l.source = .ok l := by
  have hid : Header.value l.header Scalar.id.key ≠ [] := by
    have : Header.value l.header Scalar.id.key = l.id := congrArg License.id h.license_header
    exact this ▸ h.id_ne_nil
  have hs := Template.Says.license h.splitsInto_source
    (HeaderLine.forall₂_says_iff.2 h.map_ofText_headerLines) hid h.isBody_text
  rw [h.license_header] at hs
  exact parse_eq_of_says hs

/-- **The licenses that templates describe are the well-formed ones.** -/
theorem parse_image :
    (∀ source l, parse source = .ok l → l.WellFormed) ∧
      ∀ l : License, l.WellFormed → parse l.source = .ok l :=
  ⟨fun source _ h => wellFormed_of_says (h ▸ says_parse source), fun _ h => parse_source h⟩

/-- A license that looks like a template itself. -/
theorem parse_image_nested :
    let l : License :=
      { id := "- a".toList, name := "id: b".toList, category := some "---".toList,
        conditions := ["- c".toList, "limitations:".toList], text := "---\r\n\n  - d".toList }
    let t : Text :=
      (" ID:  - a \r\nname : id: b\nnote\ncategory:---\nconditions: e\n- - c\n\n" ++
        "\t- limitations:\n---\r\n \n---\r\n\n  - d \n").toList
    (parse t = .ok l ∧ l.WellFormed) ∧ parse l.source = .ok l := by
  intro l t
  have ht : parse t = .ok l := by decide +kernel
  have hl : l.WellFormed := parse_image.1 t l ht
  exact ⟨⟨ht, hl⟩, parse_image.2 l hl⟩

end License

end LicenseForge
