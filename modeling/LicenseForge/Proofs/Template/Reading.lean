import LicenseForge.License.Template
import LicenseForge.Proofs.Text.Line
import Mathlib.Data.List.Forall2

/-!
# What a template says

A template is read line by line, with a license that grows and a section that is open. Here it is
read without any state: what a line contributes depends on the lines in front of it only through
the nearest key line.

* `HeaderLine.Says` : what a line of a header says.
* `Header.value`, `Header.items` : the value of the last key line with a key, and the items whose
  nearest key line has a key.
* `Template.Says` : the license that a source describes, or the error that it leads to.
* `License.parse_eq_iff_says` : both readings agree on every source.
-/

namespace LicenseForge

/-! ### Lines -/

namespace HeaderLine

/-- What a line of a header says, once the blanks around it are removed. -/
def Says (line : Text) : HeaderLine → Prop
  | item text => ∃ u : Text, line.trim = bullet ++ u ∧ text = u.trim
  | entry key value => ¬bullet <+: line.trim ∧ ∃ a b : Text, line.trim = a ++ ':' :: b ∧ ':' ∉ a ∧
      key = a.trim.lowercaseAscii ∧ value = b.trim
  | idle => ¬bullet <+: line.trim ∧ ':' ∉ line.trim

theorem says_ofText (line : Text) : Says line (ofText line) := by
  rw [ofText]
  split
  next hb =>
    obtain ⟨u, hu⟩ := List.isPrefixOf_iff_prefix.1 hb
    exact ⟨u, hu.symm, by rw [← hu, List.drop_left]⟩
  next hb =>
    have hn : ¬bullet <+: line.trim := mt List.isPrefixOf_iff_prefix.2 hb
    split
    next a b hc =>
      obtain ⟨hab, ha⟩ := Text.cut_eq_some_iff.1 hc
      exact ⟨hn, a, b, hab, ha, rfl, rfl⟩
    next hc => exact ⟨hn, Text.cut_eq_none_iff.1 hc⟩

theorem ofText_eq_of_says {line : Text} {h : HeaderLine} (hs : Says line h) : ofText line = h := by
  rw [ofText]
  cases h with
  | item text =>
    obtain ⟨u, hu, rfl⟩ := hs
    rw [if_pos (List.isPrefixOf_iff_prefix.2 ⟨u, hu.symm⟩), hu, List.drop_left]
  | entry key value =>
    obtain ⟨hn, a, b, hab, ha, rfl, rfl⟩ := hs
    rw [if_neg (mt List.isPrefixOf_iff_prefix.1 hn), Text.cut_eq_some_iff.2 ⟨hab, ha⟩]
  | idle =>
    rw [if_neg (mt List.isPrefixOf_iff_prefix.1 hs.1), Text.cut_eq_none_iff.2 hs.2]

theorem forall₂_says_iff {header : List Text} {hs : List HeaderLine} :
    List.Forall₂ Says header hs ↔ header.map ofText = hs := by
  constructor
  · intro h
    induction h with
    | nil => rfl
    | cons h _ ih => rw [List.map_cons, ofText_eq_of_says h, ih]
  · rintro rfl
    exact List.forall₂_map_right_iff.2 (List.forall₂_same.2 fun line _ => says_ofText line)

/-- The key and the value of a key line. -/
def entry? : HeaderLine → Option (Text × Text)
  | entry key value => some (key, value)
  | _ => none

end HeaderLine

/-! ### The header -/

namespace Header

/-- The keys and values of the key lines. -/
def entries (hs : List HeaderLine) : List (Text × Text) := hs.filterMap HeaderLine.entry?

/-- The value of the last key line with the key; without one it is empty. -/
def value (hs : List HeaderLine) (key : Text) : Text := ((entries hs).reverse.lookup key).getD []

/-- The key of the last key line. -/
def lastKey? (hs : List HeaderLine) : Option Text := (entries hs).getLast?.map Prod.fst

/-- The items, in order, for which the nearest key line before them has the key. -/
def items (hs : List HeaderLine) (key : Text) : List Text :=
  (List.range hs.length).filterMap fun (n : Nat) =>
    match hs[n]? with
    | some (.item text) => if lastKey? (hs.take n) = some key then some text else none
    | _ => none

/-- The license that a header and a text describe. A license without a name has its id for one. -/
def license (hs : List HeaderLine) (text : Text) : License where
  id := value hs Scalar.id.key
  name := if value hs Scalar.name.key = [] then value hs Scalar.id.key else value hs Scalar.name.key
  description := value hs Scalar.description.key
  spdx := (value hs Scalar.spdx.key).nonempty?
  category := (value hs Scalar.category.key).nonempty?
  permissions := items hs Section.permissions.key
  conditions := items hs Section.conditions.key
  limitations := items hs Section.limitations.key
  text

variable {hs : List HeaderLine}

@[simp] theorem entries_concat (h : HeaderLine) :
    entries (hs ++ [h]) = entries hs ++ h.entry?.toList := by
  cases h <;> simp [entries, HeaderLine.entry?, List.filterMap_cons]

@[simp] theorem value_concat_entry (k v key : Text) :
    value (hs ++ [.entry k v]) key = if key = k then v else value hs key := by
  by_cases h : key = k
  · simp [value, HeaderLine.entry?, h]
  · simp [value, HeaderLine.entry?, List.lookup_cons, h, beq_false_of_ne h]

@[simp] theorem value_concat_item (text key : Text) :
    value (hs ++ [.item text]) key = value hs key := by
  simp [value, HeaderLine.entry?]

@[simp] theorem value_concat_idle (key : Text) : value (hs ++ [.idle]) key = value hs key := by
  simp [value, HeaderLine.entry?]

@[simp] theorem lastKey?_concat_entry (k v : Text) :
    lastKey? (hs ++ [.entry k v]) = some k := by
  simp [lastKey?, HeaderLine.entry?]

@[simp] theorem lastKey?_concat_item (text : Text) :
    lastKey? (hs ++ [.item text]) = lastKey? hs := by
  simp [lastKey?, HeaderLine.entry?]

@[simp] theorem lastKey?_concat_idle : lastKey? (hs ++ [.idle]) = lastKey? hs := by
  simp [lastKey?, HeaderLine.entry?]

theorem items_concat (h : HeaderLine) (key : Text) :
    items (hs ++ [h]) key = items hs key ++ match h with
      | .item text => if lastKey? hs = some key then [text] else []
      | _ => [] := by
  rw [items, List.length_append, List.length_singleton, List.range_succ, List.filterMap_append]
  congr 1
  -- the old lines stand where they stood, with the same lines in front of them
  · refine List.filterMap_congr fun n hn => ?_
    have hlt : n < hs.length := List.mem_range.1 hn
    rw [List.getElem?_append_left hlt, List.take_append_of_le_length (Nat.le_of_lt hlt)]
  · cases h with
    | item text => by_cases hk : lastKey? hs = some key <;> simp [hk]
    | entry k v => simp
    | idle => simp

@[simp] theorem items_concat_item (text key : Text) :
    items (hs ++ [.item text]) key
      = items hs key ++ if lastKey? hs = some key then [text] else [] :=
  items_concat _ key

@[simp] theorem items_concat_entry (k v key : Text) :
    items (hs ++ [.entry k v]) key = items hs key := by
  rw [items_concat, List.append_nil]

@[simp] theorem items_concat_idle (key : Text) : items (hs ++ [.idle]) key = items hs key := by
  rw [items_concat, List.append_nil]

end Header

/-! ### Keys -/

namespace Section

theorem eq_key_of_ofKey? {k : Text} {s : Section} (h : ofKey? k = some s) : k = s.key := by
  have := List.find?_some h
  simpa using (beq_iff_eq.1 this).symm

@[simp] theorem key_inj {s s' : Section} : s.key = s'.key ↔ s = s' := by
  cases s <;> cases s' <;> decide

@[simp] theorem ofKey?_scalar_key (s : Scalar) : ofKey? s.key = none := by cases s <;> decide

end Section

namespace Scalar

theorem eq_key_of_ofKey? {k : Text} {s : Scalar} (h : ofKey? k = some s) : k = s.key := by
  have := List.find?_some h
  simpa using (beq_iff_eq.1 this).symm

@[simp] theorem key_inj {s s' : Scalar} : s.key = s'.key ↔ s = s' := by
  cases s <;> cases s' <;> decide

@[simp] theorem key_ne_section_key (s : Scalar) (s' : Section) : s.key ≠ s'.key := by
  cases s <;> cases s' <;> decide

@[simp] theorem ofKey?_section_key (s : Section) : ofKey? s.key = none := by cases s <;> decide

end Scalar

/-! ### The draft that grows -/

namespace Draft

/-- What is known when some lines of a header have been read. -/
def ofHeader (hs : List HeaderLine) (text : Text) : Draft where
  license := { Header.license hs text with name := Header.value hs Scalar.name.key }
  current := (Header.lastKey? hs).bind Section.ofKey?

theorem current_ofHeader_eq_some_iff {hs : List HeaderLine} {text : Text} {s : Section} :
    (ofHeader hs text).current = some s ↔ Header.lastKey? hs = some s.key := by
  simp only [ofHeader, Option.bind_eq_some_iff]
  constructor
  · rintro ⟨k, hk, hs⟩
    rw [hk, Section.eq_key_of_ofKey? hs]
  · exact fun h => ⟨s.key, h, Section.ofKey?_key s⟩

theorem license_ofHeader_item (hs : List HeaderLine) (text item : Text) :
    (ofHeader (hs ++ [.item item]) text).license
      = match (ofHeader hs text).current with
        | some s => (ofHeader hs text).license.addItem s item
        | none => (ofHeader hs text).license := by
  cases hc : (ofHeader hs text).current with
  | none =>
    -- no section is open, so the last key is the key of no section
    have hk (s : Section) : Header.lastKey? hs ≠ some s.key := fun h => by
      rw [current_ofHeader_eq_some_iff.2 h] at hc
      cases hc
    simp [ofHeader, Header.license, hk]
  | some s =>
    have hk := current_ofHeader_eq_some_iff.1 hc
    cases s <;> simp [ofHeader, Header.license, License.addItem, hk]

theorem license_ofHeader_entry (hs : List HeaderLine) (text key value : Text) :
    (ofHeader (hs ++ [.entry key value]) text).license
      = match Scalar.ofKey? key with
        | some s => (ofHeader hs text).license.set s value
        | none => (ofHeader hs text).license := by
  cases hs' : Scalar.ofKey? key with
  | none =>
    have hk (s : Scalar) : s.key ≠ key := fun h => by
      rw [← h, Scalar.ofKey?_key] at hs'
      cases hs'
    simp [ofHeader, Header.license, hk]
  | some s =>
    obtain rfl := Scalar.eq_key_of_ofKey? hs'
    cases s <;> simp [ofHeader, Header.license, License.set]

/-- Reading one more line of a header. -/
theorem read_ofHeader (hs : List HeaderLine) (text : Text) (h : HeaderLine) :
    (ofHeader hs text).read h = ofHeader (hs ++ [h]) text := by
  cases h with
  | idle => simp [read, ofHeader, Header.license]
  | item item =>
    have hc : (ofHeader (hs ++ [.item item]) text).current = (ofHeader hs text).current := by
      simp [ofHeader]
    refine Eq.trans ?_ (congrArg₂ Draft.mk (license_ofHeader_item hs text item) hc).symm
    rw [read]
    split
    next s h => rw [h]
    next h =>
      simp only [h]
      exact congrArg (Draft.mk (ofHeader hs text).license) h
  | entry key value =>
    have hc : (ofHeader (hs ++ [.entry key value]) text).current = Section.ofKey? key := by
      simp [ofHeader]
    refine Eq.trans ?_ (congrArg₂ Draft.mk (license_ofHeader_entry hs text key value) hc).symm
    rw [read]
    split
    next s h =>
      -- the key of a section is the key of no value
      obtain rfl := Section.eq_key_of_ofKey? h
      simp [h]
    next h => exact congrArg (Draft.mk _) h.symm

/-- **Reading a header line by line** comes to the same as looking at each line's nearest key. -/
theorem readAll_eq_ofHeader (header : List Text) (text : Text) :
    readAll { license := { text } } header = ofHeader (header.map .ofText) text := by
  induction header using List.reverseRecOn with
  | nil => rfl
  | append_singleton header line ih =>
    rw [readAll, List.foldl_append, List.foldl_cons, List.foldl_nil, ← readAll, ih, read_ofHeader,
      List.map_append, List.map_singleton]

theorem finish_ofHeader (hs : List HeaderLine) (text : Text) :
    (ofHeader hs text).finish =
      if Header.value hs Scalar.id.key = [] then .error .missingId
      else .ok (Header.license hs text) := by
  simp only [finish, ofHeader, Header.license, List.isEmpty_iff]
  split
  · rfl
  · split <;> simp_all

end Draft

/-! ### The whole template -/

namespace Template

/-- A line that holds the separator, with nothing but line ends behind it. -/
def Separates (line : Text) : Prop :=
  ∃ ends : Text, line = separator ++ ends ∧ ∀ c ∈ ends, c = '\n' ∨ c = '\r'

/-- The lines of a header and those of a text, with the first separator between them. -/
def SplitsInto (lines header rest : List Text) : Prop :=
  ∃ sep, lines = header ++ sep :: rest ∧ Separates sep ∧ ∀ line ∈ header, ¬Separates line

/-- The text in some lines, without the blank lines in front and the blanks at the end. -/
def IsBody (lines : List Text) (text : Text) : Prop :=
  ∃ (lead kept : List Text) (trail : Text), lines = lead ++ kept ∧ kept.flatten = text ++ trail ∧
    (∀ line ∈ lead, line.AllBlank) ∧ (∀ line ∈ kept.head?, ¬line.AllBlank) ∧
    trail.AllBlank ∧ text.EndsFull

/-- What a source says: a license, or what is wrong with it. -/
inductive Says (source : Text) : Except TemplateError License → Prop
  /-- No line separates a header from a text. -/
  | noSeparator (h : ∀ line ∈ source.lines, ¬Separates line) :
      Says source (.error .missingSeparator)
  /-- The header gives no id, or an empty one. -/
  | noId {header rest hs} (split : SplitsInto source.lines header rest)
      (read : List.Forall₂ HeaderLine.Says header hs) (id : Header.value hs Scalar.id.key = []) :
      Says source (.error .missingId)
  /-- The header describes a license. -/
  | license {header rest hs text} (split : SplitsInto source.lines header rest)
      (read : List.Forall₂ HeaderLine.Says header hs) (id : Header.value hs Scalar.id.key ≠ [])
      (body : IsBody rest text) : Says source (.ok (Header.license hs text))

theorem isSeparator_iff {line : Text} : isSeparator line ↔ Separates line := by
  rw [isSeparator, beq_iff_eq, Text.dropEndWhile_eq_iff]
  constructor
  · rintro ⟨ends, h, he, -⟩
    exact ⟨ends, h, by simpa using he⟩
  · rintro ⟨ends, h, he⟩
    refine ⟨ends, h, by simpa using he, fun c hc => ?_⟩
    obtain rfl := Option.some.inj hc
    decide

theorem split?_eq_none_iff {lines : List Text} :
    split? lines = none ↔ ∀ line ∈ lines, ¬Separates line := by
  induction lines with
  | nil => simp [split?]
  | cons line lines ih =>
    rw [split?]
    by_cases h : Separates line
    · simp [isSeparator_iff.2 h, h]
    · simp [mt isSeparator_iff.1 h, h, ih]

theorem split?_eq_some_iff {lines header rest : List Text} :
    split? lines = some (header, rest) ↔ SplitsInto lines header rest := by
  induction lines generalizing header with
  | nil => simp [split?, SplitsInto]
  | cons line lines ih =>
    rw [split?]
    by_cases h : Separates line
    · rw [if_pos (isSeparator_iff.2 h), Option.some.injEq, Prod.mk.injEq]
      constructor
      · rintro ⟨rfl, rfl⟩
        exact ⟨line, rfl, h, by simp⟩
      · rintro ⟨sep, heq, -, hh⟩
        cases header with
        | nil => exact ⟨rfl, (List.cons.inj heq).2⟩
        | cons first header =>
          exact absurd ((List.cons.inj heq).1 ▸ h) (hh first List.mem_cons_self)
    · rw [if_neg (mt isSeparator_iff.1 h), Option.map_eq_some_iff]
      constructor
      · rintro ⟨p, hp, heq⟩
        obtain ⟨rfl, rfl⟩ := Prod.mk.inj heq
        obtain ⟨sep, rfl, hs, hh⟩ := ih.1 hp
        exact ⟨sep, rfl, hs, List.forall_mem_cons.2 ⟨h, hh⟩⟩
      · rintro ⟨sep, heq, hs, hh⟩
        cases header with
        | nil => exact absurd ((List.cons.inj heq).1 ▸ hs) h
        | cons first header =>
          obtain ⟨rfl, rfl⟩ := List.cons.inj heq
          exact ⟨(header, rest), ih.2 ⟨sep, rfl, hs, (List.forall_mem_cons.1 hh).2⟩, rfl⟩

/-- A separator begins with a hyphen. -/
theorem not_separates_of_head?_ne {line : Text} (h : line.head? ≠ some '-') : ¬Separates line := by
  rintro ⟨ends, rfl, -⟩
  exact h rfl

/-- Lines that begin with no hyphen are a header if a separator follows them. -/
theorem splitsInto_append {header : List Text} {t : Text}
    (h : ∀ line ∈ header, line.IsLine ∧ line.head? ≠ some '-') :
    SplitsInto (Text.lines (header.flatten ++ (separator ++ '\n' :: t))) header t.lines := by
  refine ⟨separator ++ ['\n'], ?_, ⟨['\n'], rfl, by simp⟩, fun line hl => ?_⟩
  · rw [Text.lines_append fun line hl => (h line hl).1, Text.lines_line (by decide)]
  · exact not_separates_of_head?_ne (h line hl).2

theorem dropWhile_blank_eq_iff {lines kept : List Text} :
    lines.dropWhile (fun line => line.all Text.isBlank) = kept ↔
      ∃ lead, lines = lead ++ kept ∧ (∀ line ∈ lead, line.AllBlank) ∧
        ∀ line ∈ kept.head?, ¬line.AllBlank := by
  have hall (line : Text) : line.all Text.isBlank ↔ line.AllBlank := List.all_eq_true
  constructor
  · rintro rfl
    refine ⟨lines.takeWhile fun line => line.all Text.isBlank,
      List.takeWhile_append_dropWhile.symm, fun line hl => ?_, fun line hl hb => ?_⟩
    · have := List.mem_takeWhile_imp hl
      exact (hall line).1 this
    · have := List.head?_dropWhile_not (fun line : Text => line.all Text.isBlank) lines
      rw [Option.mem_def.1 hl] at this
      simp only [(hall line).2 hb] at this
      exact Bool.false_ne_true this.symm
  · rintro ⟨lead, rfl, hl, hk⟩
    rw [List.dropWhile_append_of_pos fun line h => (hall line).2 (hl line h)]
    cases kept with
    | nil => rfl
    | cons line kept =>
      exact List.dropWhile_cons_of_neg (mt (hall line).1 (hk line rfl))

theorem body_eq_iff {lines : List Text} {text : Text} : body lines = text ↔ IsBody lines text := by
  rw [body, Text.trimEnd_eq_iff]
  constructor
  · rintro ⟨trail, hk, ht, he⟩
    obtain ⟨lead, hl, hb, hf⟩ := dropWhile_blank_eq_iff.1 (rfl : _ = lines.dropWhile _)
    exact ⟨lead, _, trail, hl, hk, hb, hf, ht, he⟩
  · rintro ⟨lead, kept, trail, hl, hk, hb, hf, ht, he⟩
    exact ⟨trail, by rw [dropWhile_blank_eq_iff.2 ⟨lead, hl, hb, hf⟩, hk], ht, he⟩

end Template

namespace License

theorem says_parse (source : Text) : Template.Says source (parse source) := by
  rw [parse]
  split
  next h => exact .noSeparator (Template.split?_eq_none_iff.1 h)
  next header rest h =>
    have hs := Template.split?_eq_some_iff.1 h
    rw [Draft.readAll_eq_ofHeader, Draft.finish_ofHeader]
    split
    next hid => exact .noId hs (HeaderLine.forall₂_says_iff.2 rfl) hid
    next hid =>
      exact .license hs (HeaderLine.forall₂_says_iff.2 rfl) hid (Template.body_eq_iff.1 rfl)

theorem parse_eq_of_says {source : Text} {r : Except TemplateError License}
    (h : Template.Says source r) : parse source = r := by
  rw [parse]
  cases h with
  | noSeparator h => rw [Template.split?_eq_none_iff.2 h]
  | noId split read id =>
    obtain rfl := HeaderLine.forall₂_says_iff.1 read
    simp only [Template.split?_eq_some_iff.2 split, Draft.readAll_eq_ofHeader,
      Draft.finish_ofHeader, if_pos id]
  | license split read id body =>
    obtain rfl := HeaderLine.forall₂_says_iff.1 read
    simp only [Template.split?_eq_some_iff.2 split, Draft.readAll_eq_ofHeader,
      Draft.finish_ofHeader, if_neg id, Template.body_eq_iff.2 body]

/-- **Parsing a template gives what it says**, for every source. -/
theorem parse_eq_iff_says (source : Text) (r : Except TemplateError License) :
    parse source = r ↔ Template.Says source r :=
  ⟨fun h => h ▸ says_parse source, parse_eq_of_says⟩

end License

end LicenseForge
