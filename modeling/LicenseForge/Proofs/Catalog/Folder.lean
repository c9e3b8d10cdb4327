import LicenseForge.Proofs.Catalog.Builtin
import LicenseForge.Proofs.FileTree.Folder
import LicenseForge.Proofs.FileTree.Route

/-!
# The licenses of a folder

* `Catalog.IsTemplate` : an entry of a folder is a template file.
* `Catalog.Describes`, `Catalog.Fault` : what a template file says, or what is wrong with it.
* `Catalog.FolderSays` : what a folder says: its licenses, or why it has none.
* `Catalog.ofFolder_iff_says` : loading a folder gives what it says, in whatever order its names
  are listed; and over the licenses that come with the program, its licenses come first.
-/

namespace LicenseForge.Catalog

variable {t : FileTree} {folder name path key : Text} {l l' : License} {e e' : CatalogError}

/-! ### Template files -/

/-- An entry of a folder is a template file: it has the suffix behind something else, and its path
leads to a regular file. -/
structure IsTemplate (t : FileTree) (folder name : Text) : Prop where
  /-- The folder has the entry. -/
  entry : t.HasEntry folder name
  /-- The suffix is not the whole name. -/
  named : ∃ stem : Text, stem ≠ [] ∧ name = stem ++ ".template".toList
  /-- The path of the entry leads to a file, maybe through symbolic links. -/
  file : ∃ content, t.read (pathIn folder name) = .ok content

/-- The path leads to a file whose text describes a license. -/
def Describes (t : FileTree) (path : Text) (l : License) : Prop :=
  ∃ source : Text, t.read path = .ok source.encode ∧ License.parse source = .ok l

/-- What is wrong with the file to which a path leads. -/
inductive Fault (t : FileTree) (path : Text) : CatalogError → Prop
  /-- Its bytes are no text. -/
  | notUtf8 {content} (read : t.read path = .ok content)
      (bytes : ∀ text : Text, text.encode ≠ content) : Fault t path (.unreadable path .notUtf8)
  /-- Its text is no template. -/
  | invalid {source : Text} {cause} (read : t.read path = .ok source.encode)
      (parse : License.parse source = .error cause) : Fault t path (.invalid path cause)

theorem readTemplate_eq_ok_iff : readTemplate t path = .ok l ↔ Describes t path l := by
  constructor
  · intro h
    rw [readTemplate] at h
    split at h
    next => cases h
    next source hs =>
      split at h
      next => cases h
      next l' hp => exact ⟨source, FileTree.readText_eq_ok_iff.1 hs, Except.ok.inj h ▸ hp⟩
  · rintro ⟨source, hr, hp⟩
    rw [readTemplate, FileTree.readText_eq_ok_iff.2 hr]
    simp only [hp]

theorem Fault.readTemplate_eq (h : Fault t path e) : readTemplate t path = .error e := by
  cases h with
  | notUtf8 read bytes => rw [readTemplate, FileTree.readText_of_not_utf8 read bytes]
  | invalid read parse =>
    rw [readTemplate, FileTree.readText_eq_ok_iff.2 read]
    simp only [parse]

theorem fault_of_readTemplate {content : Bytes} (hr : t.read path = .ok content)
    (h : readTemplate t path = .error e) : Fault t path e := by
  by_cases hu : ∃ source : Text, source.encode = content
  · obtain ⟨source, rfl⟩ := hu
    rw [readTemplate, FileTree.readText_eq_ok_iff.2 hr] at h
    cases hp : License.parse source with
    | ok l => simp only [hp] at h; cases h
    | error cause =>
      simp only [hp] at h
      exact Except.error.inj h ▸ .invalid hr hp
  · have hb : ∀ source : Text, source.encode ≠ content := fun s hs => hu ⟨s, hs⟩
    rw [readTemplate, FileTree.readText_of_not_utf8 hr hb] at h
    exact Except.error.inj h ▸ .notUtf8 hr hb

theorem Describes.unique (h : Describes t path l) (h' : Describes t path l') : l = l' :=
  Except.ok.inj ((readTemplate_eq_ok_iff.2 h).symm.trans (readTemplate_eq_ok_iff.2 h'))

theorem Fault.unique (h : Fault t path e) (h' : Fault t path e') : e = e' :=
  Except.error.inj (h.readTemplate_eq.symm.trans h'.readTemplate_eq)

theorem Describes.not_fault (h : Describes t path l) : ¬Fault t path e := fun hf => by
  have := hf.readTemplate_eq
  rw [readTemplate_eq_ok_iff.2 h] at this
  cases this

/-! ### What a folder says -/

/-- Of the template files with a key, the one whose name comes last, and its license. -/
structure IsLast (t : FileTree) (folder key name : Text) (l : License) : Prop where
  /-- It is a template file. -/
  template : IsTemplate t folder name
  /-- It describes the license. -/
  describes : Describes t (pathIn folder name) l
  /-- The license has the key. -/
  key_eq : l.key = key
  /-- No template file with the key comes after it. -/
  last : ∀ name' l', IsTemplate t folder name' → Describes t (pathIn folder name') l' →
    l'.key = key → ¬name.Precedes name'

/-- What a folder says: the licenses of its template files, or why there are none. -/
inductive FolderSays (t : FileTree) (folder : Text) : Except CatalogError Catalog → Prop
  /-- The folder cannot be read. -/
  | unreadable {cause : FileError} (list : t.list folder = .error cause) :
      FolderSays t folder (.error (.unreadable folder cause))
  /-- The folder has no template file. -/
  | noTemplates (isFolder : t.IsFolder folder) (no : ∀ name, ¬IsTemplate t folder name) :
      FolderSays t folder (.error (.noTemplates folder))
  /-- The first template file that describes no license is at fault. -/
  | fault {name : Text} {e : CatalogError} (template : IsTemplate t folder name)
      (fault : Fault t (pathIn folder name) e)
      (first : ∀ name', IsTemplate t folder name' → name'.Precedes name →
        ∃ l, Describes t (pathIn folder name') l) : FolderSays t folder (.error e)
  /-- All template files describe licenses, of which the last one with a key stands. -/
  | licenses {c : Catalog} (template : ∃ name, IsTemplate t folder name)
      (all : ∀ name, IsTemplate t folder name → ∃ l, Describes t (pathIn folder name) l)
      (last : ∀ id l, c.get? id = some l ↔ ∃ name, IsLast t folder id.lowercase name l) :
      FolderSays t folder (.ok c)

theorem IsLast.unique {name' : Text} (h : IsLast t folder key name l)
    (h' : IsLast t folder key name' l') : l = l' := by
  have hn : name = name' := Text.eq_of_not_precedes
    (h.last _ _ h'.template h'.describes h'.key_eq) (h'.last _ _ h.template h.describes h.key_eq)
  subst hn
  exact h.describes.unique h'.describes

/-- A folder whose template files describe licenses holds licenses. -/
theorem FolderSays.exists_licenses {r : Except CatalogError Catalog} (h : FolderSays t folder r)
    (ht : IsTemplate t folder name)
    (all : ∀ name, IsTemplate t folder name → ∃ l, Describes t (pathIn folder name) l) :
    ∃ c, r = .ok c ∧ ∀ id l, c.get? id = some l ↔ ∃ name, IsLast t folder id.lowercase name l := by
  cases h with
  | unreadable hl => exact absurd hl ht.entry.isFolder.list_ne_error
  | noTemplates _ hn => exact absurd ht (hn _)
  | fault ht' he => exact absurd he (all _ ht').choose_spec.not_fault
  | licenses _ _ hl => exact ⟨_, rfl, hl⟩

theorem IsTemplate.list_ne_error (h : IsTemplate t folder name) {cause : FileError} :
    t.list folder ≠ .error cause :=
  h.entry.isFolder.list_ne_error

/-- A folder says one thing only. -/
theorem FolderSays.unique {r r' : Except CatalogError Catalog} (h : FolderSays t folder r)
    (h' : FolderSays t folder r') : r = r' := by
  cases h with
  | unreadable hl =>
    cases h' with
    | unreadable hl' => rw [Except.error.inj (hl.symm.trans hl')]
    | noTemplates hf => exact absurd hl hf.list_ne_error
    | fault ht => exact absurd hl ht.list_ne_error
    | licenses hs => exact absurd hl hs.choose_spec.list_ne_error
  | noTemplates hf hn =>
    cases h' with
    | unreadable hl' => exact absurd hl' hf.list_ne_error
    | noTemplates => rfl
    | fault ht => exact absurd ht (hn _)
    | licenses hs => exact absurd hs.choose_spec (hn _)
  | @fault name e ht he hf =>
    cases h' with
    | unreadable hl' => exact absurd hl' ht.list_ne_error
    | noTemplates _ hn => exact absurd ht (hn _)
    | @fault name' e' ht' he' hf' =>
      -- neither of the two comes before the other one
      have hn : name = name' := Text.eq_of_not_precedes
        (fun hp => (hf' _ ht hp).elim fun _ hd => hd.not_fault he)
        (fun hp => (hf _ ht' hp).elim fun _ hd => hd.not_fault he')
      subst hn
      rw [he.unique he']
    | licenses _ ha => exact absurd he (ha _ ht).choose_spec.not_fault
  | @licenses c hs ha hl =>
    cases h' with
    | unreadable hl' => exact absurd hl' hs.choose_spec.list_ne_error
    | noTemplates _ hn => exact absurd hs.choose_spec (hn _)
    | fault ht he => exact absurd he (ha _ ht).choose_spec.not_fault
    | @licenses c' _ _ hl' =>
      have hc : c = c' := ext_get? fun id => Option.ext fun l => by rw [hl, hl']
      rw [hc]

/-! ### Names in order -/

theorem pairwise_sortNames (names : List Text) :
    (sortNames names).Pairwise fun a b => ¬b.Precedes a := by
  have htrans (a b c : Text) (hab : (!decide (b.Precedes a)) = true)
      (hbc : (!decide (c.Precedes b)) = true) : (!decide (c.Precedes a)) = true := by
    simp only [Bool.not_eq_true', decide_eq_false_iff_not] at hab hbc ⊢
    exact Text.not_precedes_trans hab hbc
  have htotal (a b : Text) : (!decide (b.Precedes a) || !decide (a.Precedes b)) = true := by
    simp only [Bool.or_eq_true, Bool.not_eq_true', decide_eq_false_iff_not]
    exact Classical.not_and_iff_not_or_not.1 fun h => Text.Precedes.irrefl _ (h.1.trans h.2)
  have hs := List.pairwise_mergeSort htrans htotal names
  exact hs.imp fun h => by simpa using h

theorem sortNames_eq_of_perm {names names' : List Text} (h : names.Perm names') :
    sortNames names = sortNames names' := by
  have hp : (sortNames names).Perm (sortNames names') :=
    (List.mergeSort_perm _ _).trans (h.trans (List.mergeSort_perm _ _).symm)
  exact hp.eq_of_pairwise (fun a b _ _ hab hba => Text.eq_of_not_precedes hba hab)
    (pairwise_sortNames names) (pairwise_sortNames names')

theorem ofNames_eq_of_perm {names names' : List Text} (h : names.Perm names') :
    ofNames t folder names = ofNames t folder names' := by
  rw [ofNames, templatePaths, sortNames_eq_of_perm h]
  rfl

theorem isTemplateName_iff :
    isTemplateName name ↔ ∃ stem : Text, stem ≠ [] ∧ name = stem ++ ".template".toList := by
  rw [isTemplateName, Bool.and_eq_true, bne_iff_ne, List.isSuffixOf_iff_suffix]
  constructor
  · rintro ⟨⟨stem, rfl⟩, hne⟩
    exact ⟨stem, fun hs => hne (by rw [hs]; rfl), rfl⟩
  · rintro ⟨stem, hs, rfl⟩
    exact ⟨⟨stem, rfl⟩, fun h => hs (List.append_left_eq_self.1 h)⟩

/-- The template files of a folder, in the order of their names. -/
theorem exists_templatePaths {names : List Text}
    (hn : ∀ name, name ∈ names ↔ t.HasEntry folder name) :
    ∃ chosen : List Text, templatePaths t folder names = chosen.map (pathIn folder) ∧
      (chosen.Pairwise fun a b => ¬b.Precedes a) ∧
      ∀ name, name ∈ chosen ↔ IsTemplate t folder name := by
  refine ⟨((sortNames names).filter isTemplateName).filter (t.isFile ∘ pathIn folder), ?_, ?_,
    fun name => ?_⟩
  · rw [templatePaths, List.filter_map]
  · exact ((pairwise_sortNames names).filter _).filter _
  · rw [List.mem_filter, List.mem_filter, sortNames, List.mem_mergeSort, hn, isTemplateName_iff,
      Function.comp_apply, FileTree.isFile_iff]
    exact ⟨fun h => ⟨h.1.1, h.1.2, h.2⟩, fun h => ⟨⟨h.entry, h.named⟩, h.file⟩⟩

/-! ### One file after the other -/

/-- Either a file is at fault, and all before it describe licenses, or all files describe licenses,
and these are inserted in order. -/
theorem addFiles_cases (t : FileTree) (folder : Text) (names : List Text) (c : Catalog) :
    (∃ before name after e, names = before ++ name :: after ∧
      (∀ n ∈ before, ∃ l, Describes t (pathIn folder n) l) ∧
      readTemplate t (pathIn folder name) = .error e ∧
      (addFiles t c (names.map (pathIn folder))).result = .error e) ∨
    ∃ read : List (Text × License), read.map Prod.fst = names ∧
      (∀ q ∈ read, Describes t (pathIn folder q.1) q.2) ∧
      (addFiles t c (names.map (pathIn folder))).result
        = .ok ((read.map Prod.snd).foldl insert c) := by
  induction names generalizing c with
  | nil => exact .inr ⟨[], rfl, by simp, rfl⟩
  | cons name names ih =>
    rw [List.map_cons, addFiles]
    cases hr : readTemplate t (pathIn folder name) with
    | error e => exact .inl ⟨[], name, names, e, rfl, by simp, hr, rfl⟩
    | ok l =>
      have hl := readTemplate_eq_ok_iff.1 hr
      rcases ih (c.insert l) with ⟨before, name', after, e, rfl, hb, he, ha⟩ | ⟨read, rfl, hd, ha⟩
      · exact .inl ⟨name :: before, name', after, e, rfl,
          List.forall_mem_cons.2 ⟨⟨l, hl⟩, hb⟩, he, ha⟩
      · exact .inr ⟨(name, l) :: read, rfl, List.forall_mem_cons.2 ⟨hl, hd⟩, ha⟩

/-- The last license with a key among those of files in order. -/
theorem isLast_of_findRev? {read : List (Text × License)} {q : Text × License}
    (hs : (read.map Prod.fst).Pairwise fun a b => ¬b.Precedes a)
    (hm : ∀ name, name ∈ read.map Prod.fst ↔ IsTemplate t folder name)
    (hd : ∀ q ∈ read, Describes t (pathIn folder q.1) q.2)
    (hq : read.findRev? (·.2.key == key) = some q) : IsLast t folder key q.1 q.2 := by
  rw [List.findRev?_eq_find?_reverse, List.find?_eq_some_iff_append] at hq
  obtain ⟨hk, after, before, hr, hafter⟩ := hq
  have hread : read = before.reverse ++ q :: after.reverse := by
    rw [← List.reverse_reverse read, hr]
    simp
  have hmem : q ∈ read := by rw [hread]; simp
  refine ⟨(hm _).1 (List.mem_map_of_mem hmem), hd q hmem, by simpa using hk, ?_⟩
  intro name' l' ht' hd' hk' hp
  -- a file behind the last one with the key has another key
  obtain ⟨q', hq', rfl⟩ := List.mem_map.1 ((hm name').2 ht')
  obtain rfl : q'.2 = l' := (hd q' hq').unique hd'
  rw [hread, List.map_append, List.map_cons, List.pairwise_append] at hs
  rw [hread, List.mem_append, List.mem_cons, List.mem_reverse, List.mem_reverse] at hq'
  rcases hq' with hq' | rfl | hq'
  · exact hs.2.2 q'.1 (List.mem_map_of_mem (List.mem_reverse.2 hq')) q.1 List.mem_cons_self hp
  · exact Text.Precedes.irrefl _ hp
  · have := hafter q' hq'
    simp [hk'] at this

/-- What is found among the licenses of files in order is what the last file with the key says. -/
theorem get?_foldl_insert_eq_some_iff {read : List (Text × License)} {id : Text}
    (hs : (read.map Prod.fst).Pairwise fun a b => ¬b.Precedes a)
    (hm : ∀ name, name ∈ read.map Prod.fst ↔ IsTemplate t folder name)
    (hd : ∀ q ∈ read, Describes t (pathIn folder q.1) q.2) :
    ((read.map Prod.snd).foldl insert empty).get? id = some l
      ↔ ∃ name, IsLast t folder id.lowercase name l := by
  have hget : ((read.map Prod.snd).foldl insert empty).get? id
      = (read.findRev? (·.2.key == id.lowercase)).map Prod.snd := by
    rw [get?_foldl_insert, show empty.get? id = none from rfl, Option.or_none,
      List.findRev?_eq_find?_reverse, List.findRev?_eq_find?_reverse, ← List.map_reverse,
      List.find?_map]
    rfl
  rw [hget, Option.map_eq_some_iff]
  constructor
  · rintro ⟨q, hq, rfl⟩
    exact ⟨q.1, isLast_of_findRev? hs hm hd hq⟩
  · rintro ⟨name, hl⟩
    obtain ⟨q, hq, rfl⟩ := List.mem_map.1 ((hm name).2 hl.template)
    obtain rfl : q.2 = l := (hd q hq).unique hl.describes
    have hne : read.findRev? (·.2.key == id.lowercase) ≠ none := by
      rw [List.findRev?_eq_find?_reverse, Ne, List.find?_eq_none]
      exact fun hn => hn q (List.mem_reverse.2 hq) (by simpa using hl.key_eq)
    obtain ⟨q', hq'⟩ := Option.ne_none_iff_exists'.1 hne
    exact ⟨q', hq', (isLast_of_findRev? hs hm hd hq').unique hl⟩

/-- A folder with the names says what is loaded from it. -/
theorem folderSays_ofNames {names : List Text} (hf : t.IsFolder folder)
    (hn : ∀ name, name ∈ names ↔ t.HasEntry folder name) :
    FolderSays t folder (ofNames t folder names).result := by
  obtain ⟨chosen, hpaths, hs, hm⟩ := exists_templatePaths hn
  rw [ofNames, hpaths]
  cases chosen with
  | nil => exact .noTemplates hf fun name ht => by simpa using (hm name).2 ht
  | cons first rest =>
    change FolderSays t folder (addFiles t empty ((first :: rest).map (pathIn folder))).result
    have hfirst : ∃ name, IsTemplate t folder name := ⟨first, (hm first).1 List.mem_cons_self⟩
    rcases addFiles_cases t folder (first :: rest) empty with
      ⟨before, name, after, e, hc, hb, he, hr⟩ | ⟨read, hc, hd, hr⟩
    · rw [hc] at hm hs
      obtain ⟨-, hna, -⟩ := List.pairwise_append.1 hs
      have ht : IsTemplate t folder name := (hm name).1 (by simp)
      rw [hr]
      refine .fault ht (fault_of_readTemplate ht.file.choose_spec he) fun name' ht' hp => ?_
      -- the files behind the one at fault do not come before it
      rcases List.mem_append.1 ((hm name').2 ht') with hn' | hn'
      · exact hb name' hn'
      · rcases List.mem_cons.1 hn' with rfl | hn'
        · exact absurd hp (Text.Precedes.irrefl _)
        · exact absurd hp ((List.pairwise_cons.1 hna).1 name' hn')
    · rw [← hc] at hm hs
      rw [hr]
      refine .licenses hfirst (fun name ht => ?_) fun id l => get?_foldl_insert_eq_some_iff hs hm hd
      obtain ⟨q, hq, rfl⟩ := List.mem_map.1 ((hm name).2 ht)
      exact ⟨q.2, hd q hq⟩

theorem folderSays_ofFolder (t : FileTree) (folder : Text) :
    FolderSays t folder (ofFolder t folder).result := by
  rw [ofFolder]
  cases hl : t.list folder with
  | error cause => exact .unreadable hl
  | ok names =>
    obtain ⟨p, hp, -⟩ := FileTree.list_eq_ok_iff.1 hl
    exact folderSays_ofNames ⟨p, hp⟩ fun name => FileTree.mem_of_list_eq_ok hl

/-! ### Over the licenses that come with the program -/

theorem result_load {base : Catalog} (h : builtin = .ok base) (t : FileTree) (folder : Text) :
    (load t (some folder)).result = (ofFolder t folder).result.map base.merge := by
  rw [load, h, overlay]
  cases (ofFolder t folder).result <;> rfl

/-- **Loading a folder gives what it says**, and nothing depends on the order in which its names
are listed.  The licenses that come with the program load, each under the id in its template, and
over them a folder is loaded as it is by itself: with the same error, or with its own licenses found
first. -/
theorem ofFolder_iff_says (t : FileTree) (folder : Text) :
    (∀ r, (ofFolder t folder).result = r ↔ FolderSays t folder r) ∧
      (∀ names listing, t.list folder = .ok names → listing.Perm names →
        ofNames t folder listing = ofFolder t folder) ∧
      ∃ base, builtin = .ok base ∧
        (∀ id l, base.get? id = some l ↔ Builtin.Describes id l) ∧
        (load t (some folder)).result = (ofFolder t folder).result.map base.merge ∧
        ∀ (c : Catalog) (id : Text), (base.merge c).get? id = (c.get? id).or (base.get? id) := by
  refine ⟨fun r => ⟨fun h => h ▸ folderSays_ofFolder t folder, fun h => ?_⟩, ?_, ?_⟩
  · exact (folderSays_ofFolder t folder).unique h
  · intro names listing hl hp
    rw [ofFolder, hl]
    exact ofNames_eq_of_perm hp
  · obtain ⟨base, hb, hget⟩ := exists_builtin
    exact ⟨base, hb, hget, result_load hb t folder, fun c id => get?_merge base c id⟩

/-- A folder named like a template file, a link that leads nowhere, and names with an empty stem or
a suffix in upper case are passed over, whatever the order of the names. Of two templates with one
key the later one stands, in front of a license that comes with the program; the other licenses that
come with the program are found behind it. The folder inside has no template file. -/
theorem ofFolder_iff_says_overridden :
    let first : Text := "id: MIT\n---".toList
    let last : Text := "id: mit\n---".toList
    let t : FileTree :=
      { entries := [(["h".toList], .folder), (["h".toList, "d".toList], .folder),
          (["h".toList, "d".toList, "x.template".toList], .folder),
          (["h".toList, "d".toList, "y.template".toList], .link "../z".toList),
          (["h".toList, "d".toList, ".template".toList], .file []),
          (["h".toList, "d".toList, "a.TEMPLATE".toList], .file []),
          (["h".toList, "d".toList, "v.template".toList], .file last.encode),
          (["h".toList, "d".toList, "u.template".toList], .file first.encode)]
        home := ["h".toList] }
    let names : List Text :=
      ["x.template".toList, "y.template".toList, ".template".toList, "a.TEMPLATE".toList,
        "v.template".toList, "u.template".toList]
    let l : License := { id := "mit".toList, name := "mit".toList }
    (t.list "d".toList = .ok names ∧ names.reverse.Perm names) ∧
      ofNames t "d".toList names.reverse = ofFolder t "d".toList ∧
      (∃ c, (load t (some "d".toList)).result = .ok c ∧ c.get? "Mit".toList = some l ∧
        ∃ l', Builtin.Describes "isc".toList l' ∧ c.get? "isc".toList = some l') ∧
      (ofFolder t "d/x.template".toList).result = .error (.noTemplates "d/x.template".toList) := by
  intro first last t names l
  have hd : t.locate .inspect "d".toList = .ok (.found ["h".toList, "d".toList] .folder) := by
    refine FileTree.locate_eq_ok_iff.2 ⟨by decide, by decide, by decide, ?_⟩
    exact .enter (by decide) rfl .done
  have hx : t.locate .inspect "d/x.template".toList
      = .ok (.found ["h".toList, "d".toList, "x.template".toList] .folder) := by
    refine FileTree.locate_eq_ok_iff.2 ⟨by decide, by decide, by decide, ?_⟩
    refine .enter (by decide) rfl ?_
    exact .enter (by decide) rfl .done
  have hy : t.locate .inspect "d/y.template".toList
      = .ok (.free ["h".toList, "z".toList]) := by
    refine FileTree.locate_eq_ok_iff.2 ⟨by decide, by decide, by decide, ?_⟩
    refine .enter (by decide) rfl ?_
    have hn : t.get? ["h".toList, "d".toList, "y.template".toList] = some (.link "../z".toList) :=
      rfl
    refine .follow (by decide) (by decide) hn ?_
    refine .leave ?_
    exact .free (by decide) rfl
  have hv : t.locate .inspect "d/v.template".toList
      = .ok (.found ["h".toList, "d".toList, "v.template".toList] (.file last.encode)) := by
    refine FileTree.locate_eq_ok_iff.2 ⟨by decide, by decide, by decide, ?_⟩
    refine .enter (by decide) rfl ?_
    exact .file (by decide) rfl
  have hu : t.locate .inspect "d/u.template".toList
      = .ok (.found ["h".toList, "d".toList, "u.template".toList] (.file first.encode)) := by
    refine FileTree.locate_eq_ok_iff.2 ⟨by decide, by decide, by decide, ?_⟩
    refine .enter (by decide) rfl ?_
    exact .file (by decide) rfl
  have hl : t.list "d".toList = .ok names := FileTree.list_eq_ok_iff.2 ⟨_, hd, rfl⟩
  have hp : names.reverse.Perm names := List.reverse_perm names
  have hlast : Describes t "d/v.template".toList l :=
    ⟨last, FileTree.read_eq_ok_iff.2 ⟨_, hv⟩, by decide +kernel⟩
  have hfirst : Describes t "d/u.template".toList { id := "MIT".toList, name := "MIT".toList } :=
    ⟨first, FileTree.read_eq_ok_iff.2 ⟨_, hu⟩, by decide +kernel⟩
  have htemplate : IsTemplate t "d".toList "v.template".toList :=
    ⟨(FileTree.mem_of_list_eq_ok hl).1 (by decide), ⟨"v".toList, by decide, by decide⟩, _,
      FileTree.read_eq_ok_iff.2 ⟨_, hv⟩⟩
  have hnames (name : Text) (ht : IsTemplate t "d".toList name) :
      name = "v.template".toList ∨ name = "u.template".toList := by
    have hm := (FileTree.mem_of_list_eq_ok hl).2 ht.entry
    obtain ⟨content, hc⟩ := ht.file
    obtain ⟨p, hp⟩ := FileTree.read_eq_ok_iff.1 hc
    have hs := isTemplateName_iff.2 ht.named
    simp only [names, List.mem_cons, List.not_mem_nil, or_false] at hm
    rcases hm with rfl | rfl | rfl | rfl | hm
    · exact absurd (hx.symm.trans hp) (by simp)
    · exact absurd (hy.symm.trans hp) (by simp)
    · exact absurd hs (by decide)
    · exact absurd hs (by decide)
    · exact hm
  have hempty (name : Text) : ¬IsTemplate t "d/x.template".toList name := by
    intro ht
    have hm := (FileTree.mem_of_list_eq_ok (FileTree.list_eq_ok_iff.2 ⟨_, hx, rfl⟩)).2 ht.entry
    exact absurd hm List.not_mem_nil
  have h := ofFolder_iff_says t "d".toList
  have hinner := ofFolder_iff_says t "d/x.template".toList
  obtain ⟨c, hc, hget⟩ := ((h.1 _).1 rfl).exists_licenses htemplate fun name ht => by
    rcases hnames name ht with rfl | rfl
    · exact ⟨_, hlast⟩
    · exact ⟨_, hfirst⟩
  obtain ⟨base, -, hbase, hload, hmerge⟩ := h.2.2
  obtain ⟨l', hisc⟩ := Builtin.exists_describes Builtin.isc_mem_templates
  have hmit : c.get? "Mit".toList = some l := by
    refine (hget _ _).2 ⟨_, htemplate, hlast, by decide +kernel, fun name' l' ht' _ _ hp' => ?_⟩
    rcases hnames name' ht' with rfl | rfl
    · exact absurd hp' (by decide)
    · exact absurd hp' (by decide)
  have hother : c.get? "isc".toList = none := by
    refine Option.eq_none_iff_forall_ne_some.2 fun l' hl' => ?_
    obtain ⟨name, hname⟩ := (hget _ _).1 hl'
    have hkey := hname.key_eq
    rcases hnames name hname.template with rfl | rfl
    · rw [hname.describes.unique hlast] at hkey
      exact absurd hkey (by decide +kernel)
    · rw [hname.describes.unique hfirst] at hkey
      exact absurd hkey (by decide +kernel)
  refine ⟨⟨hl, hp⟩, h.2.1 names names.reverse hl hp,
    ⟨base.merge c, by rw [hload, hc]; rfl, by rw [hmerge, hmit]; rfl, l', hisc, ?_⟩,
    (hinner.1 _).2 (.noTemplates ⟨_, hx⟩ hempty)⟩
  rw [hmerge, hother, Option.none_or, (hbase _ l').2 hisc]

end LicenseForge.Catalog
