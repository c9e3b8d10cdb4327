import LicenseForge.FileTree.Access
import LicenseForge.Proofs.Steps

/-!
# What a folder holds

* `FileTree.HasEntry` : a folder has an entry with a name.
* `FileTree.mem_names_iff`, `FileTree.list_eq_ok_iff` : the names in a folder are those of its
  entries.
* `FileTree.read_eq_ok_iff`, `FileTree.readText_eq_ok_iff` : what a path leads to when it is read.
-/

namespace LicenseForge.FileTree

variable {t : FileTree} {p : Path} {name folder path text : Text} {names : List Text}
  {content : Bytes}

/-- The path leads to a folder. -/
def IsFolder (t : FileTree) (folder : Text) : Prop :=
  ∃ p, t.locate .inspect folder = .ok (.found p .folder)

/-- The folder to which a path leads has an entry with the name. -/
def HasEntry (t : FileTree) (folder name : Text) : Prop :=
  ∃ p, t.locate .inspect folder = .ok (.found p .folder) ∧ t.get? (p ++ [name]) ≠ none

theorem HasEntry.isFolder (h : t.HasEntry folder name) : t.IsFolder folder := h.imp fun _ h => h.1

theorem hasEntry_iff (h : t.locate .inspect folder = .ok (.found p .folder)) :
    t.HasEntry folder name ↔ t.get? (p ++ [name]) ≠ none := by
  constructor
  · rintro ⟨q, hq, hn⟩
    obtain rfl : p = q := by simpa [h] using hq
    exact hn
  · exact fun hn => ⟨p, h, hn⟩

/-! ### Names -/

theorem get?_concat_ne_none_iff :
    t.get? (p ++ [name]) ≠ none ↔ ∃ e ∈ t.entries, e.1 = p ++ [name] := by
  have hne : ¬(p ++ [name]).isEmpty = true := by simp
  rw [get?, if_neg hne, Ne, List.lookup_eq_none_iff]
  simp only [bne_iff_ne, ne_eq, Classical.not_forall, Classical.not_not, exists_prop]
  exact exists_congr fun e => and_congr_right fun _ => eq_comm

theorem mem_names_iff : name ∈ t.names p ↔ t.get? (p ++ [name]) ≠ none := by
  rw [get?_concat_ne_none_iff, names, List.mem_filterMap]
  refine exists_congr fun e => and_congr_right fun _ => ?_
  constructor
  · intro h
    split at h
    next last front hr =>
      split at h
      next hp =>
        rw [← List.reverse_reverse e.1, hr, List.reverse_cons, hp, Option.some.inj h]
      next => cases h
    next => cases h
  · intro h
    simp [h]

theorem list_eq_ok_iff :
    t.list folder = .ok names ↔
      ∃ p, t.locate .inspect folder = .ok (.found p .folder) ∧ names = t.names p := by
  rw [list, Steps.bind_eq_ok]
  constructor
  · rintro ⟨place, hl, h⟩
    cases place with
    | free q => cases h
    | found q n =>
      cases n with
      | folder => exact ⟨q, hl, (Except.ok.inj h).symm⟩
      | _ => cases h
  · rintro ⟨p, hl, rfl⟩
    exact ⟨_, hl, rfl⟩

theorem IsFolder.list_ne_error (h : t.IsFolder folder) {cause : FileError} :
    t.list folder ≠ .error cause := by
  obtain ⟨p, hp⟩ := h
  rw [list_eq_ok_iff.2 ⟨p, hp, rfl⟩]
  simp

theorem mem_of_list_eq_ok (h : t.list folder = .ok names) :
    name ∈ names ↔ t.HasEntry folder name := by
  obtain ⟨p, hl, rfl⟩ := list_eq_ok_iff.1 h
  rw [mem_names_iff, hasEntry_iff hl]

/-! ### Contents -/

theorem read_eq_ok_iff :
    t.read path = .ok content ↔ ∃ p, t.locate .inspect path = .ok (.found p (.file content)) := by
  rw [read, Steps.bind_eq_ok]
  constructor
  · rintro ⟨place, hl, h⟩
    cases place with
    | free q => cases h
    | found q n =>
      cases n with
      | file old => exact ⟨q, Except.ok.inj h ▸ hl⟩
      | _ => cases h
  · rintro ⟨p, hl⟩
    exact ⟨_, hl, rfl⟩

theorem isFile_iff : t.isFile path ↔ ∃ content, t.read path = .ok content := by
  rw [isFile]
  cases t.read path with
  | error e => simp [Except.isOk, Except.toBool]
  | ok content => simp [Except.isOk, Except.toBool]

theorem readText_eq_ok_iff : t.readText path = .ok text ↔ t.read path = .ok text.encode := by
  rw [readText, Steps.bind_eq_ok]
  constructor
  · rintro ⟨content, hr, h⟩
    split at h
    next s hs =>
      obtain rfl := Except.ok.inj h
      rw [hr, Text.decode?_eq_some_iff.1 hs]
    next => cases h
  · intro hr
    refine ⟨_, hr, ?_⟩
    rw [Text.decode?_encode]
    rfl

theorem readText_of_not_utf8 (h : t.read path = .ok content) (hn : ∀ s : Text, s.encode ≠ content) :
    t.readText path = .error .notUtf8 := by
  have hd : Text.decode? content = none := by
    refine Option.eq_none_iff_forall_ne_some.2 fun s hs => ?_
    exact hn s (Text.decode?_eq_some_iff.1 hs).symm
  rw [readText, h]
  simp only [bind, Except.bind, hd]
  rfl

end LicenseForge.FileTree
