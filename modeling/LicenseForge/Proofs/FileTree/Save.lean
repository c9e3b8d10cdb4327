import LicenseForge.Proofs.FileTree.Route
import LicenseForge.Proofs.Steps

/-!
# What saving a file changes

* `FileTree.Written` : a tree differs from another one in the file to which a path leads.
* `FileTree.overwrite_written`, `FileTree.create_written` : both ways to write change one file only.
* `FileTree.save_written` : what is saved is written; unless by force, only where nothing was.
* `FileTree.save_eq_occupied_iff` : when there is something in the way.
-/

namespace LicenseForge.FileTree

variable {t t' : FileTree} {m : Manner} {path text : Text} {p : Path} {content : Bytes}
  {place : Place}

/-- In the tree `t'`, a path leads to a file with the content at `p`. Everything else is as in the
tree `t`, where `p` was free or a file. -/
structure Written (t t' : FileTree) (path : Text) (content : Bytes) (p : Path) : Prop where
  /-- The path leads to the file. -/
  leads : t'.locate .inspect path = .ok (.found p (.file content))
  /-- Only the file is new or changed. -/
  frame : ∀ q, q ≠ p → t'.get? q = t.get? q
  /-- No folder and no symbolic link gives way to the file. -/
  before : ∀ n, t.get? p = some n → ∃ old, n = .file old
  /-- The working folder stays. -/
  home : t'.home = t.home

theorem written_put (h : t.locate m path = .ok place) (hp : p ∈ place.target?)
    (content : Bytes) : Written t (t.put p (.file content)) path content p := by
  obtain ⟨hne, hold⟩ := (holds_of_locate h).get?_target hp
  exact
    { leads := locate_put h hp content
      frame := fun q hq => by rw [get?_put t hne, if_neg hq]
      before := hold
      home := rfl }

/-- A file that was put where nothing was leaves all entries as they were. -/
theorem Written.get?_of_free (h : Written t t' path content p) (hp : t.get? p = none) {q : Path}
    {n : Node} (hq : t.get? q = some n) : t'.get? q = some n := by
  have hne : q ≠ p := fun he => by
    rw [he, hp] at hq
    cases hq
  rw [h.frame q hne, hq]

theorem overwrite_written (h : t.overwrite path content = .ok t') :
    ∃ p, Written t t' path content p := by
  obtain ⟨place, hl, hw⟩ := Steps.bind_eq_ok.1 h
  cases place with
  | free p =>
    obtain rfl := Except.ok.inj hw
    exact ⟨p, written_put hl rfl content⟩
  | found p n =>
    cases n with
    | folder => cases hw
    | link target => cases hw
    | file old =>
      obtain rfl := Except.ok.inj hw
      exact ⟨p, written_put hl rfl content⟩

theorem create_written (h : t.create path content = .ok t') :
    ∃ p, Written t t' path content p ∧ t.locate .look path = .ok (.free p) := by
  obtain ⟨place, hl, hw⟩ := Steps.bind_eq_ok.1 h
  cases place with
  | found p n => cases hw
  | free p =>
    obtain rfl := Except.ok.inj hw
    exact ⟨p, written_put hl rfl content, locate_look hl⟩

/-- **What is saved is written**, and unless by force there was nothing at its path. -/
theorem save_written {force : Bool} (h : t.save path text force = .ok t') :
    ∃ p, Written t t' path text.encode p ∧
      (force = false → t.locate .look path = .ok (.free p)) := by
  have hs := Steps.mapError_eq_ok.1 h
  cases force with
  | true =>
    obtain ⟨p, hw⟩ := overwrite_written hs
    exact ⟨p, hw, fun hf => by cases hf⟩
  | false =>
    obtain ⟨p, hw, hf⟩ := create_written hs
    exact ⟨p, hw, fun _ => hf⟩

/-! ### What is in the way -/

theorem create_eq_occupied_iff :
    t.create path content = .error .occupied ↔
      ∃ q n, t.locate .create path = .ok (.found q n) := by
  rw [create, Steps.bind_eq_error, or_iff_right locate_ne_occupied]
  constructor
  · rintro ⟨place, hl, hw⟩
    cases place with
    | found q n => exact ⟨q, n, hl⟩
    | free q => cases hw
  · rintro ⟨q, n, hl⟩
    exact ⟨_, hl, rfl⟩

theorem ofCause_eq_occupied_iff {cause : FileError} :
    SaveError.ofCause path cause = .occupied path ↔ cause = .occupied := by
  cases cause <;> simp [SaveError.ofCause]

/-- Unless by force, the error is that something is in the way just where something is found. -/
theorem save_eq_occupied_iff (hs : path.getLast? ≠ some '/') :
    t.save path text false = .error (.occupied path) ↔
      ∃ q n, t.locate .look path = .ok (.found q n) := by
  simp only [save, Bool.false_eq_true, if_false, Steps.mapError_eq_error, ofCause_eq_occupied_iff,
    exists_eq_right, create_eq_occupied_iff, locate_create_iff hs]

/-- Unless by force, a text is saved just where nothing is found. -/
theorem exists_save_iff (hs : path.getLast? ≠ some '/') :
    (∃ t', t.save path text false = .ok t') ↔ ∃ p, t.locate .look path = .ok (.free p) := by
  constructor
  · rintro ⟨t', h⟩
    obtain ⟨p, -, hfree⟩ := save_written h
    exact ⟨p, hfree rfl⟩
  · rintro ⟨p, h⟩
    refine ⟨t.put p (.file text.encode), Steps.mapError_eq_ok.2 ?_⟩
    exact Steps.bind_eq_ok.2 ⟨_, (locate_create_iff hs).2 h, rfl⟩

end LicenseForge.FileTree
