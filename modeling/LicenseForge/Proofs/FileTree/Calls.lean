import LicenseForge.Proofs.FileTree.Save

/-!
# Saving by two calls

The operating system saves a text in two calls: the first one opens the file, which is empty then,
and the second one writes to it.  A failure in between would leave an empty file behind.

* `FileTree.openEmpty`, `FileTree.append` : the two calls.
* `FileTree.saveByCalls` : one after the other, with the tree that is left in any case.
* `FileTree.saveByCalls_eq` : it is the first call that fails, and then nothing has changed.
-/

namespace LicenseForge.FileTree

variable {t t' : FileTree} {p : Path} {path : Text} {force : Bool}

/-! ### The calls -/

/-- The tree with an empty file to which the path leads, and the place of the file.  By force the
file may have been there, and loses what it held. -/
def openEmpty (t : FileTree) (path : Text) (force : Bool) : Except FileError (FileTree × Path) := do
  match ← t.locate (if force then .overwrite else .create) path with
  | .free p => return (t.put p (.file []), p)
  | .found p (.file _) => if force then return (t.put p (.file []), p) else throw .occupied
  | .found _ _ => throw (if force then .isFolder else .occupied)

/-- The tree with bytes behind those that a file holds. -/
def append (t : FileTree) (p : Path) (content : Bytes) : Except FileError FileTree :=
  match t.get? p with
  | some (.file old) => .ok (t.put p (.file (old ++ content)))
  | some _ => .error .isFolder
  | none => .error .notFound

/-- The tree that both calls leave, and why one of them failed. -/
def saveByCalls (t : FileTree) (path text : Text) (force : Bool) :
    FileTree × Except SaveError Unit :=
  match t.openEmpty path force with
  | .error cause => (t, .error (.ofCause path cause))
  | .ok (opened, p) =>
    match opened.append p text.encode with
    | .error cause => (opened, .error (.ofCause path cause))
    | .ok written => (written, .ok ())

/-! ### What they leave -/

theorem putEntry_putEntry (p : Path) (n n' : Node) (es : List (Path × Node)) :
    putEntry p n' (putEntry p n es) = putEntry p n' es := by
  induction es with
  | nil => simp [putEntry]
  | cons e es ih => by_cases h : e.1 = p <;> simp [putEntry, h, ih]

@[simp] theorem put_put (t : FileTree) (p : Path) (n n' : Node) :
    (t.put p n).put p n' = t.put p n' := by
  simp [put, putEntry_putEntry]

/-- A file that has just been opened is there to be written to. -/
theorem append_put_empty (t : FileTree) (hp : p ≠ []) (content : Bytes) :
    (t.put p (.file [])).append p content = .ok (t.put p (.file content)) := by
  rw [append, get?_put t hp, if_pos rfl]
  simp

/-- A file that is open is empty, wherever it is. -/
theorem openEmpty_eq_ok (h : t.openEmpty path force = .ok (t', p)) :
    p ≠ [] ∧ t' = t.put p (.file []) := by
  obtain ⟨place, hl, hw⟩ := Steps.bind_eq_ok.1 h
  have hplace := holds_of_locate hl
  cases place with
  | free q =>
    obtain ⟨rfl, rfl⟩ := Prod.mk.inj (Except.ok.inj hw)
    exact ⟨(hplace.get?_target rfl).1, rfl⟩
  | found q n =>
    cases n with
    | folder => cases hw
    | link target => cases hw
    | file old =>
      cases force with
      | false => cases hw
      | true =>
        obtain ⟨rfl, rfl⟩ := Prod.mk.inj (Except.ok.inj hw)
        exact ⟨(hplace.get?_target rfl).1, rfl⟩

/-- What is written at once goes to the file that would be opened, or there is none. -/
theorem save_eq_map_openEmpty (t : FileTree) (path text : Text) (force : Bool) :
    t.save path text force = ((t.openEmpty path force).map fun opened =>
      t.put opened.2 (.file text.encode)).mapError (SaveError.ofCause path) := by
  cases force with
  | false =>
    simp only [save, create, openEmpty, Bool.false_eq_true, if_false]
    rcases t.locate .create path with e | ⟨q, n | n | n⟩ | q <;> rfl
  | true =>
    simp only [save, overwrite, openEmpty, if_true]
    rcases t.locate .overwrite path with e | ⟨q, n | n | n⟩ | q <;> rfl

/-- **Saving by two calls is saving at once.**  The second call never fails, so that a failure
leaves the tree as it was. -/
theorem saveByCalls_eq (t : FileTree) (path text : Text) (force : Bool) :
    t.saveByCalls path text force = match t.save path text force with
      | .ok written => (written, .ok ())
      | .error e => (t, .error e) := by
  rw [saveByCalls, save_eq_map_openEmpty]
  cases h : t.openEmpty path force with
  | error cause => rfl
  | ok opened =>
    obtain ⟨t', p⟩ := opened
    obtain ⟨hp, rfl⟩ := openEmpty_eq_ok h
    simp only [append_put_empty t hp]
    rfl

end LicenseForge.FileTree
