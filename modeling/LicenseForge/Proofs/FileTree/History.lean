import LicenseForge.Proofs.FileTree.Calls

/-!
# Texts that are saved one after the other

A step that succeeds writes one file, and one that fails nothing.  Without force nothing that is
there is touched, so that a tree only grows, and what a path leads to stays.

* `FileTree.Saving`, `FileTree.step`, `FileTree.saveAll` : steps, and the tree behind them.
* `FileTree.Wrote` : what a step that succeeds does to the tree.
* `FileTree.Extends` : a tree has all entries of another one.
* `FileTree.saving_history` : what each step of a history does, and that the first text saved at a
  path stays until there is force.
-/

namespace LicenseForge.FileTree

/-! ### Steps -/

/-- A text that is to be saved. -/
structure Saving where
  /-- Where it is to be saved. -/
  path : Text
  /-- The text. -/
  text : Text
  /-- Whether a file may be overwritten. -/
  force : Bool
  deriving DecidableEq, Repr

/-- The tree with the text saved, or why it cannot be. -/
def Saving.on (s : Saving) (t : FileTree) : Except SaveError FileTree :=
  t.save s.path s.text s.force

/-- The tree that the two calls leave, and why one of them failed. -/
def Saving.calls (s : Saving) (t : FileTree) : FileTree × Except SaveError Unit :=
  t.saveByCalls s.path s.text s.force

/-- The tree behind a step, whether it fails or not. -/
def step (t : FileTree) (s : Saving) : FileTree := (s.calls t).1

/-- The tree behind several steps. -/
def saveAll (t : FileTree) (ss : List Saving) : FileTree := ss.foldl step t

variable {t t' t'' : FileTree} {m : Manner} {links : Nat} {here p q : Path} {steps : List Text}
  {slash : Bool} {path : Text} {s : Saving} {ss : List Saving} {n : Node} {e : SaveError}

theorem calls_of_ok (h : s.on t = .ok t') : s.calls t = (t', .ok ()) := by
  rw [Saving.calls, saveByCalls_eq, ← Saving.on, h]

theorem calls_of_error (h : s.on t = .error e) : s.calls t = (t, .error e) := by
  rw [Saving.calls, saveByCalls_eq, ← Saving.on, h]

theorem step_of_ok (h : s.on t = .ok t') : t.step s = t' := by rw [step, calls_of_ok h]

theorem step_of_error (h : s.on t = .error e) : t.step s = t := by rw [step, calls_of_error h]

/-- The calls report what saving at once reports. -/
theorem snd_calls (s : Saving) (t : FileTree) : (s.calls t).2 = (s.on t).map fun _ => () := by
  cases h : s.on t with
  | error e => rw [calls_of_error h]; rfl
  | ok t' => rw [calls_of_ok h]; rfl

/-! ### What a step writes -/

/-- A step has written its text to a file at `p`. Everything but files stays in any case, and
without force all that was there. -/
structure Wrote (t t' : FileTree) (s : Saving) (p : Path) : Prop
    extends Written t t' s.path s.text.encode p where
  /-- The file holds the text. -/
  stands : t'.get? p = some (.file s.text.encode)
  /-- Folders and symbolic links stay. -/
  keeps : ∀ q n, t.get? q = some n → (∀ content, n ≠ .file content) → t'.get? q = some n
  /-- Without force there was nothing. -/
  fresh : s.force = false → t.locate .look s.path = .ok (.free p) ∧ t.get? p = none ∧
    ∀ q n, t.get? q = some n → t'.get? q = some n

theorem exists_wrote (h : s.on t = .ok t') : ∃ p, Wrote t t' s p := by
  obtain ⟨p, hw, hfree⟩ := save_written h
  refine ⟨p, hw, (holds_of_locate hw.leads).2, ?_, ?_⟩
  · intro q n hq hn
    have hne : q ≠ p := by
      rintro rfl
      obtain ⟨old, rfl⟩ := hw.before n hq
      exact hn old rfl
    rw [hw.frame q hne, hq]
  · intro hf
    have hnone : t.get? p = none := (holds_of_locate (hfree hf)).2
    exact ⟨hfree hf, hnone, fun q n hq => hw.get?_of_free hnone hq⟩

/-- Symbolic links and folders stay, whatever is saved. -/
theorem get?_saveAll (ss : List Saving) (hq : t.get? q = some n)
    (hn : ∀ content, n ≠ .file content) : (t.saveAll ss).get? q = some n := by
  induction ss generalizing t with
  | nil => exact hq
  | cons s ss ih =>
    refine ih ?_
    cases h : s.on t with
    | error e => rwa [step_of_error h]
    | ok t' =>
      obtain ⟨p, hw⟩ := exists_wrote h
      rw [step_of_ok h]
      exact hw.keeps q n hq hn

/-! ### Trees that grow -/

/-- All entries of a tree are in another one, as they are, and the working folder is the same. -/
structure Extends (t t' : FileTree) : Prop where
  /-- The entries are kept. -/
  kept : ∀ q n, t.get? q = some n → t'.get? q = some n
  /-- The working folder is kept. -/
  home : t'.home = t.home

theorem Extends.refl (t : FileTree) : Extends t t := ⟨fun _ _ h => h, rfl⟩

theorem Extends.trans (h : Extends t t') (h' : Extends t' t'') : Extends t t'' :=
  ⟨fun q n hq => h'.kept q n (h.kept q n hq), h'.home.trans h.home⟩

/-- A route to something leads there still. -/
theorem Extends.leads (ht : Extends t t') (h : Leads t m links here steps slash (.found p n)) :
    Leads t' m links here steps slash (.found p n) := by
  generalize hplace : Place.found p n = place at h ⊢
  induction h with
  | done => exact .done
  | stay _ ih => exact .stay (ih hplace)
  | leave _ ih => exact .leave (ih hplace)
  -- something may be now where nothing was
  | free => cases hplace
  | file ha hn => exact .file ha (ht.kept _ _ hn)
  | enter ha hn _ ih => exact .enter ha (ht.kept _ _ hn) (ih hplace)
  | link ha hm hn => exact .link ha hm (ht.kept _ _ hn)
  | follow ha hm hn _ ih => exact .follow ha hm (ht.kept _ _ hn) (ih hplace)

theorem Extends.locate (ht : Extends t t') (h : t.locate m path = .ok (.found p n)) :
    t'.locate m path = .ok (.found p n) := by
  obtain ⟨h0, hne, hl, hw⟩ := locate_eq_ok_iff.1 h
  exact locate_eq_ok_iff.2 ⟨h0, hne, hl, ht.home ▸ ht.leads hw⟩

theorem extends_step (hs : s.force = false) : Extends t (t.step s) := by
  cases h : s.on t with
  | error e =>
    rw [step_of_error h]
    exact .refl t
  | ok t' =>
    obtain ⟨p, hw⟩ := exists_wrote h
    rw [step_of_ok h]
    exact ⟨(hw.fresh hs).2.2, hw.home⟩

/-- Steps without force only add to a tree. -/
theorem extends_saveAll (h : ∀ s ∈ ss, s.force = false) : Extends t (t.saveAll ss) := by
  induction ss generalizing t with
  | nil => exact .refl t
  | cons s ss ih =>
    obtain ⟨hs, hss⟩ := List.forall_mem_cons.1 h
    exact (extends_step hs).trans (ih hss)

/-! ### What stays -/

/-- Where a text was saved there is something in the way of all that follow. -/
theorem on_eq_occupied {s' : Saving} (hs : s.on t = .ok t') (he : Extends t' t'')
    (hf : s'.force = false) (hp : s'.path = s.path) :
    s'.on t'' = .error (.occupied s.path) := by
  obtain ⟨p, hw⟩ := exists_wrote hs
  have hslash : s.path.getLast? ≠ some '/' := getLast?_ne_slash hw.leads rfl
  rw [Saving.on, hf, hp]
  exact (save_eq_occupied_iff hslash).2 (exists_locate_look (he.locate hw.leads))

/-- **What saving does in any history.**  Behind any steps all folders and symbolic links are where
they were.  The calls of a step report what saving at once does.  A step that fails leaves the tree
as it was.  One that succeeds has written one file, to which its path leads, and nothing else;
without force there was nothing at the path.  Unless a slash
is behind the path, a step without force succeeds just where nothing is found, and reports that
something is in the way just where something is.  And as long as no step has force, what was saved
at a path stays, and nothing else is saved there. -/
theorem saving_history (t : FileTree) (before after : List Saving) (s : Saving) :
    let u := t.saveAll before
    let u' := u.step s
    (∀ q n, t.get? q = some n → (∀ content, n ≠ .file content) → u.get? q = some n) ∧
      (s.calls u).2 = (s.on u).map (fun _ => ()) ∧
      (∀ e, s.on u = .error e → u' = u) ∧
      (∀ v, s.on u = .ok v → u' = v ∧ ∃ p, Wrote u u' s p) ∧
      (s.force = false → s.path.getLast? ≠ some '/' →
        ((∃ v, s.on u = .ok v) ↔ ∃ q, u.locate .look s.path = .ok (.free q)) ∧
        (s.on u = .error (.occupied s.path) ↔
          ∃ q n, u.locate .look s.path = .ok (.found q n))) ∧
      ∀ v, s.on u = .ok v → (∀ s' ∈ after, s'.force = false) →
        (∃ p, (u'.saveAll after).locate .inspect s.path
          = .ok (.found p (.file s.text.encode))) ∧
        ∀ mid s' rest, after = mid ++ s' :: rest → s'.path = s.path →
          s'.on (u'.saveAll mid) = .error (.occupied s.path) := by
  intro u u'
  refine ⟨fun q n hq hn => get?_saveAll before hq hn, snd_calls s u, fun e he => step_of_error he,
    ?_, ?_, ?_⟩
  · intro v hv
    have hu : u' = v := step_of_ok hv
    exact ⟨hu, hu ▸ exists_wrote hv⟩
  · intro hf hs
    rw [Saving.on, hf]
    exact ⟨exists_save_iff hs, save_eq_occupied_iff hs⟩
  · intro v hv hafter
    obtain rfl : u' = v := step_of_ok hv
    obtain ⟨p, hw⟩ := exists_wrote hv
    refine ⟨⟨p, (extends_saveAll hafter).locate hw.leads⟩, ?_⟩
    rintro mid s' rest rfl hp
    -- up to the later step the tree has only grown
    obtain ⟨hmid, hrest⟩ := List.forall_mem_append.1 hafter
    exact on_eq_occupied hv (extends_saveAll hmid) (List.forall_mem_cons.1 hrest).1 hp

/-- At a symbolic link that leads nowhere, nothing is saved without force. By force the file to
which it leads is written, and this is the text that stays. -/
theorem saving_history_dangling_link :
    let t : FileTree :=
      { entries := [(["h".toList], .folder), (["h".toList, "e".toList], .folder),
          (["h".toList, "l".toList], .link "e/x".toList)]
        home := ["h".toList] }
    let a : Saving := ⟨"l".toList, "A".toList, false⟩
    let b : Saving := ⟨"l".toList, "B".toList, true⟩
    let c : Saving := ⟨"n".toList, "C".toList, false⟩
    let d : Saving := ⟨"l".toList, "D".toList, false⟩
    (a.on t = .error (.occupied a.path) ∧ t.step a = t) ∧
      (∃ v, b.on (t.saveAll [a]) = .ok v ∧ (t.saveAll [a]).step b = v ∧
        ∃ p, Wrote (t.saveAll [a]) (t.saveAll [a, b]) b p) ∧
      (∀ s' ∈ [c, d], s'.force = false) ∧
      (∃ p, (t.saveAll [a, b, c, d]).locate .inspect b.path
        = .ok (.found p (.file b.text.encode))) ∧
      d.on (t.saveAll [a, b, c]) = .error (.occupied b.path) := by
  intro t a b c d
  have hlink : t.get? ["h".toList, "l".toList] = some (.link "e/x".toList) := rfl
  have hlook : t.locate .look a.path
      = .ok (.found ["h".toList, "l".toList] (.link "e/x".toList)) := by
    refine locate_eq_ok_iff.2 ⟨by decide, by decide, by decide, ?_⟩
    exact .link (by decide) rfl hlink
  obtain ⟨-, -, hfail, -, hoccupied, -⟩ := saving_history t [] [] a
  have ha : a.on t = .error (.occupied a.path) :=
    (hoccupied rfl (by decide)).2.2 ⟨_, _, hlook⟩
  have ht : t.saveAll [a] = t := hfail _ ha
  have hplace : t.locate .overwrite b.path
      = .ok (.free ["h".toList, "e".toList, "x".toList]) := by
    refine locate_eq_ok_iff.2 ⟨by decide, by decide, by decide, ?_⟩
    refine .follow (by decide) (by decide) hlink ?_
    refine .enter (by decide) rfl ?_
    exact .free (by decide) rfl
  have hb : b.on (t.saveAll [a])
      = .ok (t.put ["h".toList, "e".toList, "x".toList] (.file b.text.encode)) := by
    rw [ht, Saving.on, save, if_pos rfl, overwrite, hplace]
    rfl
  have hcd : ∀ s' ∈ [c, d], s'.force = false := by decide
  obtain ⟨-, -, -, hwrote, -, hstays⟩ := saving_history t [a] [c, d] b
  obtain ⟨hv, hw⟩ := hwrote _ hb
  obtain ⟨hleads, hd⟩ := hstays _ hb hcd
  exact ⟨⟨ha, ht⟩, ⟨_, hb, hv, hw⟩, hcd, hleads, hd [c] d [] rfl rfl⟩

end LicenseForge.FileTree
