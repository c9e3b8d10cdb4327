import LicenseForge.Program.Run
import LicenseForge.Proofs.Catalog.Builtin
import LicenseForge.Proofs.FileTree.Save

/-!
# What a run does to the files

A run writes to the files in one place, and only after everything else has succeeded.

* `World.Generates` : a run is asked to write a license to a file.
* `Generation.Resolves` : the license and the values that a generation arrives at.
* `Outcome.Saves` : an outcome keeps the files, unless it is a license saved successfully.
* `World.run_files` : a run keeps the files or adds the one file that it was asked for.
-/

namespace LicenseForge

/-! ### What is asked for and found -/

/-- The command line asks for a license in a file. -/
def World.Generates (w : World) (i : Invocation) (g : Generation) : Prop :=
  Invocation.parse w.words w.environment.templates = .ok i ∧ i.command = .generate g ∧
    g.toStdout = false

namespace Generation

/-- The dialog in which a generation asks for what the license leaves open. -/
def dialog (p : Palette) (s : Surroundings) : Dialog :=
  { input := { unread := s.input }, palette := p }

/-- The license of a generation, and the values that are given, asked for or left open. -/
def Resolves (g : Generation) (i : Invocation) (s : Surroundings) (l : License) (f : Filling) :
    Prop :=
  ∃ c, (Catalog.load s.files i.templates).result = .ok c ∧ c.find g.license = .ok l ∧
    ((dialog (.ofBool (i.color.resolve s.terminal)) s).complete l g.filling (!g.noPrompt)
      s.now).1 = .given f

/-- In the tree `t'` the path of the generation leads to a text that was not in the tree `t`.
Unless by force, nothing was at the path. -/
def Saved (g : Generation) (t : FileTree) (text : Text) (t' : FileTree) : Prop :=
  ∃ p, t.Written t' g.output text.encode p ∧
    (g.force = false → t.locate .look g.output = .ok (.free p))

end Generation

/-! ### One stage after the other -/

namespace Outcome

/-- An outcome keeps the files, unless it is the success of a generation to a file. Then what it
makes of the files has the property `saved`. -/
structure Saves (o : Outcome) (files : FileTree) (g : Generation) (saved : FileTree → Prop) :
    Prop where
  /-- The files are kept. -/
  kept : o.status ≠ some 0 ∨ g.toStdout → o.files = files
  /-- The license is saved. -/
  saved : o.status = some 0 → g.toStdout = false → saved o.files

variable {o : Outcome} {files : FileTree} {g : Generation} {saved saved' : FileTree → Prop}

theorem Saves.imp (h : o.Saves files g saved) (hs : ∀ t, saved t → saved' t) :
    o.Saves files g saved' :=
  ⟨h.kept, fun h0 hf => hs _ (h.saved h0 hf)⟩

/-- What is emitted makes no difference to the files. -/
theorem Saves.after (h : o.Saves files g saved) (before : List Emission) :
    (o.after before).Saves files g saved :=
  ⟨h.kept, h.saved⟩

/-- An outcome that is no success need only keep the files. -/
theorem saves_of_status_ne (h : o.status ≠ some 0) (hf : o.files = files) :
    o.Saves files g saved :=
  ⟨fun _ => hf, fun h0 => absurd h0 h⟩

@[simp] theorem result_status (filter : LogFilter) (color : Bool) :
    (o.result filter color).status = o.status := rfl

@[simp] theorem result_files (filter : LogFilter) (color : Bool) :
    (o.result filter color).files = o.files := rfl

theorem saves_failure (message : Text) : (failure files message).Saves files g saved :=
  saves_of_status_ne (by simp [failure]) rfl

end Outcome

namespace Generation

variable (g : Generation) (p : Palette) (s : Surroundings)

theorem deliver_saves (l : License) (files : FileTree) (text : Text) :
    (g.deliver l p files text).Saves files g (g.Saved files text) := by
  rw [deliver]
  split
  next hout => exact ⟨fun _ => rfl, fun _ hf => by rw [hout] at hf; cases hf⟩
  next hout =>
    split
    next => exact Outcome.saves_failure _
    next t' hsave =>
      -- the only write of a run, and nothing that could fail comes after it
      have hw : g.Saved files text t' := FileTree.save_written hsave
      refine ⟨fun h => ?_, fun _ _ => hw⟩
      rcases h with h | h
      · exact absurd rfl h
      · exact absurd h hout

theorem complete_saves (l : License) :
    (g.complete l p s).Saves s.files g fun t =>
      ∃ f, ((dialog p s).complete l g.filling (!g.noPrompt) s.now).1 = .given f ∧
        g.Saved s.files (l.fill f s.now ++ ['\n']) t := by
  rw [complete]
  refine Outcome.Saves.after ?_ _
  split
  next => exact Outcome.saves_of_status_ne (fun h => by cases h) rfl
  next => exact Outcome.saves_failure _
  next f hf =>
    refine ((g.deliver_saves p l s.files _).after _).imp fun t ht => ?_
    exact ⟨f, hf, ht⟩

theorem perform_saves (c : Catalog) :
    (g.perform c p s).Saves s.files g fun t =>
      ∃ l f, c.find g.license = .ok l ∧
        ((dialog p s).complete l g.filling (!g.noPrompt) s.now).1 = .given f ∧
        g.Saved s.files (l.fill f s.now ++ ['\n']) t := by
  rw [perform]
  split
  next => exact Outcome.saves_of_status_ne (by simp [UnknownLicense.outcome]) rfl
  next l hl =>
    refine (g.complete_saves p s l).imp fun t ht => ?_
    obtain ⟨f, hf, ht⟩ := ht
    exact ⟨l, f, hl, hf, ht⟩

end Generation

namespace Invocation

variable {i : Invocation} {g : Generation} (s : Surroundings)

theorem perform_saves (h : i.command = .generate g) :
    (i.perform s).Saves s.files g fun t =>
      ∃ l f, g.Resolves i s l f ∧ g.Saved s.files (l.fill f s.now ++ ['\n']) t := by
  rw [perform, performWith]
  refine Outcome.Saves.after ?_ _
  split
  next => exact Outcome.saves_failure _
  next c hc =>
    rw [h]
    refine (g.perform_saves _ s c).imp fun t ht => ?_
    obtain ⟨l, f, hl, hf, ht⟩ := ht
    exact ⟨l, f, ⟨c, hc, hl, hf⟩, ht⟩

/-- A generation succeeds if the filled-in license can be saved. -/
theorem perform_status_of_save {s : Surroundings} {l : License} {f : Filling} {t : FileTree}
    (h : i.command = .generate g) (hr : g.Resolves i s l f)
    (hs : s.files.save g.output (l.fill f s.now ++ ['\n']) g.force = .ok t) :
    (i.perform s).status = some 0 := by
  obtain ⟨c, hc, hl, hf⟩ := hr
  rw [Generation.dialog] at hf
  have hd : (g.deliver l (.ofBool (i.color.resolve s.terminal)) s.files
      (l.fill f s.now ++ ['\n'])).status = some 0 := by
    rw [Generation.deliver]
    split
    · rfl
    · rw [hs]
      rfl
  simp only [perform, performWith, Outcome.after, hc, h, Command.perform, Generation.perform, hl,
    Generation.complete, hf]
  exact hd

/-- A command that generates nothing keeps the files. -/
theorem perform_files (h : ∀ g, i.command ≠ .generate g) : (i.perform s).files = s.files := by
  rw [perform, performWith]
  split
  next => rfl
  next c _ =>
    cases hc : i.command with
    | list => rfl
    | generate g => exact absurd hc (h g)
    | info id =>
      simp only [Command.perform]
      split <;> rfl

end Invocation

/-! ### The whole run -/

namespace World

variable (w : World)

@[simp] theorem surroundings_files : w.surroundings.files = w.files := rfl

theorem perform_status (i : Invocation) :
    (w.perform i).status = (i.perform w.surroundings).status := by
  rw [perform, Outcome.result_status]

theorem perform_files (i : Invocation) :
    (w.perform i).files = (i.perform w.surroundings).files := by
  rw [perform, Outcome.result_files]

theorem run_files_of_not_generates (h : ¬∃ i g, w.Generates i g) : w.run.files = w.files := by
  rw [run]
  split
  next i hi =>
    by_cases hg : ∃ g, i.command = .generate g
    · obtain ⟨g, hg⟩ := hg
      have hout : g.toStdout = true := by
        cases hout : g.toStdout with
        | true => rfl
        | false => exact absurd ⟨i, g, hi, hg, hout⟩ h
      rw [perform_files]
      exact (Invocation.perform_saves w.surroundings hg).kept (.inr hout)
    · rw [perform_files]
      exact Invocation.perform_files w.surroundings fun g hc => hg ⟨g, hc⟩
  next => rfl

theorem run_eq_of_generates {i : Invocation} {g : Generation} (h : w.Generates i g) :
    w.run = w.perform i := by
  rw [run, h.1]

/-- **What a run does to the files.** Unless it is a successful generation to a file, nothing.
Else the path that was asked for leads to the license, filled in, and all else is as it was; and
unless by force nothing was at the path, so that every entry stands as before. -/
theorem run_files :
    (w.run.status ≠ some 0 ∨ (¬∃ i g, w.Generates i g) → w.run.files = w.files) ∧
      ∀ i g, w.Generates i g → w.run.status = some 0 →
        ∃ l f p, g.Resolves i w.surroundings l f ∧
          w.files.Written w.run.files g.output (l.fill f w.now ++ ['\n'] : Text).encode p ∧
          (g.force = false → w.files.locate .look g.output = .ok (.free p) ∧
            w.files.get? p = none ∧
            ∀ q n, w.files.get? q = some n → w.run.files.get? q = some n) := by
  refine ⟨fun h => ?_, fun i g hg hstatus => ?_⟩
  · -- only a generation to a file could change something, and it would have to succeed
    by_cases hg : ∃ i g, w.Generates i g
    · obtain ⟨i, g, hg⟩ := hg
      have hstatus : w.run.status ≠ some 0 := h.resolve_right (not_not_intro ⟨i, g, hg⟩)
      rw [w.run_eq_of_generates hg, perform_status] at hstatus
      rw [w.run_eq_of_generates hg, perform_files]
      exact (Invocation.perform_saves w.surroundings hg.2.1).kept (.inl hstatus)
    · exact w.run_files_of_not_generates hg
  · rw [w.run_eq_of_generates hg, perform_status] at hstatus
    rw [w.run_eq_of_generates hg, perform_files]
    obtain ⟨l, f, hr, p, hw, hp⟩ :=
      (Invocation.perform_saves w.surroundings hg.2.1).saved hstatus hg.2.2
    refine ⟨l, f, p, hr, hw, fun hforce => ?_⟩
    -- the place was free, so the file that is there now is in the place of no entry
    have hfree := hp hforce
    have hnone : w.files.get? p = none := (FileTree.holds_of_locate hfree).2
    exact ⟨hfree, hnone, fun q n hq => hw.get?_of_free hnone hq⟩

/-- A license that is saved in a folder behind a symbolic link, next to a link that leads nowhere,
and a run that only shows the version. -/
theorem run_files_behind_link :
    let w : World :=
      { words := ["ISC".toList, "--name=A".toList, "-y2020".toList, "-o".toList, "d/../l".toList]
        files :=
          { entries := [(["h".toList], .folder), (["h".toList, "d".toList], .link "/e/f".toList),
              (["e".toList], .folder), (["e".toList, "f".toList], .folder),
              (["e".toList, "f".toList, "l".toList], .link "x".toList)]
            home := ["h".toList] }
        now := 2024 }
    let w' : World := { w with words := ["--version".toList] }
    (∃ i g, (w.Generates i g ∧ w.run.status = some 0 ∧ g.force = false) ∧
      ∃ l f p, g.Resolves i w.surroundings l f ∧
        w.files.Written w.run.files g.output (l.fill f w.now ++ ['\n'] : Text).encode p ∧
        w.files.locate .look g.output = .ok (.free p) ∧ w.files.get? p = none ∧
        ∀ q n, w.files.get? q = some n → w.run.files.get? q = some n) ∧
      (¬∃ i g, w'.Generates i g) ∧ w'.run.files = w'.files := by
  intro w w'
  have hno : ¬∃ i g, w'.Generates i g := by
    rintro ⟨i, g, hp, -⟩
    have hv : Invocation.parse w'.words w'.environment.templates = .error .version := by
      decide +kernel
    rw [hv] at hp
    cases hp
  refine ⟨?_, hno, w'.run_files.1 (.inr hno)⟩
  -- the texts of the licenses are long: that they load is known, and is not computed here
  obtain ⟨c, hc, hget⟩ := Catalog.exists_builtin
  obtain ⟨l, hisc⟩ := Builtin.exists_describes Builtin.isc_mem_templates
  have hl : c.get? "isc".toList = some l := (hget _ l).2 hisc
  let g : Generation :=
    { license := "ISC".toList
      filling := ⟨some "A".toList, some "2020".toList⟩
      output := "d/../l".toList }
  let i : Invocation := { command := .generate g }
  have hg : w.Generates i g := ⟨by decide +kernel, rfl, rfl⟩
  have hr : g.Resolves i w.surroundings l g.filling := by
    have hkey : Text.lowercase "ISC".toList = Text.lowercase "isc".toList := by decide +kernel
    refine ⟨c, Catalog.load_none hc _, Catalog.find_eq_ok_of_get? ?_, rfl⟩
    rw [← hl]
    exact congrArg c.find? hkey
  have hfree : w.files.locate .create g.output = .ok (.free ["e".toList, "l".toList]) := by
    refine FileTree.locate_eq_ok_iff.2 ⟨by decide, by decide, by decide, ?_⟩
    have hd : w.files.get? ["h".toList, "d".toList] = some (.link "/e/f".toList) := rfl
    refine .follow (by decide) (by decide) hd ?_
    refine .enter (by decide) rfl ?_
    refine .enter (by decide) rfl ?_
    refine .leave ?_
    exact .free (by decide) rfl
  have hs (text : Text) : w.surroundings.files.save g.output text g.force
      = .ok (w.files.put ["e".toList, "l".toList] (.file text.encode)) := by
    rw [FileTree.save, if_neg (by decide), FileTree.create, w.surroundings_files, hfree]
    rfl
  have h0 : w.run.status = some 0 := by
    rw [w.run_eq_of_generates hg, w.perform_status]
    exact Invocation.perform_status_of_save rfl hr (hs _)
  obtain ⟨l, f, p, hres, hw, hp⟩ := w.run_files.2 i g hg h0
  exact ⟨i, g, ⟨hg, h0, rfl⟩, l, f, p, hres, hw, hp rfl⟩

end World

end LicenseForge
