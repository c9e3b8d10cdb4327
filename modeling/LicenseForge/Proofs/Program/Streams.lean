import LicenseForge.Proofs.Dialog.Question
import LicenseForge.Proofs.Program.Files
import LicenseForge.Proofs.Program.Palette

/-!
# What goes to which stream

* `Event.logged`, `Entry.transcript` : events and dialogs as they stand on the error output.
* `Generation.Ends` : how a generation to the output ends, with all that it leaves on both streams.
* `Invocation.perform_ends` : these are all ways to end.
* `World.run_streams` : what is generated to the output stands there alone.
-/

namespace LicenseForge

variable {filter : LogFilter} {color : Bool}

/-! ### The error output -/

/-- An event as it stands in the log. -/
def Event.logged (filter : LogFilter) (color : Bool) (e : Event) : Bytes :=
  if filter.admits e then (e.line color).encode else []

/-- A complaint as it stands on the error output. -/
def Text.complained (message : Text) : Bytes :=
  Text.encode ("error: ".toList ++ message ++ ['\n'])

/-- An entry of a dialog that is held on the error output. -/
def Entry.transcript (filter : LogFilter) (color : Bool) : Entry → Bytes
  | .shown bytes => bytes
  | .complaint message => message.complained
  | .reported e => e.logged filter color

/-- Events go to the log and nowhere else. -/
theorem Emission.stdout_events (es : List Event) : (es.map Emission.event).flatMap stdout = [] := by
  rw [List.flatMap_map, List.flatMap_eq_nil_iff]
  intro e _
  rfl

theorem Emission.stderr_events (es : List Event) :
    (es.map Emission.event).flatMap (stderr filter color) =
      es.flatMap (Event.logged filter color) := by
  rw [List.flatMap_map]
  rfl

theorem Emission.stderr_ofEntry (record : List Entry) :
    (record.map (ofEntry true)).flatMap (stderr filter color) =
      record.flatMap (Entry.transcript filter color) := by
  rw [List.flatMap_map]
  congr 1
  funext e
  cases e <;> rfl

/-- Questions on the output leave nothing else there. -/
theorem Emission.stdout_ofEntry_false (d : Dialog) :
    (d.record.map (ofEntry false)).flatMap stdout = d.shown := by
  rw [List.flatMap_map, Dialog.shown]
  congr 1
  funext e
  cases e <;> rfl

namespace Outcome

variable (o : Outcome) (before : List Emission) (files : FileTree)

theorem result_stdout : (o.result filter color).stdout = o.stdout := rfl

theorem result_stderr : (o.result filter color).stderr = o.stderr filter color := rfl

theorem after_status : (o.after before).status = o.status := rfl

theorem after_stdout :
    (o.after before).stdout = before.flatMap Emission.stdout ++ o.stdout :=
  List.flatMap_append

theorem after_stderr : (o.after before).stderr filter color =
    before.flatMap (Emission.stderr filter color) ++ o.stderr filter color :=
  List.flatMap_append

theorem failure_stdout (message : Text) : (failure files message).stdout = [] := rfl

theorem failure_stderr (message : Text) :
    (failure files message).stderr filter color = message.complained :=
  List.append_nil _

theorem success_stdout (es : List Emission) :
    (success files es).stdout = es.flatMap Emission.stdout := rfl

theorem success_stderr (es : List Emission) :
    (success files es).stderr filter color = es.flatMap (Emission.stderr filter color) := rfl

end Outcome

/-- The hint that follows when there is no license with the id. -/
def UnknownLicense.hint : Bytes := Text.encode "\nRun 'licgen list' for the full list.\n".toList

theorem UnknownLicense.outcome_stderr (e : UnknownLicense) (files : FileTree) :
    (e.outcome files).stderr filter color = e.message.complained ++ hint := by
  rw [Outcome.stderr, outcome, List.flatMap_cons, List.flatMap_cons, List.flatMap_nil,
    List.append_nil]
  rfl

/-! ### How a generation ends -/

namespace Generation

/-- What a generation reports while the licenses are loaded. -/
def loadLog (i : Invocation) (s : Surroundings) (filter : LogFilter) (color : Bool) : Bytes :=
  (Catalog.load s.files i.templates).events.flatMap (Event.logged filter color)

/-- The dialog of a generation when it is over. -/
def finished (g : Generation) (i : Invocation) (s : Surroundings) (l : License) :
    Dialog.Reply Filling × Dialog :=
  (dialog (.ofBool (i.color.resolve s.terminal)) s).complete l g.filling (!g.noPrompt) s.now

/-- How a generation to the output ends: with a status, and with what it leaves on the output and on
the error output. -/
inductive Ends (g : Generation) (i : Invocation) (s : Surroundings) (filter : LogFilter)
    (color : Bool) : Option Nat → Bytes → Bytes → Prop
  /-- The licenses cannot be loaded. -/
  | unloaded {e : CatalogError} (hload : (Catalog.load s.files i.templates).result = .error e) :
    Ends g i s filter color (some 1) [] (loadLog i s filter color ++ e.message.complained)
  /-- There is no such license. -/
  | unknown {c : Catalog} {e : UnknownLicense}
    (hload : (Catalog.load s.files i.templates).result = .ok c)
    (hfind : c.find g.license = .error e) :
    Ends g i s filter color (some 1) []
      (loadLog i s filter color ++ (e.message.complained ++ UnknownLicense.hint))
  /-- The questions cannot be asked or answered. -/
  | unanswered {c : Catalog} {l : License} {e : StreamError}
    (hload : (Catalog.load s.files i.templates).result = .ok c) (hfind : c.find g.license = .ok l)
    (hreply : (g.finished i s l).1 = .failed e) :
    Ends g i s filter color (some 1) [] (loadLog i s filter color ++
      ((g.finished i s l).2.record.flatMap (Entry.transcript filter color) ++
        (Dialog.failure e).complained))
  /-- Every answer is refused, for ever. -/
  | unending {c : Catalog} {l : License} {err : Bytes}
    (hload : (Catalog.load s.files i.templates).result = .ok c) (hfind : c.find g.license = .ok l)
    (hreply : (g.finished i s l).1 = .endless) : Ends g i s filter color none [] err
  /-- The license is filled in. -/
  | filled {c : Catalog} {l : License} {f : Filling}
    (hload : (Catalog.load s.files i.templates).result = .ok c) (hfind : c.find g.license = .ok l)
    (hreply : (g.finished i s l).1 = .given f) :
    Ends g i s filter color (some 0) (l.fill f s.now ++ ['\n'] : Text).encode
      (loadLog i s filter color ++
        ((g.finished i s l).2.record.flatMap (Entry.transcript filter color) ++
          (Event.filled (l.invocation f)).logged filter color))

end Generation

namespace Generation

variable {g : Generation} {i : Invocation} {s : Surroundings} {c : Catalog} {l : License}

/-- The outcome of a generation is that of the last stage it reaches, after what the dialog left. -/
theorem complete_eq (g : Generation) (i : Invocation) (s : Surroundings) (l : License) :
    g.complete l (.ofBool (i.color.resolve s.terminal)) s =
      Outcome.after (match (g.finished i s l).1 with
        | .endless => { status := none, emitted := [], files := s.files }
        | .failed e => .failure s.files (Dialog.failure e)
        | .given f => (g.deliver l (.ofBool (i.color.resolve s.terminal)) s.files
            (l.fill f s.now ++ ['\n'])).after [.event (.filled (l.invocation f))])
        ((g.finished i s l).2.record.map (Emission.ofEntry g.toStdout)) := rfl

theorem resolves_of_finished {f : Filling}
    (hload : (Catalog.load s.files i.templates).result = .ok c) (hfind : c.find g.license = .ok l)
    (hreply : (g.finished i s l).1 = .given f) : g.Resolves i s l f := by
  rw [finished] at hreply
  exact ⟨c, hload, hfind, hreply⟩

end Generation

namespace Invocation

variable {i : Invocation} {g : Generation} {s : Surroundings}

/-- A generation does not load the licenses, or does not find the one it is asked for, or fills it
in. What was reported while the licenses were loaded comes first. -/
theorem perform_cases (s : Surroundings) (hg : i.command = .generate g) :
    (∃ e, (Catalog.load s.files i.templates).result = .error e ∧
      i.perform s = (Outcome.failure s.files e.message).after
        ((Catalog.load s.files i.templates).events.map .event)) ∨
    ∃ c, (Catalog.load s.files i.templates).result = .ok c ∧
      ((∃ e, c.find g.license = .error e ∧
        i.perform s = (e.outcome s.files).after
          ((Catalog.load s.files i.templates).events.map .event)) ∨
      ∃ l, c.find g.license = .ok l ∧
        i.perform s = (g.complete l (.ofBool (i.color.resolve s.terminal)) s).after
          ((Catalog.load s.files i.templates).events.map .event)) := by
  cases hload : (Catalog.load s.files i.templates).result with
  | error e =>
    refine .inl ⟨e, rfl, ?_⟩
    simp only [perform, performWith, hload]
  | ok c =>
    refine .inr ⟨c, rfl, ?_⟩
    cases hfind : c.find g.license with
    | error e =>
      refine .inl ⟨e, rfl, ?_⟩
      simp only [perform, performWith, hload, hg, Command.perform, Generation.perform, hfind]
    | ok l =>
      refine .inr ⟨l, rfl, ?_⟩
      simp only [perform, performWith, hload, hg, Command.perform, Generation.perform, hfind]

theorem stderr_loaded : ((Catalog.load s.files i.templates).events.map Emission.event).flatMap
    (Emission.stderr filter color) = Generation.loadLog i s filter color :=
  Emission.stderr_events _

/-- A generation to the output ends in one of these ways. -/
theorem perform_ends (hg : i.command = .generate g) (hout : g.toStdout = true) :
    g.Ends i s filter color (i.perform s).status (i.perform s).stdout
      ((i.perform s).stderr filter color) := by
  rcases perform_cases s hg with
    ⟨e, hload, heq⟩ | ⟨c, hload, ⟨e, hfind, heq⟩ | ⟨l, hfind, heq⟩⟩ <;>
    rw [heq, Outcome.after_status, Outcome.after_stdout, Outcome.after_stderr,
      Emission.stdout_events, stderr_loaded]
  · rw [Outcome.failure_stderr]
    exact .unloaded hload
  · rw [UnknownLicense.outcome_stderr]
    exact .unknown hload hfind
  · rw [Generation.complete_eq, Outcome.after_status, Outcome.after_stdout, Outcome.after_stderr,
      hout, Emission.stdout_ofEntry, Emission.stderr_ofEntry]
    cases hreply : (g.finished i s l).1 with
    | endless => exact .unending hload hfind hreply
    | failed e =>
      simp only [Outcome.failure_stdout, Outcome.failure_stderr]
      exact .unanswered hload hfind hreply
    | given f =>
      have hdeliver (p : Palette) (text : Text) :
          g.deliver l p s.files text = .success s.files [.out text.encode] := if_pos hout
      have hlogged (e : Event) : [Emission.event e].flatMap (Emission.stderr filter color) =
          e.logged filter color := List.append_nil _
      simp only [hdeliver, Outcome.after_status, Outcome.after_stdout, Outcome.after_stderr,
        Outcome.success_stdout, Outcome.success_stderr, hlogged, List.flatMap_cons,
        List.flatMap_nil, Emission.stdout, Emission.stderr, List.append_nil, List.nil_append]
      exact .filled hload hfind hreply

/-- A generation to a file that succeeds leaves the questions on the output, and the report. -/
theorem perform_stdout_of_saved (hg : i.command = .generate g) (hout : g.toStdout = false)
    (h0 : (i.perform s).status = some 0) :
    ∃ l f, g.Resolves i s l f ∧ (i.perform s).stdout = (g.finished i s l).2.shown ++
      (g.report l (.ofBool (i.color.resolve s.terminal))).encode := by
  rcases perform_cases s hg with
    ⟨e, hload, heq⟩ | ⟨c, hload, ⟨e, hfind, heq⟩ | ⟨l, hfind, heq⟩⟩ <;>
    rw [heq, Outcome.after_status] at h0
  · cases h0
  · cases h0
  · rw [heq, Outcome.after_stdout, Emission.stdout_events, List.nil_append]
    rw [Generation.complete_eq, Outcome.after_status] at h0
    rw [Generation.complete_eq, Outcome.after_stdout, hout, Emission.stdout_ofEntry_false]
    cases hreply : (g.finished i s l).1 with
    | endless =>
      rw [hreply] at h0
      cases h0
    | failed e =>
      rw [hreply] at h0
      cases h0
    | given f =>
      refine ⟨l, f, Generation.resolves_of_finished hload hfind hreply, congrArg _ ?_⟩
      simp only [hreply, Outcome.after_status, Outcome.after_stdout] at h0 ⊢
      cases hsave : s.files.save g.output (l.fill f s.now ++ ['\n']) g.force with
      | error e =>
        simp only [Generation.deliver, hout, hsave] at h0
        cases h0
      | ok files =>
        simp [Generation.deliver, hout, hsave, Outcome.success_stdout, Emission.stdout]

/-- A generation to the output succeeds if the license is found and filled in. -/
theorem perform_status_of_resolves {l : License} {f : Filling} (hg : i.command = .generate g)
    (hout : g.toStdout = true) (hr : g.Resolves i s l f) : (i.perform s).status = some 0 := by
  obtain ⟨c, hload, hfind, hreply⟩ := hr
  rw [← Generation.finished] at hreply
  simp only [perform, performWith, hload, hg, Command.perform, Generation.perform, hfind,
    Generation.complete_eq, hreply, Generation.deliver, hout, Outcome.after_status, if_true,
    Outcome.success]

end Invocation

namespace Generation

variable {g : Generation} {i : Invocation} {s : Surroundings} {status : Option Nat}
  {out err : Bytes}

theorem Ends.resolves (h : g.Ends i s filter color (some 0) out err) :
    ∃ l f, g.Resolves i s l f ∧ out = (l.fill f s.now ++ ['\n'] : Text).encode := by
  cases h with
  | filled hload hfind hreply => exact ⟨_, _, resolves_of_finished hload hfind hreply, rfl⟩

theorem Ends.out_eq_nil (h : g.Ends i s filter color status out err) (hne : status ≠ some 0) :
    out = [] := by
  cases h with
  | filled => exact absurd rfl hne
  | _ => rfl

end Generation

/-- Nothing is asked if all is given beforehand. -/
theorem Dialog.complete_of_given {d : Dialog} {l : License} {holder year : Text} {asks : Bool}
    {now : Int} (hholder : holder ≠ []) : d.complete l ⟨some holder, some year⟩ asks now =
      (.given ⟨some holder, some year⟩, d) := by
  have hsome : (some holder).filter (!·.isEmpty) = some holder := by simp [hholder]
  simp [Dialog.complete, Dialog.findHolder, Dialog.findYear, Dialog.noteHolder, hsome]

/-- A license that comes with the program, with all that it leaves open given beforehand. -/
theorem Generation.exists_resolves_isc {g : Generation} {i : Invocation} {holder year : Text}
    (s : Surroundings) (hi : i.templates = none) (hl : g.license = "isc".toList)
    (hf : g.filling = ⟨some holder, some year⟩) (hholder : holder ≠ []) :
    ∃ l, g.Resolves i s l g.filling := by
  obtain ⟨c, hc, hget⟩ := Catalog.exists_builtin
  obtain ⟨l, hisc⟩ := Builtin.exists_describes Builtin.isc_mem_templates
  have hload : (Catalog.load s.files i.templates).result = .ok c := by
    rw [hi]
    exact Catalog.load_none hc _
  have hfind : c.find g.license = .ok l := by
    rw [hl]
    exact Catalog.find_eq_ok_of_get? ((hget _ l).2 hisc)
  refine ⟨l, c, hload, hfind, ?_⟩
  rw [hf, Dialog.complete_of_given hholder]

/-! ### The whole run -/

namespace World

/-- **What is generated to the output stands there alone.** On success the output is the license,
filled in, and a new line, else it is empty; and all that is asked, logged or complained about goes
to the error output, in whatever way the run ends. A license that goes to a file leaves on the
output what was asked, and the line that reports it. All this holds with every terminal; where both
streams are piped, it is what the run of the program does. -/
theorem run_streams (w : World) (i : Invocation) (g : Generation)
    (hi : Invocation.parse w.words w.environment.templates = .ok i) (hg : i.command = .generate g)
    (terminal : Terminal) :
    let s := { w.surroundings with terminal }
    let filter := w.environment.filter i.verbosity
    let color := w.environment.colorsLog
    let p : Palette := .ofBool (i.color.resolve terminal)
    let r := (i.perform s).result filter color
    (terminal = .piped w.environment.noColor → w.run = r) ∧
    (g.toStdout = true →
      (r.status = some 0 → ∃ l f, g.Resolves i s l f ∧
        r.stdout = (l.fill f w.now ++ ['\n'] : Text).encode) ∧
      (r.status ≠ some 0 → r.stdout = []) ∧
      g.Ends i s filter color r.status r.stdout r.stderr) ∧
    (g.toStdout = false → r.status = some 0 → ∃ l f, g.Resolves i s l f ∧
      r.stdout = (Dialog.complete { input := { unread := w.input }, palette := p } l g.filling
          (!g.noPrompt) w.now).2.shown ++
        (p.paint p.green ("Created ".toList ++ g.output ++ " (".toList ++ l.name ++ [')']) ++
          ['\n']).encode) := by
  intro s filter color p r
  have hstatus : r.status = (i.perform s).status := Outcome.result_status ..
  have hstdout : r.stdout = (i.perform s).stdout := Outcome.result_stdout ..
  have hstderr : r.stderr = (i.perform s).stderr filter color := Outcome.result_stderr ..
  rw [hstatus, hstdout, hstderr]
  refine ⟨?_, fun hout => ?_, fun hout h0 => ?_⟩
  · rintro rfl
    rw [run, hi]
    rfl
  · have hends : g.Ends i s filter color (i.perform s).status (i.perform s).stdout
        ((i.perform s).stderr filter color) := Invocation.perform_ends hg hout
    refine ⟨fun h0 => ?_, hends.out_eq_nil, hends⟩
    rw [h0] at hends
    exact hends.resolves
  · obtain ⟨l, f, hr, hstdout⟩ := Invocation.perform_stdout_of_saved hg hout h0
    rw [Generation.finished, Generation.dialog, Generation.report] at hstdout
    exact ⟨l, f, hr, hstdout⟩

/-- A license on the output, with the log on the error output, and the same license in a file. -/
theorem run_streams_isc :
    let w : World :=
      { words := ["isc".toList, "--name=A".toList, "-y2020".toList, "--stdout".toList, "-v".toList]
        now := 2024 }
    let w' : World := { w with words := ["isc".toList, "--name=A".toList, "-y2020".toList] }
    (∃ i g, (Invocation.parse w.words w.environment.templates = .ok i ∧ i.command = .generate g ∧
        g.toStdout = true ∧ w.run.status = some 0) ∧
      ∃ l f, g.Resolves i w.surroundings l f ∧
        w.run.stdout = (l.fill f 2024 ++ ['\n'] : Text).encode) ∧
    ∃ i g, (Invocation.parse w'.words w'.environment.templates = .ok i ∧ i.command = .generate g ∧
        g.toStdout = false ∧ w'.run.status = some 0) ∧
      ∃ l f, g.Resolves i w'.surroundings l f ∧
        w'.run.stdout = Text.encode ("Created LICENSE (".toList ++ l.name ++ ")\n".toList) := by
  intro w w'
  let filling : Filling := ⟨some "A".toList, some "2020".toList⟩
  constructor
  · let g : Generation := { license := "isc".toList, filling, toStdout := true }
    let i : Invocation := { command := .generate g, verbosity := 1 }
    have hi : Invocation.parse w.words w.environment.templates = .ok i := by decide +kernel
    obtain ⟨hrun, hout, -⟩ := w.run_streams i g hi rfl (.piped none)
    obtain ⟨l, hr⟩ := Generation.exists_resolves_isc (g := g) (i := i) w.surroundings rfl rfl rfl
      (by decide)
    have h0 : w.run.status = some 0 := by
      rw [run, hi, w.perform_status]
      exact Invocation.perform_status_of_resolves rfl rfl hr
    refine ⟨i, g, ⟨hi, rfl, rfl, h0⟩, ?_⟩
    rw [hrun rfl] at h0 ⊢
    exact (hout rfl).1 h0
  · let g : Generation := { license := "isc".toList, filling }
    let i : Invocation := { command := .generate g }
    have hi : Invocation.parse w'.words w'.environment.templates = .ok i := by decide +kernel
    obtain ⟨hrun, -, hfile⟩ := w'.run_streams i g hi rfl (.piped none)
    obtain ⟨l, hr⟩ := Generation.exists_resolves_isc (g := g) (i := i) w'.surroundings rfl rfl rfl
      (by decide)
    have hfree : w'.files.locate .create g.output = .ok (.free [g.output]) := by
      refine FileTree.locate_eq_ok_iff.2 ⟨by decide, by decide, by decide, ?_⟩
      exact .free (by decide) rfl
    have hs (text : Text) : w'.surroundings.files.save g.output text g.force =
        .ok (w'.files.put [g.output] (.file text.encode)) := by
      rw [FileTree.save, if_neg (by decide), FileTree.create, w'.surroundings_files, hfree]
      rfl
    have h0 : w'.run.status = some 0 := by
      rw [run, hi, w'.perform_status]
      exact Invocation.perform_status_of_save rfl hr (hs _)
    refine ⟨i, g, ⟨hi, rfl, rfl, h0⟩, ?_⟩
    rw [hrun rfl] at h0 ⊢
    obtain ⟨l, f, hr, hstdout⟩ := hfile rfl h0
    have hp : Palette.ofBool (i.color.resolve (.piped none)) = .plain := rfl
    have hpaint (t : Text) : Palette.plain.paint Palette.plain.green t = t := List.append_nil t
    have hshown (d : Dialog) : (d.complete l g.filling (!g.noPrompt) w'.now).2 = d :=
      congrArg Prod.snd (Dialog.complete_of_given (List.cons_ne_nil _ _))
    refine ⟨l, f, hr, hstdout.trans ?_⟩
    rw [hp, hpaint, hshown, List.append_assoc _ [')']]
    rfl

end World

end LicenseForge
