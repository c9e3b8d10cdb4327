import LicenseForge.Proofs.CommandLine.Verbosity
import LicenseForge.Proofs.Program.Streams

/-!
# The log is an aside

* `LogFilter.admits_mono` : more requests for more detail only add events to the log.
* `Invocation.perform_congr` : what a run does depends on nothing that only the log is for.
* `Deletes` : events taken out of what stands on the error output.
* `World.run_logging` : the log changes nothing but the error output, and there only whole events
  come and go.
-/

namespace LicenseForge

/-! ### Which events are logged -/

namespace LogFilter

variable {m n : Nat} {e : Event}

theorem ofVerbosity_eq (n : Nat) :
    ofVerbosity n = [{ limit := min n 2 + Level.warn.rank }] := by
  match n with
  | 0 | 1 => rfl
  | n + 2 =>
    rw [Nat.min_eq_right (Nat.le_add_left 2 n)]
    rfl

theorem admits_ofVerbosity (n : Nat) (e : Event) :
    (ofVerbosity n).admits e = decide (e.level.rank ≤ min n 2 + Level.warn.rank) := by
  rw [ofVerbosity_eq]
  rfl

/-- More requests for more detail only add events. -/
theorem admits_mono (h : m ≤ n) (he : (ofVerbosity m).admits e = true) :
    (ofVerbosity n).admits e = true := by
  rw [admits_ofVerbosity, decide_eq_true_iff] at he ⊢
  omega

end LogFilter

/-! ### What a run depends on -/

theorem Command.perform_congr (cmd : Command) (c : Catalog) (p : Palette) {s s' : Surroundings}
    (hinput : s.input = s'.input) (hfiles : s.files = s'.files) (hnow : s.now = s'.now) :
    cmd.perform c p s = cmd.perform c p s' := by
  obtain ⟨input, files, terminal, now⟩ := s
  obtain ⟨input', files', terminal', now'⟩ := s'
  obtain rfl : input = input' := hinput
  obtain rfl : files = files' := hfiles
  obtain rfl : now = now' := hnow
  cases cmd with
  | list => rfl
  | info id => rfl
  | generate g => simp only [Command.perform, Generation.perform, Generation.complete]

namespace Invocation

variable {i i' : Invocation} {s s' : Surroundings}

theorem of_quiet_eq (h : i.quiet = i'.quiet) :
    i.command = i'.command ∧ i.templates = i'.templates ∧ i.color = i'.color := by
  obtain ⟨hcommand, htemplates, hcolor, -⟩ := Invocation.mk.inj h
  exact ⟨hcommand, htemplates, hcolor⟩

/-- Only the colours of a run depend on the terminal, and nothing on the detail that is asked
for. -/
theorem perform_congr (hi : i.quiet = i'.quiet) (hinput : s.input = s'.input)
    (hfiles : s.files = s'.files) (hnow : s.now = s'.now)
    (hcolor : i.color.resolve s.terminal = i'.color.resolve s'.terminal) :
    i.perform s = i'.perform s' := by
  obtain ⟨hcommand, htemplates, -⟩ := of_quiet_eq hi
  rw [perform, perform, performWith, performWith, hcolor, hcommand, htemplates, hfiles]
  simp only [Command.perform_congr _ _ _ hinput hfiles hnow]

end Invocation

/-! ### Taking events out -/

/-- The bytes `err` are the bytes `err'` with some events of the log taken out, each with all of its
line, and with nothing else changed. -/
inductive Deletes (color : Bool) : List Event → Bytes → Bytes → Prop
  /-- At the end. -/
  | nil : Deletes color [] [] []
  /-- The same bytes in both. -/
  | keep {es : List Event} {err err' : Bytes} (bytes : Bytes) (h : Deletes color es err err') :
    Deletes color es (bytes ++ err) (bytes ++ err')
  /-- An event that is taken out. -/
  | delete {es : List Event} {err err' : Bytes} (e : Event) (h : Deletes color es err err') :
    Deletes color (e :: es) err ((e.line color).encode ++ err')

namespace Deletes

variable {color : Bool} {es : List Event} {err err' : Bytes}

theorem length_le (h : Deletes color es err err') : err.length ≤ err'.length := by
  induction h with
  | nil => exact Nat.le_refl 0
  | keep bytes h ih => simpa using ih
  | delete e h ih =>
    rw [List.length_append]
    omega

end Deletes

/-- The event is logged with one filter, but not with the other. -/
def Event.Extra (filter filter' : LogFilter) (e : Event) : Prop :=
  filter.admits e = false ∧ filter'.admits e = true

/-- With a filter that admits more, only events are added to the error output. -/
theorem Emission.deletes_stderr {filter filter' : LogFilter} (color : Bool)
    (hmono : ∀ e, filter.admits e = true → filter'.admits e = true) (emitted : List Emission) :
    ∃ es : List Event, (es.map Emission.event).Sublist emitted ∧
      (∀ e ∈ es, e.Extra filter filter') ∧
      Deletes color es (emitted.flatMap (stderr filter color))
        (emitted.flatMap (stderr filter' color)) := by
  induction emitted with
  | nil => exact ⟨[], .slnil, by simp, .nil⟩
  | cons x emitted ih =>
    obtain ⟨es, hsub, hes, hd⟩ := ih
    rw [List.flatMap_cons, List.flatMap_cons]
    -- an emission makes a difference just if it is an event that only the second filter admits
    by_cases hx : ∃ e, x = .event e ∧ e.Extra filter filter'
    · obtain ⟨e, rfl, he⟩ := hx
      refine ⟨e :: es, hsub.cons_cons _, List.forall_mem_cons.2 ⟨he, hes⟩, ?_⟩
      have hleft : stderr filter color (.event e) = [] := if_neg (by simp [he.1])
      have hright : stderr filter' color (.event e) = (e.line color).encode := if_pos he.2
      rw [hleft, hright]
      exact .delete e hd
    · have hsame : stderr filter color x = stderr filter' color x := by
        cases x with
        | out bytes => rfl
        | err bytes => rfl
        | event e =>
          have hiff : filter.admits e = filter'.admits e := by
            by_contra hne
            refine hx ⟨e, rfl, ?_⟩
            cases h : filter.admits e with
            | false =>
              rw [h] at hne
              exact ⟨h, by simpa using Ne.symm hne⟩
            | true => exact absurd (h.trans (hmono e h).symm) hne
          simp only [stderr, hiff]
      rw [hsame]
      exact ⟨es, hsub.cons _, hes, .keep _ hd⟩

theorem Event.encode_line_ne_nil (color : Bool) (e : Event) : (e.line color).encode ≠ [] := by
  rw [Event.line, Text.encode_append]
  exact List.append_ne_nil_of_right_ne_nil _ (by decide)

/-- The list of the licenses that come with the program logs that they are loaded. -/
theorem Invocation.perform_list {i : Invocation} (s : Surroundings) (hi : i.command = .list)
    (ht : i.templates = none) : (i.perform s).status = some 0 ∧
      ∃ n, ∀ filter color, (i.perform s).stderr filter color =
        (Event.builtinsLoaded n).logged filter color := by
  obtain ⟨c, hc, -⟩ := Catalog.exists_builtin
  have hload : Catalog.load s.files none = ⟨.ok c, [.builtinsLoaded c.size]⟩ := by
    rw [Catalog.load, hc, Catalog.overlay]
  rw [perform, ht, hload, performWith, hi]
  refine ⟨rfl, c.size, fun filter color => ?_⟩
  have hlines (ls : List Text) : (ls.map fun line => Emission.out line.encode).flatMap
      (Emission.stderr filter color) = [] := by
    rw [List.flatMap_map, List.flatMap_eq_nil_iff]
    intro line _
    rfl
  rw [Outcome.after_stderr, Emission.stderr_events]
  simp only [Command.perform, Outcome.success_stderr, hlines, List.append_nil,
    List.flatMap_cons, List.flatMap_nil]

/-! ### The whole run -/

namespace World

theorem run_eq_perform {w : World} {i : Invocation}
    (h : Invocation.parse w.words w.environment.templates = .ok i) : w.run = w.perform i := by
  rw [run, h]

/-- **The log is an aside.** Two runs that ask for the same, apart from the detail in the log, and
that find the same input, files and clock, end with the same status, output and files, whatever the
environment says of the log and of colours. With the same colours and nothing said of the log, the
run that asks for less detail differs on the error output only in that events are missing there.
Command lines that differ in requests for more detail ask for the same. -/
theorem run_logging :
    (∀ (words words' : List Text) (environment : Option Text) (i i' : Invocation),
      quietWords words = quietWords words' →
      Invocation.parse words environment = .ok i → Invocation.parse words' environment = .ok i' →
      i.quiet = i'.quiet) ∧
    ∀ (w w' : World) (i i' : Invocation),
      Invocation.parse w.words w.environment.templates = .ok i →
      Invocation.parse w'.words w'.environment.templates = .ok i' → i.quiet = i'.quiet →
      w.input = w'.input → w.files = w'.files → w.now = w'.now →
      (w.run.status = w'.run.status ∧ w.run.stdout = w'.run.stdout ∧ w.run.files = w'.run.files) ∧
      (w.environment.logging = none → w'.environment.logging = none →
        w.environment.noColor = w'.environment.noColor → i.verbosity ≤ i'.verbosity →
        ∃ es : List Event, (es.map Emission.event).Sublist (i.perform w.surroundings).emitted ∧
          (∀ e ∈ es, e.Extra (.ofVerbosity i.verbosity) (.ofVerbosity i'.verbosity)) ∧
          Deletes w.environment.colorsLog es w.run.stderr w'.run.stderr) := by
  refine ⟨fun _ _ _ _ _ hw h h' => Invocation.quiet_eq_of_parse hw h h', ?_⟩
  intro w w' i i' h h' hi hinput hfiles hnow
  have hresolve (c : ColorChoice) (a b : Option Text) :
      c.resolve (.piped a) = c.resolve (.piped b) := by
    cases c <;> rfl
  obtain ⟨-, -, hcolor⟩ := Invocation.of_quiet_eq hi
  have hperform : i.perform w.surroundings = i'.perform w'.surroundings := by
    refine Invocation.perform_congr hi hinput hfiles hnow ?_
    rw [hcolor]
    exact hresolve _ _ _
  rw [run_eq_perform h, run_eq_perform h', perform, perform, ← hperform]
  refine ⟨⟨rfl, rfl, rfl⟩, fun hl hl' hc hv => ?_⟩
  have hfilter (e : Environment) (n : Nat) (he : e.logging = none) :
      e.filter n = .ofVerbosity n := by
    rw [Environment.filter, LogFilter.ofSettings, he]
    rfl
  have hcolors : w'.environment.colorsLog = w.environment.colorsLog := by
    rw [Environment.colorsLog, Environment.colorsLog, hc]
  rw [Outcome.result_stderr, Outcome.result_stderr, Outcome.stderr, Outcome.stderr,
    hfilter _ _ hl, hfilter _ _ hl', hcolors]
  exact Emission.deletes_stderr _ (fun e he => LogFilter.admits_mono hv he) _

/-- The list of licenses, without a log and with one. -/
theorem run_logging_list :
    let w : World := { words := ["list".toList], now := 2024 }
    let w' : World := { w with words := ["-v".toList, "list".toList, "-vv".toList] }
    (quietWords w.words = quietWords w'.words ∧
      ∃ i i', Invocation.parse w.words none = .ok i ∧ Invocation.parse w'.words none = .ok i' ∧
        i.quiet = i'.quiet ∧ i.verbosity ≤ i'.verbosity) ∧
    (w.run.status = w'.run.status ∧ w.run.stdout = w'.run.stdout ∧ w.run.files = w'.run.files) ∧
      ∃ es, Deletes true es w.run.stderr w'.run.stderr := by
  intro w w'
  let i : Invocation := { command := .list }
  let i' : Invocation := { command := .list, verbosity := 2 }
  have hwords : quietWords w.words = quietWords w'.words := by decide +kernel
  have hi : Invocation.parse w.words none = .ok i := by decide +kernel
  have hi' : Invocation.parse w'.words none = .ok i' := by decide +kernel
  have hquiet : i.quiet = i'.quiet := run_logging.1 _ _ _ _ _ hwords hi hi'
  obtain ⟨hsame, hlog⟩ := run_logging.2 w w' i i' hi hi' hquiet rfl rfl rfl
  obtain ⟨es, -, -, hdeletes⟩ := hlog rfl rfl rfl (by decide)
  exact ⟨⟨hwords, i, i', hi, hi', hquiet, by decide⟩, hsame, es, hdeletes⟩

/-- The number of requests for more detail is not what counts: those behind a command take the place
of those in front of it. So a run with one more request can lack events that the other one logs. -/
theorem run_logging_both_sides :
    let w : World := { words := ["-v".toList, "-v".toList, "list".toList], now := 2024 }
    let w' : World :=
      { w with words := ["-v".toList, "-v".toList, "list".toList, "-v".toList] }
    quietWords w.words = quietWords w'.words ∧
      w.words.count "-v".toList < w'.words.count "-v".toList ∧
      w.run.status = some 0 ∧ w'.run.status = some 0 ∧
      ¬∃ es, Deletes true es w.run.stderr w'.run.stderr := by
  intro w w'
  let i : Invocation := { command := .list, verbosity := 2 }
  let i' : Invocation := { command := .list, verbosity := 1 }
  have hi : Invocation.parse w.words none = .ok i := by decide +kernel
  have hi' : Invocation.parse w'.words none = .ok i' := by decide +kernel
  obtain ⟨h0, n, herr⟩ := Invocation.perform_list w.surroundings (i := i) rfl rfl
  obtain ⟨h0', n', herr'⟩ := Invocation.perform_list w'.surroundings (i := i') rfl rfl
  refine ⟨by decide +kernel, by decide +kernel, ?_, ?_, ?_⟩
  · rw [run_eq_perform hi, perform_status, h0]
  · rw [run_eq_perform hi', perform_status, h0']
  · have hadmits : (w.environment.filter i.verbosity).admits (.builtinsLoaded n) = true := rfl
    have hadmits' : (w'.environment.filter i'.verbosity).admits (.builtinsLoaded n') = false := rfl
    rintro ⟨es, hdeletes⟩
    have hlength := hdeletes.length_le
    rw [run_eq_perform hi, run_eq_perform hi', perform, perform, Outcome.result_stderr,
      Outcome.result_stderr, herr, herr', Event.logged, Event.logged, if_pos hadmits,
      if_neg (by rw [hadmits']; exact Bool.false_ne_true)] at hlength
    exact Event.encode_line_ne_nil _ _ (List.length_eq_zero_iff.1 (Nat.le_zero.1 hlength))

end World

end LicenseForge
