import LicenseForge.Program.Perform
import LicenseForge.Proofs.Dialog.Palette

/-!
# Colour is decoration

* `Catalog.alike_listing`, `License.alike_details`, `Generation.alike_report` : what is written in
  colour differs from plain output in escape sequences only.
* `Outcome.Alike` : two runs that differ in this only.
* `Command.alike_perform` : the palette makes no other difference to a command.
* `palette_decorates` : without its escape sequences, coloured output is plain output, and nothing
  else depends on the colour.
-/

namespace LicenseForge

variable {p p' : Palette}

/-! ### Lines -/

/-- The lines differ in escape sequences only. -/
def AlikeLines (ls ls' : List Text) : Prop :=
  List.Forall₂ (fun t t' : Text => Ansi.Alike t.encode t'.encode) ls ls'

namespace AlikeLines

theorem append {ls ls' ms ms' : List Text} (h : AlikeLines ls ls') (h' : AlikeLines ms ms') :
    AlikeLines (ls ++ ms) (ls' ++ ms') :=
  List.rel_append h h'

theorem map {α : Type} {f g : α → Text} (xs : List α)
    (h : ∀ x, Ansi.Alike (f x).encode (g x).encode) : AlikeLines (xs.map f) (xs.map g) := by
  induction xs with
  | nil => exact .nil
  | cons x xs ih => exact .cons (h x) ih

theorem flatMap {α : Type} {f g : α → List Text} (xs : List α) (h : ∀ x, AlikeLines (f x) (g x)) :
    AlikeLines (xs.flatMap f) (xs.flatMap g) := by
  induction xs with
  | nil => exact .nil
  | cons x xs ih => exact (h x).append ih

theorem flatten {ls ls' : List Text} (h : AlikeLines ls ls') :
    Ansi.Alike (Text.encode ls.flatten) (Text.encode ls'.flatten) := by
  have hencode (ls : List Text) : Text.encode ls.flatten = ls.flatMap Text.encode := by
    induction ls with
    | nil => rfl
    | cons t ls ih => simp [ih]
  rw [hencode, hencode]
  exact .flatMap h fun _ _ h => h

end AlikeLines

/-- A line that stands in both. -/
theorem alike_line (t : Text) : Ansi.Alike (t ++ ['\n']).encode (t ++ ['\n']).encode :=
  .refl (Ansi.sealed_line t)

/-! ### The list of licenses -/

namespace Catalog

theorem alike_row (hp : p.Marks) (hp' : p'.Marks) (width : Nat) (l : License) :
    Ansi.Alike (row p width l).encode (row p' width l).encode := by
  have hrow := Palette.alike_decorated_line (a := "  ".toList) (b := l.id.rightpad width ' ')
    (c := "  ".toList ++ l.name) hp hp' Palette.cyan (by simp [Palette.sequences])
    (by decide) (by rw [List.append_assoc]; exact Ansi.free_encode_append (by decide) (by decide) _)
  unfold row
  simpa only [List.append_assoc] using hrow

theorem alike_listing (hp : p.Marks) (hp' : p'.Marks) (c : Catalog) :
    AlikeLines (c.listing p) (c.listing p') :=
  .cons (.refl (Ansi.sealed_encode_append (by decide) (by decide) _))
    (AlikeLines.map c.licenses (alike_row hp hp' c.idWidth))

/-- The gaps between the columns are the same in every palette. -/
theorem exists_gap_listing (c : Catalog) : ∃ gap : License → Nat, ∀ p : Palette,
    c.listing p = c.heading :: c.licenses.map fun l =>
      "  ".toList ++ p.cyan ++ l.id ++ List.replicate (gap l) ' ' ++ p.reset ++ "  ".toList
        ++ l.name ++ ['\n'] := by
  refine ⟨fun l => c.idWidth - l.id.length, fun p => ?_⟩
  refine congrArg (c.heading :: ·) (List.map_congr_left fun l _ => ?_)
  unfold row
  simp only [List.rightpad, List.append_assoc]

end Catalog

/-! ### The details of a license -/

namespace License

theorem alike_property (hp : p.Marks) (hp' : p'.Marks) (label : String) (gap : Nat) (value : Text) :
    Ansi.Alike (property p label (gap + 1) value).encode
      (property p' label (gap + 1) value).encode := by
  have hline := Palette.alike_decorated_line (a := "  ".toList) (b := label.toList)
    (c := ' ' :: (List.replicate gap ' ' ++ value)) hp hp' Palette.dim
    (by simp [Palette.sequences]) (by decide)
    (Ansi.free_encode_append (a := [' ']) (by decide) (by decide) _)
  unfold property
  simpa only [List.replicate_succ, List.append_assoc, List.cons_append] using hline

theorem alike_title (hp : p.Marks) (hp' : p'.Marks) (t : Text) :
    Ansi.Alike (p.bold ++ t ++ p.reset ++ ['\n']).encode
      (p'.bold ++ t ++ p'.reset ++ ['\n']).encode := by
  have hline := Palette.alike_decorated_line (a := []) (b := t) (c := []) hp hp'
    Palette.bold (by simp [Palette.sequences]) (by decide) (by decide)
  simpa only [List.nil_append, List.append_nil] using hline

theorem alike_item (hp : p.Marks) (hp' : p'.Marks) (s : Section) (item : Text) :
    Ansi.Alike
      (Text.encode ("  ".toList ++ s.color p ++ s.icon :: p.reset ++ ' ' :: item ++ ['\n']))
      (Text.encode ("  ".toList ++ s.color p' ++ s.icon :: p'.reset ++ ' ' :: item ++ ['\n'])) := by
  have hcolor (p : Palette) : s.color p ∈ p.sequences := by
    cases s <;> simp [Section.color, Palette.sequences]
  have hline := Palette.alike_decorated_line (a := "  ".toList) (b := [s.icon]) (c := ' ' :: item)
    hp hp' s.color hcolor (by decide)
    (Ansi.free_encode_append (a := [' ']) (by decide) (by decide) _)
  simpa only [List.append_assoc, List.cons_append, List.nil_append] using hline

theorem alike_sectionLines (hp : p.Marks) (hp' : p'.Marks) (l : License) (s : Section) :
    AlikeLines (l.sectionLines p s) (l.sectionLines p' s) := by
  unfold sectionLines
  split
  · exact .nil
  · exact .cons (alike_line []) (.cons (alike_title hp hp' s.title)
      (AlikeLines.map _ (alike_item hp hp' s)))

theorem alike_details (hp : p.Marks) (hp' : p'.Marks) (l : License) (now : Int) :
    AlikeLines (l.details p now) (l.details p' now) := by
  have hproperty (label : String) (gap : Nat) (value : Option Text) :
      AlikeLines (value.map (property p label (gap + 1))).toList
        (value.map (property p' label (gap + 1))).toList := by
    cases value with
    | none => exact .nil
    | some value => exact .cons (alike_property hp hp' label gap value) .nil
  have hhead : AlikeLines [p.bold ++ l.name ++ p.reset ++ ['\n'], ['\n'], property p "id" 8 l.id]
      [p'.bold ++ l.name ++ p'.reset ++ ['\n'], ['\n'], property p' "id" 8 l.id] :=
    .cons (alike_title hp hp' l.name)
      (.cons (alike_line []) (.cons (alike_property hp hp' "id" 7 l.id) .nil))
  have hplain (t : Text) : AlikeLines [['\n'], t ++ ['\n']] [['\n'], t ++ ['\n']] :=
    .cons (alike_line []) (.cons (alike_line t) .nil)
  exact ((((hhead.append (hproperty "spdx" 5 l.spdx)).append
    (hproperty "category" 1 l.category)).append (hplain _)).append
    (AlikeLines.flatMap _ (alike_sectionLines hp hp' l))).append (hplain _)

end License

/-! ### Runs -/

/-- The emissions differ in escape sequences only. -/
inductive Emission.Alike : Emission → Emission → Prop
  | out {x y : Bytes} (h : Ansi.Alike x y) : Alike (.out x) (.out y)
  | err {x y : Bytes} (h : Ansi.Alike x y) : Alike (.err x) (.err y)
  | event (e : Event) : Alike (.event e) (.event e)

namespace Emission

theorem Alike.stdout {e e' : Emission} (h : e.Alike e') : Ansi.Alike e.stdout e'.stdout := by
  cases h with
  | out h => exact h
  | err h => exact .refl Ansi.sealed_nil
  | event e => exact .refl Ansi.sealed_nil

theorem Alike.stderr {e e' : Emission} (h : e.Alike e') (filter : LogFilter) (color : Bool) :
    Ansi.Alike (e.stderr filter color) (e'.stderr filter color) := by
  cases h with
  | out h => exact .refl Ansi.sealed_nil
  | err h => exact h
  | event e =>
    refine .refl ?_
    change Ansi.Sealed (if filter.admits e then (e.line color).encode else [])
    split
    · exact Ansi.sealed_line _
    · exact Ansi.sealed_nil

theorem alike_complaint (message : Text) : (complaint message).Alike (complaint message) :=
  .err (alike_line _)

theorem alike_ofEntry {e e' : Entry} (h : e.Alike e') (toStderr : Bool) :
    (ofEntry toStderr e).Alike (ofEntry toStderr e') := by
  cases h with
  | shown h => cases toStderr <;> [exact .out h; exact .err h]
  | complaint message => exact alike_complaint message
  | reported e => exact .event e

theorem stdout_ofEntry (record : List Entry) :
    (record.map (ofEntry true)).flatMap stdout = [] := by
  rw [List.flatMap_map, List.flatMap_eq_nil_iff]
  intro e _
  cases e <;> rfl

end Emission

/-- The runs differ in escape sequences only. -/
structure Outcome.Alike (o o' : Outcome) : Prop where
  status : o.status = o'.status
  files : o.files = o'.files
  emitted : List.Forall₂ Emission.Alike o.emitted o'.emitted

namespace Outcome

variable {o o' : Outcome}

theorem Alike.stdout (h : o.Alike o') : Ansi.Alike o.stdout o'.stdout :=
  .flatMap h.emitted fun _ _ h => h.stdout

theorem Alike.stderr (h : o.Alike o') (filter : LogFilter) (color : Bool) :
    Ansi.Alike (o.stderr filter color) (o'.stderr filter color) :=
  .flatMap h.emitted fun _ _ h => h.stderr filter color

theorem Alike.after (h : o.Alike o') {before before' : List Emission}
    (hb : List.Forall₂ Emission.Alike before before') :
    (o.after before).Alike (o'.after before') :=
  ⟨h.status, h.files, List.rel_append hb h.emitted⟩

theorem alike_lines (files : FileTree) {ls ls' : List Text} (h : AlikeLines ls ls') :
    (success files (ls.map fun line => .out line.encode)).Alike
      (success files (ls'.map fun line => .out line.encode)) := by
  refine ⟨rfl, rfl, ?_⟩
  rw [success, success, List.forall₂_map_left_iff, List.forall₂_map_right_iff]
  exact h.imp fun _ _ => .out

theorem alike_failure (files : FileTree) (message : Text) :
    (failure files message).Alike (failure files message) :=
  ⟨rfl, rfl, .cons (Emission.alike_complaint message) .nil⟩

end Outcome

theorem UnknownLicense.alike_outcome (e : UnknownLicense) (files : FileTree) :
    (e.outcome files).Alike (e.outcome files) :=
  ⟨rfl, rfl, .cons (Emission.alike_complaint _) (.cons (.err (.refl (by decide))) .nil)⟩

/-! ### Generations -/

namespace Generation

theorem alike_report (hp : p.Marks) (hp' : p'.Marks) (g : Generation) (l : License) :
    Ansi.Alike (g.report l p).encode (g.report l p').encode := by
  have hmark {p : Palette} (hp : p.Marks) : Ansi.IsMark (p.sequence p.green).encode ∧
      Ansi.IsMark (p.sequence p.reset).encode :=
    ⟨Palette.isMark_sequence hp (by simp [Palette.sequences]),
      Palette.isMark_sequence hp (by simp [Palette.sequences])⟩
  have hline := Ansi.alike_decorated (a := []) (c := ['\n'])
    (b := "Created ".toList ++ g.output ++ " (".toList ++ l.name ++ [')']) (by decide) (by decide)
    (by decide) (by decide) (hmark hp).1 (hmark hp).2 (hmark hp').1 (hmark hp').2
  simpa only [report, Palette.paint_eq, List.nil_append, List.append_assoc] using hline

theorem alike_deliver (hp : p.Marks) (hp' : p'.Marks) (g : Generation) (l : License)
    (files : FileTree) (t : Text) :
    (g.deliver l p files (t ++ ['\n'])).Alike (g.deliver l p' files (t ++ ['\n'])) := by
  unfold deliver
  split
  · exact ⟨rfl, rfl, .cons (.out (alike_line t)) .nil⟩
  · split
    · exact Outcome.alike_failure _ _
    · exact ⟨rfl, rfl, .cons (.event _) (.cons (.out (alike_report hp hp' g l)) .nil)⟩

theorem alike_complete (hp : p.Marks) (hp' : p'.Marks) (g : Generation) (l : License)
    (s : Surroundings) : (g.complete l p s).Alike (g.complete l p' s) := by
  have htalk := (Dialog.Alike.start { unread := s.input } hp hp').complete l g.filling
    (!g.noPrompt) s.now
  obtain ⟨r, d, d', h, h', hd⟩ := htalk.exists_eq
  have hrecord : List.Forall₂ Emission.Alike (d.record.map (Emission.ofEntry g.toStdout))
      (d'.record.map (Emission.ofEntry g.toStdout)) := by
    rw [List.forall₂_map_left_iff, List.forall₂_map_right_iff]
    exact hd.record.imp fun _ _ h => Emission.alike_ofEntry h _
  unfold complete
  dsimp only
  rw [h, h']
  refine Outcome.Alike.after ?_ hrecord
  cases r with
  | endless => exact ⟨rfl, rfl, .nil⟩
  | failed e => exact Outcome.alike_failure _ _
  | given f => exact (alike_deliver hp hp' g l s.files _).after (.cons (.event _) .nil)

end Generation

/-- The palette makes no difference to a command but for the escape sequences. -/
theorem Command.alike_perform (hp : p.Marks) (hp' : p'.Marks) (cmd : Command) (c : Catalog)
    (s : Surroundings) : (cmd.perform c p s).Alike (cmd.perform c p' s) := by
  cases cmd with
  | list => exact Outcome.alike_lines _ (Catalog.alike_listing hp hp' c)
  | info id =>
    unfold perform
    dsimp only
    split
    next e _ => exact e.alike_outcome _
    next l _ => exact Outcome.alike_lines _ (License.alike_details hp hp' l s.now)
  | generate g =>
    unfold perform Generation.perform
    dsimp only
    split
    next e _ => exact e.alike_outcome _
    next l _ => exact Generation.alike_complete hp hp' g l s

/-! ### Colour and plain -/

/-- With the text on the output, the questions are elsewhere, and the output is the text. -/
theorem Generation.stdout_perform (g : Generation) (hg : g.toStdout) (c : Catalog) (s : Surroundings)
    (hp : p.Marks) (hp' : p'.Marks) : (g.perform c p s).stdout = (g.perform c p' s).stdout := by
  unfold Generation.perform
  split
  next e _ => rfl
  next l _ =>
    have htalk := (Dialog.Alike.start { unread := s.input } hp hp').complete l g.filling
      (!g.noPrompt) s.now
    obtain ⟨r, d, d', h, h', hd⟩ := htalk.exists_eq
    unfold Generation.complete
    dsimp only
    rw [h, h', hg]
    simp only [Outcome.stdout, Outcome.after, List.flatMap_append, Emission.stdout_ofEntry]
    cases r with
    | endless => rfl
    | failed e => rfl
    | given f => simp [Generation.deliver, hg]

open Ansi

/-- **Colour is decoration.** Without its escape sequences coloured output is plain output: the list
of licenses, the details of a license, the report of a saved one, the questions, and all that a
command writes. The colour makes no difference to answers, to what is read, found, shown as a text
or saved, or to the columns of the list. -/
theorem palette_decorates :
    (∀ c : Catalog, Decorates (Text.encode (c.listing .colored).flatten)
        (Text.encode (c.listing .plain).flatten) ∧
      ∃ gap : License → Nat, ∀ p : Palette, c.listing p = c.heading :: c.licenses.map fun l =>
        "  ".toList ++ p.cyan ++ l.id ++ List.replicate (gap l) ' ' ++ p.reset ++ "  ".toList
          ++ l.name ++ ['\n']) ∧
    (∀ (l : License) (now : Int), Decorates (Text.encode (l.details .colored now).flatten)
      (Text.encode (l.details .plain now).flatten)) ∧
    (∀ (g : Generation) (l : License),
      Decorates (g.report l .colored).encode (g.report l .plain).encode) ∧
    (∀ (i : Input) (qs : List Query),
      let s := Dialog.session { input := i, palette := .colored } qs
      let s' := Dialog.session { input := i, palette := .plain } qs
      List.Forall₂ (fun t t' : Turn => t.answer = t'.answer ∧ t.consumed = t'.consumed ∧
          Decorates t.shown t'.shown) s.1 s'.1 ∧
        s.2.input = s'.2.input ∧ Decorates s.2.shown s'.2.shown) ∧
    (∀ (i : Input) (l : License) (given : Filling) (asks : Bool) (now : Int),
      let r := Dialog.complete { input := i, palette := .colored } l given asks now
      let r' := Dialog.complete { input := i, palette := .plain } l given asks now
      r.1 = r'.1 ∧ r.2.input = r'.2.input ∧ Decorates r.2.shown r'.2.shown) ∧
    (∀ (cmd : Command) (c : Catalog) (s : Surroundings),
      let o := cmd.perform c .colored s
      let o' := cmd.perform c .plain s
      o.status = o'.status ∧ o.files = o'.files ∧ Decorates o.stdout o'.stdout ∧
        (∀ (filter : LogFilter) (color : Bool),
          Decorates (o.stderr filter color) (o'.stderr filter color)) ∧
        ∀ g, cmd = .generate g → g.toStdout → o.stdout = o'.stdout) := by
  have hp := Palette.marks_colored
  have hp' := Palette.marks_plain
  refine ⟨fun c => ⟨(Catalog.alike_listing hp hp' c).flatten.decorates, c.exists_gap_listing⟩,
    fun l now => (License.alike_details hp hp' l now).flatten.decorates,
    fun g l => (Generation.alike_report hp hp' g l).decorates, fun i qs => ?_,
    fun i l given asks now => ?_, fun cmd c s => ?_⟩
  · obtain ⟨hturns, hend⟩ := (Dialog.Alike.start i hp hp').session qs
    exact ⟨hturns.imp fun _ _ h => ⟨h.answer, h.consumed, h.shown.decorates⟩, hend.input,
      hend.shown.decorates⟩
  · obtain ⟨hreply, hend⟩ := (Dialog.Alike.start i hp hp').complete l given asks now
    exact ⟨hreply, hend.input, hend.shown.decorates⟩
  · have h := Command.alike_perform hp hp' cmd c s
    refine ⟨h.status, h.files, h.stdout.decorates, fun filter color =>
      (h.stderr filter color).decorates, ?_⟩
    rintro g rfl hg
    exact g.stdout_perform hg c s hp hp'

end LicenseForge
