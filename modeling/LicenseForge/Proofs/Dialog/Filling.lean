import LicenseForge.Dialog.Filling
import LicenseForge.Proofs.Dialog.Year
import LicenseForge.Proofs.License.Filling

/-!
# What a license leaves open is given, asked for, or left open

* `Dialog.HolderAsked` : the copyright holder is asked for, with one question.
* `Dialog.Found` : a value is given, is left open, or is asked for.
* `Dialog.Completes` : the copyright holder is found, and then the year.
* `Dialog.complete_follows` : finding what a license leaves open does just this, and leaves unread
  the bytes behind the last line that it took.
-/

namespace LicenseForge.Dialog

/-- The copyright holder is asked for: the answer is the next line, without the blanks around it. -/
inductive HolderAsked (p : Palette) (i : Input) :
    Except StreamError Text → List Entry → Bytes → Prop
  | intro {line : Bytes} {others : List Bytes} {a : Except StreamError Text}
    (hl : i.unread.reads = line :: others) (ha : Received i.broken line a) :
    HolderAsked p i (a.map Text.trim) (asking p holderQuestion none a) others.flatten

/-- A value is given, or is asked for where questions are asked and the text has a place for it, or
is left open. Only asking takes something from the input. -/
inductive Found (l : License) (mark : Placeholder) (given : Option Text) (asks : Bool)
    (Asked : Input → Except StreamError Text → List Entry → Bytes → Prop) (i : Input) :
    Except StreamError (Option Text) → List Entry → Bytes → Prop
  | given {value : Text} (hg : given = some value) :
    Found l mark given asks Asked i (.ok (some value)) [] i.unread
  | asked {r : Except StreamError Text} {es : List Entry} {rest : Bytes} (hg : given = none)
    (ha : asks) (hm : mark.mark <:+: l.text) (hr : Asked i r es rest) :
    Found l mark given asks Asked i (r.map some) es rest
  | left (hg : given = none) (hm : ¬(asks ∧ mark.mark <:+: l.text)) :
    Found l mark given asks Asked i (.ok none) [] i.unread

/-- What is reported of the copyright holder: that there is none where one belongs. -/
def holderNote (l : License) : Option Text → List Entry
  | some _ => []
  | none => if l.needs .holder then [.reported (.unnamedHolder Filling.unnamed)] else []

/-- The copyright holder is found, where an empty name is none, and then the year. The year is not
looked for behind a failure. -/
inductive Completes (l : License) (given : Filling) (asks : Bool) (now : Int) (p : Palette)
    (i : Input) : Except StreamError Filling → List Entry → Bytes → Prop
  | failed {e : StreamError} {es : List Entry} {rest : Bytes}
    (hh : Found l .holder given.holder asks (HolderAsked p) i (.error e) es rest) :
    Completes l given asks now p i (.error e) es rest
  | found {holder : Option Text} {y : Except StreamError (Option Text)} {es es' : List Entry}
    {rest rest' : Bytes}
    (hh : Found l .holder given.holder asks (HolderAsked p) i (.ok holder) es rest)
    (hy : Found l .year given.year asks (YearAsked p now) { i with unread := rest } y es' rest') :
    Completes l given asks now p i
      (y.map fun year => { holder := holder.filter (!·.isEmpty), year })
      (es ++ holderNote l (holder.filter (!·.isEmpty)) ++ es') rest'

variable {l : License} {mark : Placeholder} {given : Option Text} {asks : Bool} {now : Int}
  {d : Dialog} {i : Input} {es : List Entry} {rest : Bytes}
  {Asked : Input → Except StreamError Text → List Entry → Bytes → Prop}

theorem needs_iff : l.needs mark ↔ mark.mark <:+: l.text := Text.occurs_iff_infix

theorem needs_and_iff : (l.needs mark && asks) = true ↔ asks ∧ mark.mark <:+: l.text := by
  rw [Bool.and_eq_true, needs_iff, and_comm]

/-! ### Each value -/

theorem exists_holderAsked (p : Palette) (i : Input) : ∃ r es rest, HolderAsked p i r es rest := by
  cases hl : i.unread.reads with
  | nil => simp [Bytes.reads] at hl
  | cons line others =>
    obtain ⟨a, ha⟩ := exists_received i.broken line
    exact ⟨_, _, _, .intro hl ha⟩

theorem exists_found (l : License) (mark : Placeholder) (given : Option Text) (asks : Bool)
    (h : ∃ r es rest, Asked i r es rest) :
    ∃ r es rest, Found l mark given asks Asked i r es rest := by
  cases given with
  | some value => exact ⟨_, _, _, .given rfl⟩
  | none =>
    by_cases hm : asks ∧ mark.mark <:+: l.text
    · obtain ⟨r, es, rest, hr⟩ := h
      exact ⟨_, _, _, .asked rfl hm.1 hm.2 hr⟩
    · exact ⟨_, _, _, .left rfl hm⟩

theorem ask_holder_eq {r : Except StreamError Text} (h : HolderAsked d.palette d.input r es rest)
    (hr : d.HasRoom es) : d.ask holderQuestion none = (r, d.follow es rest) := by
  obtain ⟨hl, ha⟩ := h
  rw [ask_eq hl ha hr]
  simp only [answer_none]

theorem findHolder_eq {r : Except StreamError (Option Text)}
    (h : Found l .holder given asks (HolderAsked d.palette) d.input r es rest) (hr : d.HasRoom es) :
    d.findHolder l given asks = (r, d.follow es rest) := by
  unfold findHolder
  cases h with
  | given hg =>
    subst hg
    rw [follow_nil]
  | asked hg ha hm hq =>
    subst hg
    rename_i r
    simp only [if_pos (needs_and_iff.2 ⟨ha, hm⟩), ask_holder_eq hq hr]
    cases r <;> rfl
  | left hg hm =>
    subst hg
    simp only [if_neg (mt needs_and_iff.1 hm), follow_nil]

theorem findYear_eq {r : Except StreamError (Option Text)}
    (h : Found l .year given asks (YearAsked d.palette now) d.input r es rest) (hr : d.HasRoom es) :
    d.findYear l given asks now = (.ofExcept r, d.follow es rest) := by
  unfold findYear
  cases h with
  | given hg =>
    subst hg
    rw [follow_nil]
    rfl
  | asked hg ha hm hq =>
    subst hg
    rename_i r
    simp only [if_pos (needs_and_iff.2 ⟨ha, hm⟩), askYear_eq hq hr]
    cases r <;> rfl
  | left hg hm =>
    subst hg
    simp only [if_neg (mt needs_and_iff.1 hm), follow_nil]
    rfl

theorem noteHolder_eq (holder : Option Text) :
    d.noteHolder l holder = d.follow (holderNote l holder) d.input.unread := by
  cases holder with
  | some h => exact follow_nil.symm
  | none =>
    by_cases h : l.needs .holder
    · simp [noteHolder, holderNote, h, report_eq]
    · simp [noteHolder, holderNote, h]

/-! ### Both values -/

theorem complete_eq {given : Filling} {r : Except StreamError Filling}
    (h : Completes l given asks now d.palette d.input r es rest) (hr : d.HasRoom es) :
    d.complete l given asks now = (.ofExcept r, d.follow es rest) := by
  unfold complete
  cases h with
  | failed hh =>
    rw [findHolder_eq hh hr]
    rfl
  | @found _ y _ _ _ _ hh hy =>
    obtain ⟨hr, hr'⟩ := (hasRoom_append _).1 hr
    obtain ⟨hr, -⟩ := (hasRoom_append []).1 hr
    rw [findHolder_eq hh hr]
    simp only [noteHolder_eq, follow_follow, follow_input]
    rw [findYear_eq hy hr', follow_follow]
    cases y <;> rfl

/-- **What a license leaves open.** With a clock of four digits it is found in just one way, for
every input: given beforehand, asked for, or left open. -/
theorem complete_follows (d : Dialog) (l : License) (given : Filling) (asks : Bool) {now : Int}
    (hn : 0 ≤ now ∧ now ≤ 9999) :
    (∃ r es rest, Completes l given asks now d.palette d.input r es rest) ∧
    ∀ r es rest, Completes l given asks now d.palette d.input r es rest → d.HasRoom es →
      d.complete l given asks now = (.ofExcept r, d.follow es rest) := by
  refine ⟨?_, fun r es rest => complete_eq⟩
  obtain ⟨r, es, rest, hh⟩ := exists_found l .holder given.holder asks
    (exists_holderAsked d.palette d.input)
  match r with
  | .error e => exact ⟨_, _, _, .failed hh⟩
  | .ok holder =>
    have hend : ∃ line ∈ Bytes.reads rest, LineSettles now d.input.broken line :=
      ⟨[], by simp [Bytes.reads], lineSettles_nil.2 (.inl hn)⟩
    obtain ⟨y, es', rest', hy⟩ := exists_found l .year given.year asks
      (exists_yearAsked (p := d.palette) (i := { d.input with unread := rest }) hend)
    exact ⟨_, _, _, .found hh hy⟩

/-- The first line is blank, so no holder is named. Of the lines behind it one is refused and one is
blank, which stands for the year of the clock. The last line stays unread. -/
theorem complete_follows_blank_lines :
    let l : License := { text := "\x7b\x7bname\x7d\x7d \x7b\x7byear\x7d\x7d".toList }
    let d : Dialog :=
      { input := { unread := Text.encode "  \nsoon\n\n2020\n".toList }, room := some 100
        palette := .plain }
    ((0 : Int) ≤ 2024 ∧ (2024 : Int) ≤ 9999) ∧
      (d.complete l {} true 2024).1 = .given { holder := none, year := some "2024".toList } ∧
      (d.complete l {} true 2024).2.input.unread = Text.encode "2020\n".toList := by
  intro l d
  have hn : (0 : Int) ≤ 2024 ∧ (2024 : Int) ≤ 9999 := by decide
  have hholder : HolderAsked d.palette d.input _ _ _ :=
    .intro rfl (.text (t := "  \n".toList) (by simp [CutOff]) rfl)
  let f : Refusal 2024 false :=
    ⟨_, "soon\n".toList, .notFourDigits "soon".toList, .text (by simp [CutOff]) rfl,
      .text (by decide) rfl⟩
  have hyear : YearAsked d.palette 2024
      { d.input with unread := Text.encode "soon\n\n2020\n".toList } _ _ _ :=
    .intro [f] rfl (.text (t := ['\n']) (by simp [CutOff]) rfl) (.clock (by decide) hn)
  have h := (complete_follows d l {} true hn).2 _ _ _
    (.found (.asked rfl rfl (needs_iff.1 rfl) hholder) (.asked rfl rfl (needs_iff.1 rfl) hyear))
    (by decide)
  rw [h]
  exact ⟨hn, rfl, rfl⟩

end LicenseForge.Dialog
