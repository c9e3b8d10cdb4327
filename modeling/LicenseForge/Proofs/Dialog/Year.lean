import LicenseForge.Proofs.Dialog.Question
import LicenseForge.Proofs.Year
import Mathlib.Logic.Function.Iterate

/-!
# Asking for the year until the answer is one

* `Dialog.Settles`, `Dialog.Refused` : what is read settles the year, or is refused.
* `Dialog.YearAsked` : lines are refused up to the first that settles the year.
* `Dialog.askYear_eq` : asking for the year is that.
* `Dialog.askYear_ends_iff` : asking ends, and in time, just if some line to come settles the year;
  else refusals follow one another for ever.

The end of the input is a blank line, and a blank line stands for the year of the clock. That year
has four digits up to the year 9999. Behind it a blank line is refused, and at the end of the input
there is nothing else to come.
-/

namespace LicenseForge.Dialog

/-- What asking gave, as an end of asking. -/
def Reply.ofExcept {α : Type} : Except StreamError α → Reply α
  | .ok a => .given a
  | .error e => .failed e

variable {p : Palette} {now : Int} {broken : Bool} {line last : Bytes} {lines others : List Bytes}
  {a r : Except StreamError Text} {t y : Text} {e : Year.Invalid} {d : Dialog}

/-! ### Lines that settle the year -/

/-- What is read settles the year: by an answer that is one, by a blank line, which stands for the
year of the clock, or by a failure. -/
inductive Settles (now : Int) : Except StreamError Text → Except StreamError Text → Prop
  | clock {t : Text} (hb : t.AllBlank) (hn : 0 ≤ now ∧ now ≤ 9999) :
    Settles now (.ok t) (.ok (Year.format now))
  | year {t : Text} (hb : ¬t.AllBlank) (hy : Year.validate t = .ok t.trim) :
    Settles now (.ok t) (.ok t.trim)
  | failed (e : StreamError) : Settles now (.error e) (.error e)

/-- The answer is refused, and why. -/
inductive Refused (now : Int) : Text → Year.Invalid → Prop
  | clock {t : Text} {e : Year.Invalid} (hb : t.AllBlank)
    (he : Year.validate (Year.format now) = .error e) : Refused now t e
  | text {t : Text} {e : Year.Invalid} (hb : ¬t.AllBlank) (he : Year.validate t = .error e) :
    Refused now t e

theorem settles_or_refused (now : Int) (a : Except StreamError Text) :
    (∃ r, Settles now a r) ∨ ∃ t e, a = .ok t ∧ Refused now t e := by
  match a with
  | .error e => exact .inl ⟨_, .failed e⟩
  | .ok t =>
    by_cases hb : t.AllBlank
    · cases hv : Year.validate (Year.format now) with
      | error e => exact .inr ⟨t, e, rfl, .clock hb hv⟩
      | ok y => exact .inl ⟨_, .clock hb (Year.of_validate_format hv)⟩
    · cases hv : Year.validate t with
      | error e => exact .inr ⟨t, e, rfl, .text hb hv⟩
      | ok y =>
        obtain rfl := (Year.validate_ok hv).1
        exact .inl ⟨_, .year hb hv⟩

theorem Settles.validate_answer (h : Settles now (.ok t) r) :
    ∃ y, r = .ok y ∧ Year.validate (answer t (some (Year.format now))) = .ok y := by
  cases h with
  | clock hb hn => exact ⟨_, rfl, by rw [answer_of_allBlank hb, Year.validate_format hn]⟩
  | year hb hy => exact ⟨_, rfl, by rw [answer_of_not_allBlank hb, Year.validate_trim, hy]⟩

theorem Refused.validate_answer (h : Refused now t e) :
    Year.validate (answer t (some (Year.format now))) = .error e := by
  cases h with
  | clock hb he => rw [answer_of_allBlank hb, he]
  | text hb he => rw [answer_of_not_allBlank hb, Year.validate_trim, he]

theorem Settles.not_refused (h : Settles now (.ok t) r) (e : Year.Invalid) : ¬Refused now t e := by
  intro hr
  obtain ⟨y, -, hy⟩ := h.validate_answer
  rw [hr.validate_answer] at hy
  cases hy

/-- A line settles the year. -/
def LineSettles (now : Int) (broken : Bool) (line : Bytes) : Prop :=
  ∃ a r, Received broken line a ∧ Settles now a r

/-- The end of the input settles the year just if the clock does, or the stream is broken. -/
theorem lineSettles_nil : LineSettles now broken [] ↔ (0 ≤ now ∧ now ≤ 9999) ∨ broken := by
  constructor
  · rintro ⟨a, r, ha, hs⟩
    cases ha with
    | text h ht =>
      obtain rfl := Text.encode_injective (s := []) ht
      cases hs with
      | clock _ hn => exact .inl hn
      | year hb => exact absurd Text.allBlank_nil hb
    | notUtf8 h ht => exact absurd rfl (ht [])
    | closed h => exact .inr h.1
  · intro h
    by_cases hb : broken
    · exact ⟨_, _, .closed ⟨hb, by simp⟩, .failed _⟩
    · have hn := h.resolve_right hb
      exact ⟨.ok [], _, .text (fun h => hb h.1) rfl, .clock Text.allBlank_nil hn⟩

/-! ### Lines that are refused -/

/-- A line that is refused. -/
structure Refusal (now : Int) (broken : Bool) where
  /-- The line. -/
  line : Bytes
  /-- The line as a text. -/
  text : Text
  /-- Why it is refused. -/
  reason : Year.Invalid
  received : Received broken line (.ok text)
  refused : Refused now text reason

/-- What happens when the year is asked for once. -/
def askingYear (p : Palette) (now : Int) (a : Except StreamError Text) : List Entry :=
  asking p yearQuestion (some (Year.format now)) a

/-- What happens when the year is asked for and the answer is refused. -/
def Refusal.entries (p : Palette) (f : Refusal now broken) : List Entry :=
  askingYear p now (.ok f.text) ++ [.complaint f.reason.message]

theorem Refusal.not_lineSettles (f : Refusal now broken) : ¬LineSettles now broken f.line := by
  rintro ⟨a, r, ha, hs⟩
  obtain rfl := ha.unique f.received
  exact hs.not_refused _ f.refused

/-- Of some lines either all are refused, or all up to one that settles the year. -/
theorem refused_or_settled (now : Int) (broken : Bool) (lines : List Bytes) :
    (∃ fs : List (Refusal now broken), lines = fs.map Refusal.line) ∨
      ∃ (fs : List (Refusal now broken)) (last : Bytes) (others : List Bytes),
        lines = fs.map Refusal.line ++ last :: others ∧ LineSettles now broken last := by
  induction lines with
  | nil => exact .inl ⟨[], rfl⟩
  | cons line lines ih =>
    obtain ⟨a, ha⟩ := exists_received broken line
    rcases settles_or_refused now a with ⟨r, hs⟩ | ⟨t, e, rfl, he⟩
    · exact .inr ⟨[], line, lines, rfl, a, r, ha, hs⟩
    · let f : Refusal now broken := ⟨line, t, e, ha, he⟩
      rcases ih with ⟨fs, rfl⟩ | ⟨fs, last, others, rfl, hs⟩
      · exact .inl ⟨f :: fs, rfl⟩
      · exact .inr ⟨f :: fs, last, others, rfl, hs⟩

/-- The year is asked for: lines are refused, up to the first that settles the year. -/
inductive YearAsked (p : Palette) (now : Int) (i : Input) :
    Except StreamError Text → List Entry → Bytes → Prop
  | intro (fs : List (Refusal now i.broken)) {last : Bytes} {others : List Bytes}
    {a r : Except StreamError Text} (hl : i.unread.reads = fs.map Refusal.line ++ last :: others)
    (ha : Received i.broken last a) (hs : Settles now a r) :
    YearAsked p now i r (fs.flatMap (Refusal.entries p) ++ askingYear p now a) others.flatten

/-! ### One question -/

theorem supply_follow_lt {es : List Entry} {rest : Bytes}
    (h : rest.length < d.input.unread.length) : (d.follow es rest).supply < d.supply := by
  cases hr : d.room with
  | none => simpa [supply, hr] using h
  | some n =>
    simp only [supply, follow_input, follow_room, hr, Option.map_some, Option.getD_some]
    omega

theorem askYear_settled (hl : d.input.unread.reads = last :: others)
    (ha : Received d.input.broken last a) (hs : Settles now a r)
    (hr : d.HasRoom (askingYear d.palette now a)) :
    d.askYear now = (.ofExcept r, d.follow (askingYear d.palette now a) others.flatten) := by
  rw [askYear, askYearOnce, ask_eq hl ha hr]
  match a with
  | .error e => cases hs; rfl
  | .ok t =>
    obtain ⟨y, rfl, hy⟩ := hs.validate_answer
    simp only [Except.map, hy]
    rfl

/-- The year is asked for once and the answer is refused. -/
def RefusedOnce (now : Int) (d d' : Dialog) : Prop :=
  ∃ answer next e, d.askYearOnce now = (.ok answer, next) ∧ Year.validate answer = .error e ∧
    d' = next.refuse e.message

theorem RefusedOnce.askYear_eq {d' : Dialog} (h : RefusedOnce now d d') :
    d.askYear now = if d'.supply < d.supply then d'.askYear now else (.endless, d') := by
  obtain ⟨answer, next, e, ha, he, rfl⟩ := h
  rw [askYear, ha]
  simp only [he]

theorem refusedOnce_of_refusal (hb : d.input.broken = broken) (f : Refusal now broken)
    (hl : d.input.unread.reads = f.line :: lines) (hr : d.HasRoom (f.entries d.palette)) :
    RefusedOnce now d (d.follow (f.entries d.palette) lines.flatten) := by
  subst hb
  refine ⟨_, _, f.reason, ask_eq hl f.received ((hasRoom_append []).1 hr).1,
    f.refused.validate_answer, ?_⟩
  rw [refuse_eq, follow_follow]
  rfl

theorem askYear_refused (hb : d.input.broken = broken) (f : Refusal now broken)
    (hl : d.input.unread.reads = f.line :: lines) (hne : lines ≠ [])
    (hr : d.HasRoom (f.entries d.palette)) :
    d.askYear now = (d.follow (f.entries d.palette) lines.flatten).askYear now := by
  rw [(refusedOnce_of_refusal hb f hl hr).askYear_eq, if_pos]
  apply supply_follow_lt
  have hp := List.length_pos_iff.2 (Bytes.ne_nil_of_reads hl hne)
  rw [Bytes.flatten_of_reads hl, List.length_append]
  omega

/-! ### All questions -/

theorem askYear_refusals (fs : List (Refusal now broken)) (hb : d.input.broken = broken)
    (hl : d.input.unread.reads = fs.map Refusal.line ++ last :: others)
    (ha : Received broken last a) (hs : Settles now a r)
    (hr : d.HasRoom (fs.flatMap (Refusal.entries d.palette) ++ askingYear d.palette now a)) :
    d.askYear now = (.ofExcept r,
      d.follow (fs.flatMap (Refusal.entries d.palette) ++ askingYear d.palette now a)
        others.flatten) := by
  induction fs generalizing d with
  | nil =>
    subst hb
    exact askYear_settled hl ha hs hr
  | cons f fs ih =>
    obtain ⟨rest, hrest⟩ : ∃ rest, rest = fs.map Refusal.line ++ last :: others := ⟨_, rfl⟩
    rw [List.map_cons, List.cons_append, ← hrest] at hl
    rw [List.flatMap_cons, List.append_assoc] at hr ⊢
    have hne : rest ≠ [] := by simp [hrest]
    obtain ⟨hf, hr⟩ := (hasRoom_append rest.flatten).1 hr
    have hl' := (Bytes.reads_flatten_of_reads hl hne).trans hrest
    rw [askYear_refused hb f hl hne hf,
      ih (d := d.follow (f.entries d.palette) rest.flatten) hb hl' hr, follow_follow]
    rfl

/-- Asking for the year takes the lines up to the first that settles it. -/
theorem askYear_eq {es : List Entry} {rest : Bytes} (h : YearAsked d.palette now d.input r es rest)
    (hr : d.HasRoom es) : d.askYear now = (.ofExcept r, d.follow es rest) := by
  obtain ⟨fs, hl, ha, hs⟩ := h
  exact askYear_refusals fs rfl hl ha hs hr

/-! ### Whether asking ends -/

theorem exists_yearAsked {i : Input} (h : ∃ line ∈ i.unread.reads, LineSettles now i.broken line) :
    ∃ r es rest, YearAsked p now i r es rest := by
  rcases refused_or_settled now i.broken i.unread.reads with ⟨fs, hl⟩ | ⟨fs, last, others, hl, hs⟩
  · obtain ⟨line, hm, hs⟩ := h
    rw [hl] at hm
    obtain ⟨f, -, rfl⟩ := List.mem_map.1 hm
    exact absurd hs f.not_lineSettles
  · obtain ⟨a, r, ha, hs⟩ := hs
    exact ⟨_, _, _, .intro fs hl ha hs⟩

theorem exists_reads_iff {i : Input} :
    (∃ line ∈ i.unread.reads, LineSettles now i.broken line) ↔
      (0 ≤ now ∧ now ≤ 9999) ∨ i.broken ∨
        ∃ line ∈ i.unread.lines, LineSettles now i.broken line := by
  simp only [Bytes.reads, List.mem_append, List.mem_singleton, or_and_right, exists_or,
    exists_eq_left, lineSettles_nil]
  rw [or_comm, or_assoc]

/-- The output is not bounded, and neither a line to come nor the end of the input settles the
year. -/
def Hopeless (now : Int) (d : Dialog) : Prop :=
  d.room = none ∧ ∀ line ∈ d.input.unread.reads, ¬LineSettles now d.input.broken line

/-- A refusal does not help. -/
theorem Hopeless.exists_refusedOnce (h : d.Hopeless now) :
    ∃ d', RefusedOnce now d d' ∧ d'.Hopeless now := by
  obtain ⟨hroom, h⟩ := h
  rcases refused_or_settled now d.input.broken d.input.unread.reads with
    ⟨fs, hl⟩ | ⟨fs, last, others, hl, hs⟩
  · cases fs with
    | nil => simp [Bytes.reads] at hl
    | cons f fs =>
      refine ⟨_, refusedOnce_of_refusal rfl f hl (hasRoom_of_room_eq_none hroom), by simp [hroom],
        fun line hm => h line (Bytes.mem_reads_of_mem_reads_flatten hl hm)⟩
  · exact absurd hs (h last (by simp [hl]))

theorem Hopeless.exists_run (h : d.Hopeless now) :
    ∃ run : Nat → Dialog, run 0 = d ∧ ∀ n, RefusedOnce now (run n) (run (n + 1)) := by
  have hstep (d : {d : Dialog // d.Hopeless now}) :
      ∃ d' : {d : Dialog // d.Hopeless now}, RefusedOnce now d d' := by
    obtain ⟨d', hd, hd'⟩ := d.2.exists_refusedOnce
    exact ⟨⟨d', hd'⟩, hd⟩
  choose next hnext using hstep
  refine ⟨fun n => next^[n] ⟨d, h⟩, rfl, fun n => ?_⟩
  simp only [Function.iterate_succ_apply']
  exact hnext _

theorem endless_of_run {run : Nat → Dialog} (h : ∀ n, RefusedOnce now (run n) (run (n + 1))) :
    ((run 0).askYear now).1 = .endless := by
  -- Each refusal uses something up, until one does not.
  induction hk : (run 0).supply using Nat.strongRecOn generalizing run with
  | _ k ih =>
    subst hk
    rw [(h 0).askYear_eq]
    split
    next hlt => exact ih _ hlt (fun n => h (n + 1)) rfl
    next => rfl

theorem endless_iff_hopeless (hroom : d.room = none) :
    (d.askYear now).1 = .endless ↔ d.Hopeless now := by
  constructor
  · refine fun he => ⟨hroom, fun line hm hs => ?_⟩
    obtain ⟨r, es, rest, hy⟩ := exists_yearAsked ⟨line, hm, hs⟩
    rw [askYear_eq hy (hasRoom_of_room_eq_none hroom)] at he
    cases r <;> cases he
  · intro h
    obtain ⟨run, rfl, hrun⟩ := h.exists_run
    exact endless_of_run hrun

/-- Asking does not end just if refusals follow one another for ever. -/
theorem endless_iff_exists_run (hroom : d.room = none) :
    (d.askYear now).1 = .endless ↔
      ∃ run : Nat → Dialog, run 0 = d ∧ ∀ n, RefusedOnce now (run n) (run (n + 1)) :=
  ⟨fun h => ((endless_iff_hopeless hroom).1 h).exists_run,
    fun ⟨_, h0, hrun⟩ => h0 ▸ endless_of_run hrun⟩

theorem ne_endless_iff (hroom : d.room = none) :
    (d.askYear now).1 ≠ .endless ↔
      ∃ line ∈ d.input.unread.reads, LineSettles now d.input.broken line := by
  rw [Ne, endless_iff_hopeless hroom]
  simp [Hopeless, hroom]

/-! ### The number of questions -/

/-- The number of times the year was asked for. -/
def yearQuestions (now : Int) (d : Dialog) : Nat :=
  d.record.count (.shown (prompt d.palette yearQuestion (some (Year.format now))).encode)

theorem count_askingYear :
    (askingYear p now a).count (.shown (prompt p yearQuestion (some (Year.format now))).encode) =
      1 := by
  have hne : Entry.shown (Text.encode ['\n']) ≠
      .shown (prompt p yearQuestion (some (Year.format now))).encode := by
    intro h
    have hl := congrArg List.length (Text.encode_injective (Entry.shown.inj h))
    simp only [prompt, List.length_append, List.length_cons, List.length_nil] at hl
    omega
  unfold askingYear asking
  split
  · rw [List.count_cons_self, List.count_cons_of_ne hne]
    rfl
  · exact List.count_cons_self

theorem count_entries (f : Refusal now broken) :
    (f.entries p).count (.shown (prompt p yearQuestion (some (Year.format now))).encode) = 1 := by
  simp [Refusal.entries, List.count_append, count_askingYear]

/-- One question is asked for each line that is refused, and one more. -/
theorem yearQuestions_follow (fs : List (Refusal now broken)) (rest : Bytes) :
    (d.follow (fs.flatMap (Refusal.entries d.palette) ++ askingYear d.palette now a)
      rest).yearQuestions now = d.yearQuestions now + (fs.length + 1) := by
  induction fs with
  | nil => simp [yearQuestions, List.count_append, count_askingYear]
  | cons f fs ih =>
    simp only [yearQuestions, follow_record, follow_palette, List.count_append, List.flatMap_cons,
      count_entries, List.length_cons] at ih ⊢
    omega

/-- **When asking ends.** Where the output is not bounded, asking for the year ends just if the
clock has a year of four digits, the stream breaks or a line settles the year. If it ends, there is
at most one question more than there are lines. If it does not, refusals follow one another for
ever. -/
theorem askYear_ends_iff (hroom : d.room = none) :
    ((d.askYear now).1 ≠ .endless ↔
      (0 ≤ now ∧ now ≤ 9999) ∨ d.input.broken ∨
        ∃ line ∈ d.input.unread.lines, LineSettles now d.input.broken line) ∧
    ((d.askYear now).1 ≠ .endless →
      (d.askYear now).2.yearQuestions now ≤
        d.yearQuestions now + (d.input.unread.lines.length + 1)) ∧
    ((d.askYear now).1 = .endless ↔
      ∃ run : Nat → Dialog, run 0 = d ∧ ∀ n, RefusedOnce now (run n) (run (n + 1))) := by
  refine ⟨(ne_endless_iff hroom).trans exists_reads_iff, fun h => ?_, endless_iff_exists_run hroom⟩
  obtain ⟨r, es, rest, hy⟩ := exists_yearAsked ((ne_endless_iff hroom).1 h)
  rw [askYear_eq hy (hasRoom_of_room_eq_none hroom)]
  obtain ⟨fs, hl, -, -⟩ := hy
  have hn := congrArg List.length hl
  rw [yearQuestions_follow]
  simp only [Bytes.reads, List.length_append, List.length_map, List.length_cons,
    List.length_nil] at hn
  omega

/-- The year 10000 has five digits, so the blank line does not settle the year. The line behind it
does. -/
theorem askYear_ends_iff_second_line :
    let d : Dialog := { input := { unread := Text.encode "\n2020\n".toList }, palette := .plain }
    d.room = none ∧ (d.askYear 10000).1 ≠ .endless ∧
      (d.askYear 10000).2.yearQuestions 10000 ≤ 3 := by
  intro d
  have hs : LineSettles 10000 false (Text.encode "2020\n".toList) :=
    ⟨_, _, .text (by simp [CutOff]) rfl, .year (by decide) rfl⟩
  have hends := @askYear_ends_iff 10000 d rfl
  have hne := hends.1.2 (.inr (.inr ⟨_, by decide, hs⟩))
  exact ⟨rfl, hne, hends.2.1 hne⟩

/-- In the year 10000 the end of the input does not settle the year, and asking does not end. -/
theorem askYear_endless_in_year_10000 :
    let d : Dialog := { input := { unread := [] }, palette := .plain }
    d.room = none ∧ (1970 : Int) ≤ 10000 ∧ (d.askYear 10000).1 = .endless := by
  intro d
  refine ⟨rfl, by decide, (endless_iff_hopeless rfl).2 ⟨rfl, fun line hm => ?_⟩⟩
  obtain rfl : line = [] := by simpa [d, Bytes.reads, Bytes.lines] using hm
  rw [lineSettles_nil]
  decide

end LicenseForge.Dialog
