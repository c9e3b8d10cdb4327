import LicenseForge.CommandLine.Flag
import LicenseForge.Proofs.Dialog.Filling
import LicenseForge.Proofs.Dialog.Session

/-!
# Answers and flags agree

What a license leaves open can be given as flags or as answers. Both ways lead to the same text.

* `Input.Typed` : a text is typed on the next line of the input.
* `Dialog.AcceptsYear` : the year is asked for once, and the answer is accepted.
* `Dialog.complete_unasked` : without questions, what is given is taken as it is.
* `Dialog.complete_at_end` : what is found at the end of the input.
* `Dialog.acceptsYear_iff`, `Dialog.complete_typed_year`, `Dialog.complete_typed_holder` : what is
  typed counts as much as what is given.
* `Dialog.complete_agrees` : both ways agree.
-/

namespace LicenseForge

/-! ### Typed lines -/

/-- The text is typed on the next line of the input, or as the last one without a line end. Behind
it `rest` is unread. -/
inductive Input.Typed (i : Input) (v : Text) : Bytes → Prop
  | line {rest : Bytes} (h : i.unread = v.encode ++ lineFeed :: rest) : Typed i v rest
  | tail (h : i.unread = v.encode) (hb : i.broken = false) : Typed i v []

theorem lineFeed_not_mem_encode {v : Text} (h : '\n' ∉ v) : lineFeed ∉ v.encode := fun hm =>
  h (Text.mem_of_byte_mem_encode (by decide) (by decide) hm)

/-- What is typed is read, up to the blanks around it. -/
theorem Input.Typed.received {i : Input} {v : Text} {rest : Bytes} (h : i.Typed v rest)
    (hv : '\n' ∉ v) (hne : v ≠ []) : ∃ line others t, i.unread.reads = line :: others ∧
      others.flatten = rest ∧ Received i.broken line (.ok t) ∧ t.trim = v.trim ∧ t ≠ [] := by
  cases h with
  | line h =>
    refine ⟨v.encode ++ [lineFeed], rest.reads, v ++ ['\n'], ?_, by simp [Bytes.reads], ?_, ?_, ?_⟩
    · rw [h, Bytes.reads, Bytes.lines_line (lineFeed_not_mem_encode hv)]
      rfl
    · exact .text (by simp [CutOff]) (Text.encode_append v ['\n']).symm
    · exact Text.trim_append_of_allBlank (by decide)
    · simp
  | tail h hb =>
    refine ⟨v.encode, [[]], v, ?_, rfl, .text (by simp [CutOff, hb]) rfl, rfl, hne⟩
    rw [h, Bytes.reads, Bytes.lines_tail (lineFeed_not_mem_encode hv) (Text.encode_ne_nil hne)]
    rfl

namespace Dialog

variable {l : License} {given : Filling} {now : Int} {d : Dialog} {rest : Bytes} {f : Filling}

/-! ### Without questions -/

/-- Without questions what is given is taken, and the rest is left open. -/
theorem complete_unasked (d : Dialog) (l : License) (given : Filling) (now : Int) :
    d.complete l given false now =
      (.given { given with holder := given.holder.filter (!·.isEmpty) },
        d.noteHolder l (given.holder.filter (!·.isEmpty))) := by
  obtain ⟨holder, year⟩ := given
  cases holder <;> cases year <;> simp [complete, findHolder, findYear]

@[simp] theorem noteHolder_input (d : Dialog) (l : License) (holder : Option Text) :
    (d.noteHolder l holder).input = d.input := by
  rw [noteHolder_eq, follow_input]

/-- A year that is needed has been asked for. -/
theorem isSome_of_findYear {given year : Option Text}
    (h : (d.findYear l given true now).1 = .given year) (hl : l.needs .year) : year.isSome := by
  unfold findYear at h
  cases given with
  | some y =>
    cases h
    rfl
  | none =>
    simp only [hl, Bool.and_true, if_true] at h
    split at h
    · cases h
      rfl
    · cases h
    · cases h

/-- An empty name is none, and with questions a year that is needed is there. -/
theorem of_complete_eq_given (h : (d.complete l given true now).1 = .given f) :
    f.holder.filter (!·.isEmpty) = f.holder ∧ (l.needs .year → f.year.isSome) := by
  unfold complete at h
  split at h
  · cases h
  · dsimp only at h
    split at h
    next hy =>
      cases h
      exact ⟨by simp [Option.filter_filter], fun hl => isSome_of_findYear (by rw [hy]) hl⟩
    · cases h
    · cases h

/-- The clock makes no difference to a text that has its year or needs none. -/
theorem fill_congr_clock (h : l.needs .year → f.year.isSome) (now now' : Int) :
    l.fill f now = l.fill f now' := by
  obtain ⟨holder, year⟩ := f
  cases year with
  | some y => rfl
  | none =>
    have hne : ¬l.needs .year := fun hl => by cases h hl
    have hnum (y : Option Text) (hy : ∀ y' ∈ y, Year.IsNumeral y') :
        Filling.HasNumeral ⟨holder, y⟩ := hy
    change l.fill ⟨holder, none⟩ now = l.fill ⟨holder, some (Year.format now')⟩ now
    rw [License.fill_eq_substitute (hnum _ (by simp)),
      License.fill_eq_substitute (hnum _ (by simpa using Year.isNumeral_format now'))]
    refine License.substitute_congr fun p hp => ?_
    cases p with
    | holder => rfl
    | year => exact absurd hp hne

/-! ### At the end of the input -/

/-- At the end of the input a question gets what a blank line stands for, if it can be shown. -/
theorem ask_at_end (hi : d.input = { unread := [] }) (question : Text) (default : Option Text) :
    (d.room ≠ none ∧ ∃ next, d.ask question default = (.error .full, next)) ∨
      ∃ es, d.ask question default = (.ok (default.getD []), d.follow es []) := by
  by_cases h : d.Fits (.text question default)
  · obtain ⟨line, others, a, es, hl, ha, -, hp⟩ := exists_pose_of_fits h
    obtain rfl : a = .ok [] := (received_nil_iff hl ha).2 (by simp [hi])
    obtain ⟨rfl, rfl⟩ : [] = line ∧ [] = others := by
      simpa [hi, Bytes.reads, Bytes.lines] using hl
    refine .inr ⟨es, hp.trans ?_⟩
    cases default <;> rfl
  · obtain ⟨n, hr, hn⟩ := exists_room_of_not_fits h
    obtain ⟨es, -, hp⟩ := exists_pose_of_not_fits hr hn
    exact .inl ⟨by simp [hr], _, hp⟩

theorem findHolder_at_end (l : License) (given : Option Text) (hi : d.input = { unread := [] }) :
    (d.room ≠ none ∧ ∃ next, d.findHolder l given true = (.error .full, next)) ∨
      ∃ holder es, d.findHolder l given true = (.ok holder, d.follow es []) ∧
        holder.filter (!·.isEmpty) = given.filter (!·.isEmpty) := by
  have hstay : d.follow [] [] = d := by
    have hnil : d.input.unread = [] := by rw [hi]
    rw [← hnil, follow_nil]
  unfold findHolder
  cases given with
  | some v => exact .inr ⟨some v, [], by rw [hstay], rfl⟩
  | none =>
    dsimp only
    split
    next =>
      rcases ask_at_end hi holderQuestion none with ⟨hroom, next, ha⟩ | ⟨es, ha⟩ <;> rw [ha]
      · exact .inl ⟨hroom, next, rfl⟩
      · exact .inr ⟨_, es, rfl, rfl⟩
    next => exact .inr ⟨none, [], by rw [hstay], rfl⟩

theorem askYear_at_end (hn : 0 ≤ now ∧ now ≤ 9999) (hi : d.input = { unread := [] }) :
    (d.room ≠ none ∧ ∃ next, d.askYear now = (.failed .full, next)) ∨
      ∃ next, d.askYear now = (.given (Year.format now), next) := by
  rw [askYear, askYearOnce]
  rcases ask_at_end hi yearQuestion (some (Year.format now)) with ⟨hroom, next, ha⟩ | ⟨es, ha⟩ <;>
    rw [ha]
  · exact .inl ⟨hroom, next, rfl⟩
  · simp [Year.validate_format hn]

theorem findYear_at_end (l : License) (given : Option Text) (hn : 0 ≤ now ∧ now ≤ 9999)
    (hi : d.input = { unread := [] }) :
    (d.room ≠ none ∧ ∃ next, d.findYear l given true now = (.failed .full, next)) ∨
      ∃ year next, d.findYear l given true now = (.given year, next) ∧
        year.getD (Year.format now) = given.getD (Year.format now) := by
  unfold findYear
  cases given with
  | some y => exact .inr ⟨some y, d, rfl, rfl⟩
  | none =>
    dsimp only
    split
    next =>
      rcases askYear_at_end hn hi with ⟨hroom, next, ha⟩ | ⟨next, ha⟩ <;> rw [ha]
      · exact .inl ⟨hroom, next, rfl⟩
      · exact .inr ⟨_, next, rfl, rfl⟩
    next => exact .inr ⟨none, d, rfl, rfl⟩

/-- At the end of the input no name is found, and for a year that of the clock, if the questions can
be shown. -/
theorem complete_at_end (hn : 0 ≤ now ∧ now ≤ 9999) (hi : d.input = { unread := [] }) :
    (d.room ≠ none ∧ (d.complete l given true now).1 = .failed .full) ∨
      ∃ f, (d.complete l given true now).1 = .given f ∧
        f.holder = given.holder.filter (!·.isEmpty) ∧
        f.year.getD (Year.format now) = given.year.getD (Year.format now) := by
  unfold complete
  rcases findHolder_at_end l given.holder hi with
    ⟨hroom, next, hh⟩ | ⟨holder, es, hh, hholder⟩
  · rw [hh]
    exact .inl ⟨hroom, rfl⟩
  · rw [hh]
    dsimp only
    have hnext : ((d.follow es []).noteHolder l (holder.filter (!·.isEmpty))).input =
        { unread := [] } := by rw [noteHolder_input, follow_input, hi]
    rcases findYear_at_end l given.year hn hnext with
      ⟨hroom, next, hy⟩ | ⟨year, next, hy, hyear⟩ <;> rw [hy]
    · exact .inl ⟨fun h => hroom (by simp [noteHolder_eq, h]), rfl⟩
    · exact .inr ⟨_, rfl, hholder, hyear⟩

/-! ### A typed year -/

/-- The year is asked for once and the answer is accepted. The bytes behind it are unread. -/
def AcceptsYear (d : Dialog) (now : Int) (y : Text) (rest : Bytes) : Prop :=
  d.askYear now = (.given y,
    d.follow [.shown (prompt d.palette yearQuestion (some (Year.format now))).encode] rest)

theorem asking_of_ne_nil {p : Palette} {question t : Text} {default : Option Text} (h : t ≠ []) :
    asking p question default (.ok t) = [.shown (prompt p question default).encode] := by
  cases t with
  | nil => exact absurd rfl h
  | cons c t => rfl

theorem validate_congr {t v : Text} (h : t.trim = v.trim) : Year.validate t = Year.validate v := by
  rw [← Year.validate_trim t, h, Year.validate_trim]

theorem allBlank_congr {t v : Text} (h : t.trim = v.trim) : t.AllBlank ↔ v.AllBlank := by
  rw [← Text.trim_eq_nil_iff, h, Text.trim_eq_nil_iff]

/-- What is shown while the year is asked for comes behind what happened so far. -/
theorem exists_askYear_eq_follow (d : Dialog) (now : Int) :
    ∃ r es rest, d.askYear now = (r, d.follow es rest) := by
  induction hk : d.supply using Nat.strongRecOn generalizing d with
  | _ k ih =>
    subst hk
    obtain ⟨a, es, rest, ha⟩ := d.exists_pose_eq_follow (.year now)
    have hask : d.askYearOnce now = (a, d.follow es rest) := ha
    rw [askYear, hask]
    cases a with
    | error e => exact ⟨_, es, rest, rfl⟩
    | ok text =>
      dsimp only
      cases Year.validate text with
      | ok year => exact ⟨_, es, rest, rfl⟩
      | error e =>
        dsimp only
        rw [refuse_eq, follow_follow]
        split
        next hlt =>
          obtain ⟨r, es', rest', h⟩ := ih _ hlt _ rfl
          exact ⟨r, _, rest', h.trans (congrArg (Prod.mk r) follow_follow)⟩
        next => exact ⟨_, _, _, rfl⟩

/-- An answer that is refused is followed by more than the question. -/
theorem RefusedOnce.not_acceptsYear {d' : Dialog} {y : Text} (h : RefusedOnce now d d')
    (hlt : d.record.length + 1 < d'.record.length) : ¬d.AcceptsYear now y rest := by
  intro hacc
  rw [AcceptsYear, h.askYear_eq] at hacc
  split at hacc
  next =>
    obtain ⟨r, es, rest', hy⟩ := d'.exists_askYear_eq_follow now
    rw [hy] at hacc
    have hrec := congrArg (fun next => next.2.record.length) hacc
    simp only [follow_record, List.length_append, List.length_cons, List.length_nil] at hrec
    omega
  next => cases hacc

/-- A typed line is accepted as a year just if it is one. -/
theorem acceptsYear_iff {v y : Text}
    (hr : d.HasRoom [.shown (prompt d.palette yearQuestion (some (Year.format now))).encode])
    (ht : d.input.Typed v rest) (hv : '\n' ∉ v) (hb : ¬v.AllBlank) :
    d.AcceptsYear now y rest ↔ Year.validate v = .ok y := by
  have hne : v ≠ [] := fun h => hb (h ▸ Text.allBlank_nil)
  obtain ⟨line, others, t, hl, rfl, ha, htrim, htne⟩ := ht.received hv hne
  have hbt : ¬t.AllBlank := mt (allBlank_congr htrim).1 hb
  have hask : askingYear d.palette now (.ok t) =
      [.shown (prompt d.palette yearQuestion (some (Year.format now))).encode] :=
    asking_of_ne_nil htne
  cases hval : Year.validate v with
  | ok z =>
    have hz : z = t.trim := (Year.validate_ok hval).1.trans htrim.symm
    have hs : Settles now (.ok t) (.ok t.trim) := .year hbt (by rw [validate_congr htrim, hval, hz])
    rw [AcceptsYear, askYear_settled hl ha hs (hask ▸ hr), hask, hz]
    simp [Reply.ofExcept]
  | error e =>
    let fault : Refusal now d.input.broken :=
      ⟨line, t, e, ha, .text hbt (by rw [validate_congr htrim, hval])⟩
    have hentries : fault.entries d.palette = askingYear d.palette now (.ok t) ++
        [.complaint e.message] := rfl
    have hrefused := refusedOnce_of_refusal rfl fault hl (by
      rw [hentries, hask]
      simpa [HasRoom, Entry.bytes] using hr)
    exact iff_of_false (hrefused.not_acceptsYear (by simp [hentries, hask])) (by simp)

/-- A year is taken from the command line just if it is one. -/
theorem store_year_iff {v y : Text} : Year.validate v = .ok y ↔
    ∀ c : Choices, c.store .year v = .ok { c with year := some y } := by
  constructor
  · intro h c
    simp only [Choices.store, h]
  · intro h
    have hstore := h {}
    simp only [Choices.store] at hstore
    split at hstore
    next z hz => simpa [hz] using hstore
    next => cases hstore

/-- Where a given year leaves the dialog, the question for the year finds the same. -/
theorem complete_typed_year {d₁ next : Dialog} {y : Text} (hg : given.year = none)
    (hl : l.needs .year)
    (h : d.complete l { given with year := some y } true now = (.given f, d₁)) :
    d.complete l given true now = (.given f, next) ↔ d₁.askYear now = (.given y, next) := by
  unfold complete at h ⊢
  cases hh : d.findHolder l given.holder true with
  | mk found d' =>
    simp only [hh] at h ⊢
    cases found with
    | error e => cases h
    | ok holder =>
      obtain ⟨hf, rfl⟩ := Prod.mk.inj h
      cases hf
      simp only [findYear, hg, hl, Bool.and_true, if_true]
      obtain ⟨year | e | _, left⟩ := askYear _ now <;> simp

/-! ### A typed name -/

/-- Behind the question, a typed name counts as much as one that is given. -/
theorem complete_typed_holder {n : Text} (hg : given.holder = none) (hl : l.needs .holder)
    (hr : d.HasRoom [.shown (prompt d.palette holderQuestion none).encode])
    (ht : d.input.Typed n rest) (hv : '\n' ∉ n) (htrim : n.trim = n) (hne : n ≠ []) :
    d.complete l given true now =
      (d.follow [.shown (prompt d.palette holderQuestion none).encode] rest).complete l
        { given with holder := some n } true now := by
  obtain ⟨line, others, t, hreads, rfl, ha, htn, htne⟩ := ht.received hv hne
  have hasking : asking d.palette holderQuestion none (.ok t) =
      [.shown (prompt d.palette holderQuestion none).encode] := asking_of_ne_nil htne
  have hfound : d.findHolder l none true =
      (.ok (some n), d.follow [.shown (prompt d.palette holderQuestion none).encode]
        others.flatten) := by
    simp only [findHolder, hl, Bool.and_true, if_true]
    rw [ask_eq hreads ha (hasking ▸ hr), hasking]
    simp only [Except.map, answer_none, htn, htrim]
  unfold complete
  rw [hg, hfound]
  rfl

/-- What happened before makes no difference to what is found. -/
theorem complete_congr {d' : Dialog} {n : Text} (hn : 0 ≤ now ∧ now ≤ 9999)
    (hg : given.holder = some n) (hi : d.input = d'.input) (hp : d.palette = d'.palette)
    (hroom : d.room = none) (hroom' : d'.room = none) :
    (d.complete l given true now).1 = (d'.complete l given true now).1 := by
  have hend : ∃ line ∈ d.input.unread.reads, LineSettles now d.input.broken line :=
    ⟨[], by simp [Bytes.reads], lineSettles_nil.2 (.inl hn)⟩
  obtain ⟨y, es, rest, hy⟩ := exists_found l .year given.year true
    (exists_yearAsked (p := d.palette) hend)
  have hc : Completes l given true now d.palette d.input _ _ _ := .found (.given hg) hy
  rw [complete_eq hc (hasRoom_of_room_eq_none hroom),
    complete_eq (hp ▸ hi ▸ hc) (hasRoom_of_room_eq_none hroom')]

/-! ### Both ways -/

/-- **Answers and flags agree.** What asking finds can be given instead, without questions, for the
same text; at the end of the input asking finds what is taken for granted without questions, or
cannot be shown; and a year or a name that is typed at its question counts as much as one that is
given. With a year that is given the dialog stays in front of the question, and the line that is
typed there leads to the same filling if and only if it is accepted as this year. -/
theorem complete_agrees (l : License) (given : Filling) {now : Int} (hn : 0 ≤ now ∧ now ≤ 9999) :
    (∀ (d : Dialog) (f : Filling), (d.complete l given true now).1 = .given f →
      ∀ (d' : Dialog) (now' : Int), (d'.complete l f false now').1 = .given f ∧
        (d'.complete l f false now').2.input = d'.input ∧ l.fill f now' = l.fill f now) ∧
    (∀ d d' : Dialog, d.input = { unread := [] } →
      ∃ f', (d'.complete l given false now).1 = .given f' ∧
        ((d.room ≠ none ∧ (d.complete l given true now).1 = .failed .full) ∨
          ∃ f, (d.complete l given true now).1 = .given f ∧ l.fill f now = l.fill f' now)) ∧
    (∀ (d : Dialog) (v y : Text) (rest : Bytes),
      d.HasRoom [.shown (prompt d.palette yearQuestion (some (Year.format now))).encode] →
      d.input.Typed v rest → '\n' ∉ v → ¬v.AllBlank →
      (d.AcceptsYear now y rest ↔ Year.validate v = .ok y) ∧
      (Year.validate v = .ok y ↔
        ∀ c : Choices, c.store .year v = .ok { c with year := some y })) ∧
    (∀ (d d₁ : Dialog) (f : Filling) (v y : Text) (rest : Bytes),
      given.year = none → l.needs .year →
      d.complete l { given with year := some y } true now = (.given f, d₁) →
      d₁.HasRoom [.shown (prompt d₁.palette yearQuestion (some (Year.format now))).encode] →
      d₁.input.Typed v rest → '\n' ∉ v → ¬v.AllBlank →
      (d.complete l given true now = (.given f, d₁.follow
          [.shown (prompt d₁.palette yearQuestion (some (Year.format now))).encode] rest) ↔
        Year.validate v = .ok y)) ∧
    (∀ (d : Dialog) (n : Text) (rest : Bytes),
      d.HasRoom [.shown (prompt d.palette holderQuestion none).encode] →
      d.input.Typed n rest → '\n' ∉ n → n ≠ [] → n.trim = n → given.holder = none →
      l.needs .holder →
      d.complete l given true now =
        (d.follow [.shown (prompt d.palette holderQuestion none).encode] rest).complete l
          { given with holder := some n } true now ∧
      (d.room = none → (d.complete l given true now).1 =
        ({ d with input := { d.input with unread := rest } }.complete l
          { given with holder := some n } true now).1)) := by
  refine ⟨fun d f h d' now' => ?_, fun d d' hi => ?_, fun d v y rest hr ht hv hb =>
    ⟨acceptsYear_iff hr ht hv hb, store_year_iff⟩,
    fun d d₁ f v y rest hg hl hc hr ht hv hb =>
      (complete_typed_year hg hl hc).trans (acceptsYear_iff hr ht hv hb),
    fun d n rest hr ht hv hne htrim hg hl => ?_⟩
  · obtain ⟨hholder, hyear⟩ := of_complete_eq_given h
    rw [complete_unasked, hholder]
    exact ⟨rfl, noteHolder_input d' l f.holder, fill_congr_clock hyear now' now⟩
  · refine ⟨_, by rw [complete_unasked], (complete_at_end hn hi).imp_right ?_⟩
    rintro ⟨f, hf, hholder, hyear⟩
    refine ⟨f, hf, ?_⟩
    simp only [License.fill, hholder, hyear]
  · have htyped : d.complete l given true now = _ :=
      complete_typed_holder hg hl hr ht hv htrim hne
    refine ⟨htyped, fun hroom => ?_⟩
    rw [htyped]
    exact complete_congr hn rfl rfl rfl (by rw [follow_room, hroom]; rfl) hroom

/-- A name is typed, and then a year. At the end of the input what is found can be given instead. -/
theorem complete_agrees_typed :
    let l : License := { text := "\x7b\x7bname\x7d\x7d \x7b\x7byear\x7d\x7d".toList }
    let d : Dialog := { input := { unread := Text.encode "Ann\n2020\n".toList }, palette := .plain }
    let d' : Dialog := { input := { unread := Text.encode "2020\n".toList }, palette := .plain }
    let closed : Dialog := { input := { unread := [] }, palette := .plain }
    ((0 : Int) ≤ 2024 ∧ (2024 : Int) ≤ 9999) ∧
      (d.complete l {} true 2024).1 =
        (d'.complete l { holder := some "Ann".toList } true 2024).1 ∧
      d'.AcceptsYear 2024 "2020".toList [] ∧
      (d'.complete l { holder := some "Ann".toList } true 2024).1 =
        (d'.complete l ⟨some "Ann".toList, some "2020".toList⟩ true 2024).1 ∧
      ∃ f, (closed.complete l {} true 2024).1 = .given f ∧
        (d.complete l f false 2024).1 = .given f := by
  intro l d d' closed
  have hn : (0 : Int) ≤ 2024 ∧ (2024 : Int) ≤ 9999 := by decide
  obtain ⟨hgiven, hclosed, hyear, -, hname⟩ := complete_agrees l {} hn
  have hasks {d : Dialog} {es : List Entry} (h : d.room = none) : d.HasRoom es :=
    hasRoom_of_room_eq_none h
  refine ⟨hn, ?_, ?_, ?_, ?_⟩
  · exact (hname d "Ann".toList _ (hasks rfl) (.line rfl) (by decide) (by decide) (by decide) rfl
      rfl).2 rfl
  · exact (hyear d' "2020".toList _ [] (hasks rfl) (.line rfl) (by decide) (by decide)).1.2 rfl
  · have hgivenYear : d'.complete l ⟨some "Ann".toList, some "2020".toList⟩ true 2024 =
        (.given ⟨some "Ann".toList, some "2020".toList⟩, d') := rfl
    have htyped := (complete_agrees l { holder := some "Ann".toList } hn).2.2.2.1 d' d' _
      "2020".toList "2020".toList [] rfl (by decide) hgivenYear (hasks rfl) (.line rfl) (by decide)
      (by decide)
    rw [htyped.2 rfl, hgivenYear]
  · obtain ⟨-, -, ⟨hroom, -⟩ | ⟨f, hf, -⟩⟩ := hclosed closed d rfl
    · exact absurd rfl hroom
    · exact ⟨f, hf, (hgiven closed f hf d 2024).1⟩

end Dialog

end LicenseForge
