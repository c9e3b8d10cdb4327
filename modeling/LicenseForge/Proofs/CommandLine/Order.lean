import LicenseForge.Proofs.CommandLine.Reading
import Mathlib.Data.List.Pairwise
import Mathlib.Data.List.Perm.Basic

/-!
# What is said on a command line counts in every order

* `Saying` : one thing that a command line says, in a word of its own.
* `Choices.sayings`, `Choices.words` : all that has to be said for some choices, and the words.
* `Saying.foldl_put_eq_of_perm` : sayings about different things can change places.
* `Scan.Holds` : what the words read so far come to.
* `Scan.run_saying`, `Scan.run_sayings` : reading one saying puts it down, and so for many.
* `Scan.run_words` : the words for some choices are taken for what they say, in every order.
* `Invocation.parse_any_order` : a command line in any order is read back as what it was written
  for.
-/

namespace LicenseForge

open Steps

/-! ### Sayings -/

/-- One thing that a command line says. -/
inductive Saying where
  /-- A slot has a value. -/
  | value (slot : Slot) (value : Text)
  /-- A switch is thrown. -/
  | switch (switch : Switch)
  deriving DecidableEq, Repr

/-- Something has been said about it, and it must not be said again. -/
def Choices.isSaid (c : Choices) : Flag → Bool
  | .slot slot => c.isSet slot
  | .switch .toStdout => c.toStdout
  | .switch .force => c.force
  | .switch .noPrompt => c.noPrompt
  | .switch _ => false

theorem Choices.isSaid_empty (f : Flag) : Choices.isSaid {} f = false := by
  cases f with
  | slot slot => cases slot <;> rfl
  | switch switch => cases switch <;> rfl

namespace Saying

/-- The word for it. The license stands by itself, other values behind an equals sign. -/
def word : Saying → Text
  | value .license v => v
  | value slot v => slot.flag ++ '=' :: v
  | switch .verbose => "-v".toList
  | switch s => "--".toList ++ ((Flag.switch s).long?.getD [])

/-- What it is about. -/
def subject : Saying → Flag
  | value slot _ => .slot slot
  | switch s => .switch s

/-- The choices with this one made. -/
def put (c : Choices) : Saying → Choices
  | value .license v => { c with license := some v }
  | value .holder v => { c with holder := some v }
  | value .year v => { c with year := some v.trim }
  | value .output v => { c with output := some v }
  | value .templates v => { c with templates := some v }
  | value .color v => { c with color := ColorChoice.ofName? v }
  | switch .toStdout => { c with toStdout := true }
  | switch .force => { c with force := true }
  | switch .noPrompt => { c with noPrompt := true }
  | switch .verbose => { c with verbosity := min (c.verbosity + 1) Choices.verbosityLimit }
  | switch .help | switch .version => c

/-- It can be said in a part of the command line, and is no request for help. -/
def Fits (scope : Scope) : Saying → Prop
  | value .license v => scope.takesLicense ∧ v.head? ≠ some '-' ∧
      (scope = .program → CommandWord.ofWord? v = none)
  | value .holder _ | value .year _ => scope = .program
  | value .output v => scope = .program ∧ v ≠ []
  | value .templates v => v ≠ []
  | value .color v => (ColorChoice.ofName? v).isSome
  | switch .verbose => True
  | switch .toStdout | switch .force | switch .noPrompt => scope = .program
  | switch .help | switch .version => False

/-- A year is one. -/
def IsValid : Saying → Prop
  | value .year v => ∃ y, Year.validate v = .ok y
  | _ => True

/-- They are about different things, or about the one that may be said again. -/
def Apart (x y : Saying) : Prop := x.subject ≠ y.subject ∨ x.subject = .switch .verbose

theorem Apart.symm {x y : Saying} (h : x.Apart y) : y.Apart x := by
  by_cases hxy : x.subject = y.subject
  · exact .inr (hxy ▸ h.resolve_left (not_not_intro hxy))
  · exact .inl (Ne.symm hxy)

instance : Std.Symm Apart := ⟨fun _ _ => Apart.symm⟩

/-! ### Changing places -/

variable {x y : Saying} {xs ys : List Saying}

theorem isSaid_put {f : Flag} (c : Choices) (h : x.subject ≠ f ∨ x.subject = .switch .verbose) :
    (put c x).isSaid f = c.isSaid f := by
  cases x with
  | value slot v =>
    have hne : Flag.slot slot ≠ f := h.resolve_right fun he => by cases he
    cases f with
    | slot slot' => cases slot <;> cases slot' <;> first | rfl | exact absurd rfl hne
    | switch s => cases slot <;> cases s <;> rfl
  | switch s =>
    cases f with
    | slot slot => cases s <;> cases slot <;> rfl
    | switch s' =>
      cases s <;> cases s' <;>
        first | rfl | exact absurd rfl (h.resolve_right fun he => by cases he)

theorem put_comm (c : Choices) (h : x.Apart y) : put (put c x) y = put (put c y) x := by
  by_cases hxy : x = y
  · rw [hxy]
  · cases x with
    | value slot v =>
      have hne : Flag.slot slot ≠ y.subject := h.resolve_right fun he => by cases he
      cases y with
      | value slot' v' => cases slot <;> cases slot' <;> first | rfl | exact absurd rfl hne
      | switch s => cases slot <;> cases s <;> rfl
    | switch s =>
      cases y with
      | value slot v => cases s <;> cases slot <;> rfl
      | switch s' => cases s <;> cases s' <;> rfl

/-- Sayings about different things come to the same in every order. -/
theorem foldl_put_eq_of_perm (h : xs.Perm ys) (hd : ys.Pairwise Apart) (c : Choices) :
    xs.foldl put c = ys.foldl put c := by
  refine (h.symm.foldl_eq' (fun x hx y hy c => ?_) c).symm
  by_cases hxy : x = y
  · rw [hxy]
  · exact put_comm c (hd.forall hx hy hxy)

end Saying

/-! ### Reading one saying -/

namespace Scan

variable {s : Scan} {c : Choices} {scope : Scope} {x : Saying} {xs : List Saying}
  {slot : Slot} {switch : Switch} {v : Text}

/-- What the words read so far come to, once all is settled. -/
def Holds (s : Scan) (c : Choices) : Prop := s.settle = .ok { choices := c }

theorem holds_choices (c : Choices) : Holds { choices := c } c := rfl

theorem holds_license (hn : c.license = none) :
    Holds { choices := c, pending := some (.license, some v) } { c with license := some v } := by
  simp only [Holds, settle, Scan.assign, Choices.assign, Choices.isSet, hn]
  rfl

theorem Holds.settle_bind {α : Type} (h : s.Holds c) (f : Scan → Except Stop α) :
    s.settle >>= f = f { choices := c } := by
  unfold Holds at h
  rw [h]
  rfl

theorem Holds.not_awaits (h : s.Holds c) : s.awaits = false := by
  unfold Holds settle at h
  unfold awaits
  split at h <;> simp_all

theorem Holds.hasLicense (h : s.Holds c) (hc : c.license = none) : s.hasLicense = false := by
  rcases settle_eq_ok_iff.1 h with ⟨hp, rfl⟩ | ⟨slot, value, hp, ha⟩
  · simp [Scan.hasLicense, hc]
  · obtain ⟨c', ha, he⟩ := assign_eq_ok_iff.1 ha
    obtain rfl : c = c' := congrArg Scan.choices he
    have hl := (Choices.store_values (Choices.assign_eq_ok_iff.1 ha).2).1
    rw [hc] at hl
    split at hl
    next => cases hl
    next hslot => simp [Scan.hasLicense, hp, ← hl, hslot]

theorem store_of_fits (hf : (Saying.value slot v).Fits scope) (hv : (Saying.value slot v).IsValid) :
    c.store slot v = .ok (Saying.put c (.value slot v)) := by
  have hpath {v : Text} (hne : v ≠ []) : Choices.path v = .ok v := by simp [Choices.path, hne]
  cases slot with
  | license => rfl
  | holder => rfl
  | year =>
    obtain ⟨y, hy⟩ := hv
    simp only [Choices.store, hy, (Year.validate_ok hy).1]
    rfl
  | output => simp only [Choices.store, hpath hf.2]; rfl
  | templates => simp only [Choices.store, hpath hf]; rfl
  | color =>
    obtain ⟨color, hcolor⟩ := Option.isSome_iff_exists.1 hf
    simp only [Choices.store, hcolor, Saying.put]

theorem store_of_not_isValid (hv : ¬(Saying.value slot v).IsValid) :
    c.store slot v = .error .valueValidation := by
  cases slot with
  | year =>
    cases hy : Year.validate v with
    | ok y => exact absurd ⟨y, hy⟩ hv
    | error e => simp only [Choices.store, hy]
  | _ => exact absurd trivial hv

theorem throwSwitch_of_fits (hf : (Saying.switch switch).Fits scope)
    (hn : c.isSaid (.switch switch) = false) :
    c.throwSwitch scope switch = .ok (Saying.put c (.switch switch)) := by
  cases switch with
  | help => cases hf
  | version => cases hf
  | verbose => rfl
  | _ =>
    simp only [Choices.isSaid] at hn
    simp only [Choices.throwSwitch, hn, Bool.false_eq_true, if_false]
    rfl

/-- The word for a value is read as the name of its slot with the value. -/
theorem ofText_value (hslot : slot ≠ .license) (hf : (Saying.value slot v).Fits scope) :
    ∃ name, Word.ofText (Saying.value slot v).word = .long name (some v) ∧
      scope.long? name = some (.slot slot) ∧
      CommandWord.ofWord? (Saying.value slot v).word = none := by
  cases slot with
  | license => exact absurd rfl hslot
  | holder => obtain rfl : scope = .program := hf; exact ⟨_, rfl, rfl, rfl⟩
  | year => obtain rfl : scope = .program := hf; exact ⟨_, rfl, rfl, rfl⟩
  | output => obtain rfl : scope = .program := hf.1; exact ⟨_, rfl, rfl, rfl⟩
  | templates => exact ⟨_, rfl, by cases scope <;> rfl, rfl⟩
  | color => exact ⟨_, rfl, by cases scope <;> rfl, rfl⟩

theorem run_value (hs : s.Holds c) (hslot : slot ≠ .license)
    (hf : (Saying.value slot v).Fits scope) (hn : c.isSaid (.slot slot) = false)
    (rest : List Text) :
    s.run scope false ((Saying.value slot v).word :: rest) =
      match c.store slot v with
      | .ok c' => run scope false { choices := c' } rest
      | .error e => .error (.refused e) := by
  obtain ⟨name, hword, hlong, hcmd⟩ := ofText_value hslot hf
  have hassign : c.assign slot v = c.store slot v := if_neg (ne_true_of_eq_false hn)
  have hbegin : s.begin slot (some v) = Scan.assign { choices := c } slot v := hs.settle_bind _
  rw [run]
  simp only [commandAt_eq_none hcmd, hword, long, hlong, hbegin, Scan.assign, hassign,
    Bool.false_eq_true, if_false]
  cases c.store slot v <;> rfl

theorem run_license (hs : s.Holds c) (hf : (Saying.value .license v).Fits scope)
    (hn : c.license = none) (rest : List Text) :
    s.run scope false (v :: rest) =
      run scope false { choices := c, pending := some (.license, some v) } rest := by
  obtain ⟨htakes, hdash, hprogram⟩ := hf
  have hat : s.commandAt scope v = none := by
    unfold commandAt
    split
    next h => exact hprogram (by simp_all)
    next => rfl
  have hword : Word.ofText v = .plain := by
    unfold Word.ofText
    split <;> simp_all
  have hplain : s.plain scope v = .ok { choices := c, pending := some (.license, some v) } := by
    have hs' : s.settle = .ok { choices := c } := hs
    have hpos : s.positional scope false v =
        .ok { choices := c, pending := some (.license, some v) } := by
      simp only [positional, htakes, hs.hasLicense hn, hs']
      rfl
    unfold plain
    split
    next slot hp => simp [settle, hp] at hs'
    next => exact hpos
  rw [run]
  simp only [hat, hword, hplain, Bool.false_eq_true, if_false]
  rfl

/-- The word for a switch is read as that switch. -/
theorem run_word_switch (hf : (Saying.switch switch).Fits scope) (rest : List Text) :
    s.run scope false ((Saying.switch switch).word :: rest) =
      s.throwSwitch scope switch >>= fun s' => s'.run scope false rest := by
  cases switch with
  | help => cases hf
  | version => cases hf
  | verbose =>
    have hletter : scope.short? 'v' = some (.switch .verbose) := by cases scope <;> rfl
    have hword : Word.ofText (Saying.switch .verbose).word = .short ['v'] := rfl
    have hcmd : CommandWord.ofWord? (Saying.switch .verbose).word = none := rfl
    rw [run]
    simp only [commandAt_eq_none hcmd, hword, short, hletter, Bool.false_eq_true, if_false]
    cases s.throwSwitch scope .verbose <;> rfl
  | toStdout | force | noPrompt =>
    obtain rfl : scope = .program := hf
    rw [run, if_neg Bool.false_ne_true, commandAt_eq_none rfl]
    rfl

theorem run_switch (hs : s.Holds c) (hf : (Saying.switch switch).Fits scope)
    (hn : c.isSaid (.switch switch) = false) (rest : List Text) :
    s.run scope false ((Saying.switch switch).word :: rest) =
      run scope false { choices := Saying.put c (.switch switch) } rest := by
  rw [run_word_switch hf, Scan.throwSwitch, hs.settle_bind, throwSwitch_of_fits hf hn]
  rfl

/-- Reading a saying puts it down. -/
theorem run_saying (hs : s.Holds c) (hf : x.Fits scope) (hn : c.isSaid x.subject = false)
    (hv : x.IsValid) :
    ∃ s' : Scan, s'.Holds (x.put c) ∧
      ∀ rest, s.run scope false (x.word :: rest) = s'.run scope false rest := by
  cases x with
  | switch switch => exact ⟨_, holds_choices _, run_switch hs hf hn⟩
  | value slot v =>
    by_cases hslot : slot = .license
    · subst hslot
      have hnone : c.license = none := Option.not_isSome_iff_eq_none.1 (ne_true_of_eq_false hn)
      exact ⟨_, holds_license hnone, run_license hs hf hnone⟩
    · refine ⟨_, holds_choices _, fun rest => ?_⟩
      rw [run_value hs hslot hf hn, store_of_fits hf hv]

/-- Reading a year that is none is an error. -/
theorem run_invalid (hs : s.Holds c) (hf : x.Fits scope) (hn : c.isSaid x.subject = false)
    (hv : ¬x.IsValid) (rest : List Text) :
    s.run scope false (x.word :: rest) = .error (.refused .valueValidation) := by
  cases x with
  | switch switch => exact absurd trivial hv
  | value slot v =>
    have hslot : slot ≠ .license := by
      rintro rfl
      exact hv trivial
    rw [run_value hs hslot hf hn, store_of_not_isValid hv]

/-- Reading sayings about different things puts them down one after the other, up to the first year
that is none. -/
theorem run_sayings (hs : s.Holds c) (hf : ∀ x ∈ xs, x.Fits scope)
    (hn : ∀ x ∈ xs, c.isSaid x.subject = false) (hd : xs.Pairwise Saying.Apart) :
    ((∀ x ∈ xs, x.IsValid) → ∃ s' : Scan, s'.Holds (xs.foldl Saying.put c) ∧
        ∀ rest, s.run scope false (xs.map Saying.word ++ rest) = s'.run scope false rest) ∧
      ((∃ x ∈ xs, ¬x.IsValid) → ∀ rest,
        s.run scope false (xs.map Saying.word ++ rest) = .error (.refused .valueValidation)) := by
  induction xs generalizing s c with
  | nil => exact ⟨fun _ => ⟨s, hs, fun _ => rfl⟩, by simp⟩
  | cons x xs ih =>
    simp only [List.mem_cons, forall_eq_or_imp] at hf hn
    obtain ⟨hx, hd⟩ := List.pairwise_cons.1 hd
    by_cases hv : x.IsValid
    · obtain ⟨s₁, hs₁, hrun⟩ := run_saying hs hf.1 hn.1 hv
      -- what is still to be said is about other things, which stay unsaid
      have hn₁ : ∀ y ∈ xs, (x.put c).isSaid y.subject = false := by
        intro y hy
        rw [Saying.isSaid_put c (hx y hy)]
        exact hn.2 y hy
      simpa [hv, hrun] using ih hs₁ hf.2 hn₁ hd
    · refine ⟨fun h => absurd (h x List.mem_cons_self) hv, fun _ rest => ?_⟩
      exact run_invalid hs hf.1 hn.1 hv _

end Scan

/-! ### All that has to be said -/

namespace Choices

variable {c : Choices} {scope : Scope} {x : Saying}

/-- The value to be given for a slot. -/
def value? (c : Choices) : Slot → Option Text
  | .license => c.license
  | .holder => c.holder
  | .year => c.year
  | .output => c.output
  | .templates => c.templates
  | .color => c.color.map ColorChoice.name

/-- How often a switch has to be thrown. -/
def times (c : Choices) : Switch → Nat
  | .toStdout => c.toStdout.toNat
  | .force => c.force.toNat
  | .noPrompt => c.noPrompt.toNat
  | .verbose => c.verbosity
  | .help | .version => 0

/-- What has to be said about a flag. -/
def sayingsAbout (c : Choices) : Flag → List Saying
  | .slot slot => ((c.value? slot).map (.value slot)).toList
  | .switch switch => List.replicate (c.times switch) (.switch switch)

/-- What can be spoken of: the license, and all flags of the program. -/
def subjects : List Flag := .slot .license :: Scope.program.flags

/-- All that has to be said for some choices. -/
def sayings (c : Choices) : List Saying := subjects.flatMap c.sayingsAbout

/-- The words of a command line that makes some choices, in one order. -/
def words (c : Choices) : List Text :=
  c.license.toList ++ (c.holder.map ("--name=".toList ++ ·)).toList ++
    (c.year.map ("--year=".toList ++ ·)).toList ++
    (c.output.map ("--output=".toList ++ ·)).toList ++
    (if c.toStdout then ["--stdout".toList] else []) ++
    (if c.force then ["--force".toList] else []) ++
    (if c.noPrompt then ["--no-prompt".toList] else []) ++
    (c.templates.map ("--templates=".toList ++ ·)).toList ++
    (c.color.map ("--color=".toList ++ ColorChoice.name ·)).toList ++
    List.replicate c.verbosity "-v".toList

/-- The choices as they are read back: the year loses the blanks around it, and the requests for
more detail are counted up to the limit. -/
def readBack (c : Choices) : Choices :=
  { c with year := c.year.map Text.trim, verbosity := min c.verbosity verbosityLimit }

theorem words_eq : c.words = c.sayings.map Saying.word := by
  have hvalue (v : Option Text) (f : Text → Saying) :
      (v.map f).toList.map Saying.word = (v.map (Saying.word ∘ f)).toList := by
    cases v <;> rfl
  have hswitch (b : Bool) (w : Text) : List.replicate b.toNat w = if b then [w] else [] := by
    cases b <;> rfl
  simp only [sayings, subjects, Scope.flags, Flag.special, Flag.common, List.cons_append,
    List.nil_append, List.flatMap_cons, List.flatMap_nil, List.map_append, List.append_nil,
    sayingsAbout, value?, times, hvalue, List.map_replicate, hswitch, List.replicate_zero]
  have hlicense : Saying.word ∘ Saying.value .license = id := rfl
  have hholder : Saying.word ∘ Saying.value .holder = ("--name=".toList ++ ·) := rfl
  have hyear : Saying.word ∘ Saying.value .year = ("--year=".toList ++ ·) := rfl
  have houtput : Saying.word ∘ Saying.value .output = ("--output=".toList ++ ·) := rfl
  have htemplates : Saying.word ∘ Saying.value .templates = ("--templates=".toList ++ ·) := rfl
  have hcolor : Saying.word ∘ Saying.value .color ∘ ColorChoice.name =
      ("--color=".toList ++ ColorChoice.name ·) := rfl
  rw [hlicense, hholder, hyear, houtput, htemplates, Option.map_map, Function.comp_assoc, hcolor,
    Option.map_id_fun, id]
  simp only [words, List.append_assoc]
  rfl

theorem mem_subjects (f : Flag) : f ∈ subjects := by
  cases f with
  | slot slot => cases slot <;> decide
  | switch switch => cases switch <;> decide

theorem subject_of_mem {f : Flag} (h : x ∈ c.sayingsAbout f) : x.subject = f := by
  cases f with
  | slot slot =>
    obtain ⟨v, -, rfl⟩ := Option.map_eq_some_iff.1 (Option.mem_toList.1 h)
    rfl
  | switch switch => rw [List.eq_of_mem_replicate h]; rfl

theorem mem_sayings : x ∈ c.sayings ↔ x ∈ c.sayingsAbout x.subject := by
  constructor
  · intro h
    obtain ⟨f, -, h⟩ := List.mem_flatMap.1 h
    rwa [subject_of_mem h]
  · intro h
    exact List.mem_flatMap.2 ⟨_, mem_subjects _, h⟩

theorem value_mem_sayings {slot : Slot} {v : Text} :
    .value slot v ∈ c.sayings ↔ c.value? slot = some v := by
  rw [mem_sayings]
  simp [Saying.subject, sayingsAbout]

theorem switch_mem_sayings {switch : Switch} :
    .switch switch ∈ c.sayings ↔ c.times switch ≠ 0 := by
  rw [mem_sayings]
  simp [Saying.subject, sayingsAbout]

/-- What has to be said is about different things, except for the requests for more detail. -/
theorem sayings_apart : c.sayings.Pairwise Saying.Apart := by
  refine List.pairwise_flatMap.2 ⟨fun f _ => ?_, ?_⟩
  · cases f with
    | slot slot => cases h : c.value? slot <;> simp [sayingsAbout, h]
    | switch switch =>
      refine List.pairwise_replicate.2 ?_
      cases switch with
      | verbose => exact .inr (.inr rfl)
      | help | version => exact .inl (Nat.zero_le 1)
      | toStdout | force | noPrompt => exact .inl (Bool.toNat_le _)
  · have hnodup : subjects.Pairwise (· ≠ ·) := by decide
    refine hnodup.imp fun hne x hx y hy => .inl ?_
    rwa [subject_of_mem hx, subject_of_mem hy]

theorem foldl_verbose (n : Nat) (c : Choices) (hc : c.verbosity ≤ verbosityLimit) :
    (List.replicate n (Saying.switch .verbose)).foldl Saying.put c =
      { c with verbosity := min (c.verbosity + n) verbosityLimit } := by
  induction n generalizing c with
  | zero => simp [Nat.min_eq_left hc]
  | succ n ih =>
    rw [List.replicate_succ, List.foldl_cons, ih _ (Nat.min_le_right _ _)]
    simp only [Saying.put, Choices.mk.injEq, true_and]
    omega

/-- The choices `d` with what `c` says about a flag. -/
def addAbout (c d : Choices) : Flag → Choices
  | .slot .license => { d with license := c.license <|> d.license }
  | .slot .holder => { d with holder := c.holder <|> d.holder }
  | .slot .year => { d with year := c.year.map Text.trim <|> d.year }
  | .slot .output => { d with output := c.output <|> d.output }
  | .slot .templates => { d with templates := c.templates <|> d.templates }
  | .slot .color => { d with color := c.color <|> d.color }
  | .switch .toStdout => { d with toStdout := c.toStdout || d.toStdout }
  | .switch .force => { d with force := c.force || d.force }
  | .switch .noPrompt => { d with noPrompt := c.noPrompt || d.noPrompt }
  | .switch .verbose => { d with verbosity := min (d.verbosity + c.verbosity) verbosityLimit }
  | .switch .help | .switch .version => d

theorem foldl_sayingsAbout (c d : Choices) (hd : d.verbosity ≤ verbosityLimit) (f : Flag) :
    (c.sayingsAbout f).foldl Saying.put d = c.addAbout d f := by
  cases f with
  | slot slot =>
    cases slot with
    | color => cases h : c.color <;> simp [sayingsAbout, value?, addAbout, Saying.put, h]
    | license => cases h : c.license <;> simp [sayingsAbout, value?, addAbout, Saying.put, h]
    | holder => cases h : c.holder <;> simp [sayingsAbout, value?, addAbout, Saying.put, h]
    | year => cases h : c.year <;> simp [sayingsAbout, value?, addAbout, Saying.put, h]
    | output => cases h : c.output <;> simp [sayingsAbout, value?, addAbout, Saying.put, h]
    | templates => cases h : c.templates <;> simp [sayingsAbout, value?, addAbout, Saying.put, h]
  | switch switch =>
    cases switch with
    | verbose => exact foldl_verbose _ _ hd
    | help | version => rfl
    | toStdout => cases h : c.toStdout <;> simp [sayingsAbout, times, addAbout, Saying.put, h]
    | force => cases h : c.force <;> simp [sayingsAbout, times, addAbout, Saying.put, h]
    | noPrompt => cases h : c.noPrompt <;> simp [sayingsAbout, times, addAbout, Saying.put, h]

theorem verbosity_addAbout_le {d : Choices} (hd : d.verbosity ≤ verbosityLimit) (f : Flag) :
    (c.addAbout d f).verbosity ≤ verbosityLimit := by
  cases f with
  | slot slot => cases slot <;> exact hd
  | switch switch => cases switch <;> first | exact hd | exact Nat.min_le_right _ _

theorem foldl_sayings_eq (c : Choices) {d : Choices} (hd : d.verbosity ≤ verbosityLimit)
    (fs : List Flag) :
    (fs.flatMap c.sayingsAbout).foldl Saying.put d = fs.foldl c.addAbout d := by
  induction fs generalizing d with
  | nil => rfl
  | cons f fs ih =>
    rw [List.flatMap_cons, List.foldl_append, foldl_sayingsAbout c d hd f, List.foldl_cons,
      ih (verbosity_addAbout_le hd f)]

/-- All that has to be said for some choices comes to what is read back. -/
theorem foldl_sayings (c : Choices) : c.sayings.foldl Saying.put {} = c.readBack := by
  rw [sayings, foldl_sayings_eq c (Nat.zero_le _)]
  simp [subjects, Scope.flags, Flag.special, Flag.common, addAbout, readBack]

/-- All choices can be said to the program, and to its commands those that are made by a license and
by what every part of the command line takes. -/
theorem fits_sayings (hscope : scope = .program ∨ c =
      { license := c.license, templates := c.templates, color := c.color, verbosity := c.verbosity })
    (hlicense : ∀ v ∈ c.license, (Saying.value .license v).Fits scope)
    (houtput : c.output ≠ some []) (htemplates : c.templates ≠ some []) :
    ∀ x ∈ c.sayings, x.Fits scope := by
  intro x hx
  cases x with
  | value slot v =>
    have hv := value_mem_sayings.1 hx
    cases slot with
    | license => exact hlicense v hv
    | templates => exact fun hnil => htemplates (hnil ▸ hv)
    | color =>
      obtain ⟨k, -, rfl⟩ := Option.map_eq_some_iff.1 hv
      exact Option.isSome_iff_exists.2 ⟨k, ColorChoice.ofName?_name k⟩
    | holder | year =>
      refine hscope.resolve_right fun hc => ?_
      rw [hc] at hv
      cases hv
    | output =>
      refine ⟨hscope.resolve_right fun hc => ?_, fun hnil => houtput (hnil ▸ hv)⟩
      rw [hc] at hv
      cases hv
  | switch switch =>
    have hs := switch_mem_sayings.1 hx
    cases switch with
    | verbose => trivial
    | help | version => exact absurd rfl hs
    | toStdout | force | noPrompt =>
      refine hscope.resolve_right fun hc => ?_
      rw [hc] at hs
      exact absurd rfl hs

theorem isValid_sayings : (∀ x ∈ c.sayings, x.IsValid) ↔
    ∀ y ∈ c.year, ∃ year, Year.validate y = .ok year := by
  constructor
  · intro h y hy
    exact h (.value .year y) (value_mem_sayings.2 hy)
  · intro h x hx
    cases x with
    | value slot v =>
      cases slot with
      | year => exact h v (value_mem_sayings.1 hx)
      | _ => trivial
    | switch switch => trivial

end Choices

/-! ### Reading all of it -/

section

variable {c outer : Choices} {scope : Scope} {words before after : List Text}
  {environment : Option Text} {id : Text}

/-- From the start of a part of the command line, the words come to some choices. -/
def Scan.Takes (scope : Scope) (words : List Text) (c : Choices) : Prop :=
  ∃ s : Scan, s.Holds c ∧ ∀ rest, Scan.run scope false {} (words ++ rest) = s.run scope false rest

/-- In every order, the words for some choices are taken for what they say, or the year is none. -/
theorem Scan.run_words (hp : words.Perm c.words) (hf : ∀ x ∈ c.sayings, x.Fits scope) :
    ((∀ y ∈ c.year, ∃ year, Year.validate y = .ok year) → Scan.Takes scope words c.readBack) ∧
      (¬(∀ y ∈ c.year, ∃ year, Year.validate y = .ok year) → ∀ rest,
        Scan.run scope false {} (words ++ rest) = .error (.refused .valueValidation)) := by
  rw [Choices.words_eq] at hp
  obtain ⟨xs, rfl, hxs⟩ := (congrFun₂ (List.eq_map_comp_perm Saying.word) words c.sayings).mpr hp
  -- the words in another order are the words of the sayings in another order
  have hd : xs.Pairwise Saying.Apart := c.sayings_apart.perm hxs.symm Saying.Apart.symm
  obtain ⟨hok, herror⟩ := run_sayings (Scan.holds_choices {})
    (fun x hx => hf x (hxs.subset hx)) (fun x _ => Choices.isSaid_empty x.subject) hd
  rw [Saying.foldl_put_eq_of_perm hxs c.sayings_apart, Choices.foldl_sayings] at hok
  rw [← Choices.isValid_sayings]
  have hvalid : (∀ x ∈ c.sayings, x.IsValid) ↔ ∀ x ∈ xs, x.IsValid := by
    simp only [hxs.mem_iff]
  rw [hvalid]
  refine ⟨hok, fun h => herror ?_⟩
  simpa using h

theorem Scan.Takes.run (h : Scan.Takes scope words c) :
    ∃ s : Scan, s.Holds c ∧ Scan.run scope false {} words = .ok (s, none) := by
  obtain ⟨s, hs, hrun⟩ := h
  refine ⟨s, hs, ?_⟩
  have hnil := hrun []
  rwa [List.append_nil] at hnil

/-- A command ends the words of the program itself. -/
theorem Scan.run_command {s : Scan} {word : CommandWord} (hs : s.awaits = false)
    (htopic : word.topic = .scope scope) (rest : List Text) :
    s.run .program false (word.word :: rest) = .ok (s, some (scope, rest)) := by
  have hat : s.commandAt .program word.word = some word := by
    simp only [commandAt, hs]
    cases word <;> rfl
  rw [Scan.run, if_neg Bool.false_ne_true, hat]
  cases word with
  | help => cases htopic
  | list | info => cases htopic; rfl

/-- In every order, what every part of the command line takes is taken by each. -/
theorem Scan.takes_common {license templates : Option Text} {color : Option ColorChoice} {n : Nat}
    (hlicense : ∀ v ∈ license, (Saying.value .license v).Fits scope)
    (htemplates : templates ≠ some [])
    (hp : words.Perm (Choices.words { license, templates, color, verbosity := n })) :
    Scan.Takes scope words { license, templates, color, verbosity := min n 255 } :=
  (Scan.run_words hp (Choices.fits_sayings (.inr rfl) hlicense (by simp) htemplates)).1 (by simp)

theorem Choices.withEnvironment_ok (henv : environment ≠ some []) (c : Choices) :
    c.withEnvironment environment = .ok (c.templates <|> environment) := by
  unfold Choices.withEnvironment
  split
  next h => simp [h]
  next h => simp [h]
  next folder h =>
    have hne : folder ≠ [] := fun hnil => henv (hnil ▸ rfl)
    simp [h, Choices.path, hne]

/-- Words that are read to the end ask for a license to be filled in. -/
theorem Invocation.parse_of_takes (hw : Scan.Takes .program words c) (hl : c.license = some id)
    (hconflict : c.conflict = false) (henv : environment ≠ some []) :
    Invocation.parse words environment = .ok {
      command := .generate (c.generation id)
      templates := c.templates <|> environment
      color := c.color.getD .auto
      verbosity := c.verbosity } := by
  obtain ⟨s, hs, hrun⟩ := hw.run
  have hgenerate := toGenerate_eq hl hconflict (c.withEnvironment_ok henv)
  exact bind_eq_ok.2 ⟨(s, none), hrun, bind_eq_ok.2 ⟨_, hs, hgenerate⟩⟩

/-- Words with a command between them are read as what is said before it and after it. -/
theorem Invocation.parse_of_takes_command {command : Command} (word : CommandWord)
    (htopic : word.topic = .scope scope) (hbefore : Scan.Takes .program before outer)
    (hread : Command.read scope after environment = .ok (c, command))
    (hconflict : outer.conflict = false) (henv : environment ≠ some []) :
    Invocation.parse (before ++ word.word :: after) environment = .ok {
      command
      templates := c.templates <|> outer.templates <|> environment
      color := (c.color <|> outer.color).getD .auto
      verbosity := if c.verbosity = 0 then outer.verbosity else c.verbosity } := by
  obtain ⟨s, hs, hrun⟩ := hbefore
  have hstop := (hrun _).trans (Scan.run_command hs.not_awaits htopic after)
  have hcommand : c.toCommand outer environment command = .ok {
      command
      templates := c.templates <|> outer.templates <|> environment
      color := (c.color <|> outer.color).getD .auto
      verbosity := if c.verbosity = 0 then outer.verbosity else c.verbosity } := by
    simp [Choices.toCommand, outer.withEnvironment_ok henv, hconflict]
  exact bind_eq_ok.2 ⟨_, hstop, bind_eq_ok.2 ⟨_, hread, bind_eq_ok.2 ⟨_, hs, hcommand⟩⟩⟩

end

/-- **A command line in any order is read back as what it was written for.** What is said about a
license to be filled in comes back in every order of the words, unless the year is none: then the
line is refused. A folder with templates, a colour setting and requests for more detail can be given
on both sides of a command, and count more behind it. -/
theorem Invocation.parse_any_order (environment : Option Text) (henv : environment ≠ some []) :
    (∀ (c : Choices) (id : Text) (words : List Text), c.license = some id →
      id.head? ≠ some '-' → CommandWord.ofWord? id = none → c.output ≠ some [] →
      c.templates ≠ some [] → c.conflict = false → words.Perm c.words →
      ((∀ y ∈ c.year, ∃ year, Year.validate y = .ok year) →
        Invocation.parse words environment = .ok {
          command := .generate {
            license := id
            filling := { holder := c.holder, year := c.year.map Text.trim }
            output := c.output.getD "LICENSE".toList
            toStdout := c.toStdout
            force := c.force
            noPrompt := c.noPrompt }
          templates := c.templates <|> environment
          color := c.color.getD .auto
          verbosity := min c.verbosity 255 }) ∧
      (¬(∀ y ∈ c.year, ∃ year, Year.validate y = .ok year) →
        Invocation.parse words environment = .error (.refused .valueValidation))) ∧
    ∀ (t t' : Option Text) (k k' : Option ColorChoice) (n n' : Nat) (before : List Text),
      t ≠ some [] → t' ≠ some [] →
      before.Perm (Choices.words { templates := t, color := k, verbosity := n }) →
      (∀ after : List Text,
        after.Perm (Choices.words { templates := t', color := k', verbosity := n' }) →
        Invocation.parse (before ++ "list".toList :: after) environment = .ok {
          command := .list
          templates := t' <|> t <|> environment
          color := (k' <|> k).getD .auto
          verbosity := if n' = 0 then min n 255 else min n' 255 }) ∧
      ∀ (id : Text) (after : List Text), id.head? ≠ some '-' →
        after.Perm (Choices.words
          { license := some id, templates := t', color := k', verbosity := n' }) →
        Invocation.parse (before ++ "info".toList :: after) environment = .ok {
          command := .info id
          templates := t' <|> t <|> environment
          color := (k' <|> k).getD .auto
          verbosity := if n' = 0 then min n 255 else min n' 255 } := by
  refine ⟨fun c id words hl hdash hcmd houtput htemplates hconflict hp => ?_,
    fun t t' k k' n n' before ht ht' hbefore => ?_⟩
  · have hlicense : ∀ v ∈ c.license, (Saying.value .license v).Fits .program := by
      intro v hv
      obtain rfl : id = v := Option.some.inj (hl.symm.trans hv)
      exact ⟨rfl, hdash, fun _ => hcmd⟩
    obtain ⟨hok, herror⟩ := Scan.run_words hp
      (Choices.fits_sayings (.inl rfl) hlicense houtput htemplates)
    constructor
    · intro hyear
      exact Invocation.parse_of_takes (hok hyear) hl hconflict henv
    · intro hyear
      have hrun := herror hyear []
      rw [List.append_nil] at hrun
      rw [Invocation.parse, hrun]
      rfl
  · have hcount : (if min n' 255 = 0 then min n 255 else min n' 255) =
        if n' = 0 then min n 255 else min n' 255 := by
      split <;> split <;> omega
    have hbefore : Scan.Takes .program before _ := Scan.takes_common (by simp) ht hbefore
    rw [← hcount]
    constructor
    · intro after hafter
      have htakes : Scan.Takes .list after _ := Scan.takes_common (by simp) ht' hafter
      obtain ⟨s, hs, hrun⟩ := htakes.run
      have hread := read_eq_list (by decide) hrun hs (Choices.withEnvironment_ok henv _)
      exact Invocation.parse_of_takes_command .list rfl hbefore hread rfl henv
    · intro id after hdash hafter
      have hlicense : ∀ v ∈ some id, (Saying.value .license v).Fits .info := by
        rintro v ⟨⟩
        exact ⟨rfl, hdash, fun h => by cases h⟩
      obtain ⟨s, hs, hrun⟩ := (Scan.takes_common hlicense ht' hafter).run
      have hread := read_eq_info hrun hs (Choices.withEnvironment_ok henv _) rfl
      exact Invocation.parse_of_takes_command .info rfl hbefore hread rfl henv

/-- Words around the license, with blanks around the year and a folder from the environment, which
is none of the words; a year that is refused; and words on both sides of a command, of which one
looks like another command and is the license. -/
theorem Invocation.parse_any_order_shuffled :
    Invocation.parse ["-v".toList, "--year= 2024 ".toList, "mit".toList, "--name=-A=B".toList,
        "-v".toList, "--stdout".toList] (some "t".toList) = .ok {
      command := .generate {
        license := "mit".toList
        filling := { holder := some "-A=B".toList, year := some "2024".toList }
        toStdout := true }
      templates := some "t".toList
      verbosity := 2 } ∧
    Invocation.parse ["--year=20x4".toList, "mit".toList] none =
      .error (.refused .valueValidation) ∧
    Invocation.parse ["--color=never".toList, "-v".toList, "list".toList, "--templates=t".toList]
      none = .ok {
        command := .list
        templates := some "t".toList
        color := .never
        verbosity := 1 } ∧
    Invocation.parse ["-v".toList, "info".toList, "--color=always".toList, "list".toList] none =
      .ok { command := .info "list".toList, color := .always, verbosity := 1 } := by
  have hnone : (none : Option Text) ≠ some [] := by simp
  refine ⟨?_, ?_, ?_, ?_⟩
  · refine ((parse_any_order _ (by decide)).1
      { license := some "mit".toList, holder := some "-A=B".toList, year := some " 2024 ".toList,
        toStdout := true, verbosity := 2 } "mit".toList _ rfl (by decide) rfl (by simp) (by simp)
      rfl (by decide)).1 ?_
    rintro _ ⟨⟩
    exact ⟨_, rfl⟩
  · refine ((parse_any_order none hnone).1
      { license := some "mit".toList, year := some "20x4".toList } "mit".toList _ rfl (by decide)
      rfl (by simp) (by simp) rfl (by decide)).2 ?_
    intro h
    obtain ⟨year, hyear⟩ := h _ rfl
    cases hyear
  · exact ((parse_any_order none hnone).2 none (some "t".toList) (some .never) none 1 0
      ["--color=never".toList, "-v".toList] (by simp) (by decide) (by decide)).1 _ (by decide)
  · exact ((parse_any_order none hnone).2 none none none (some .always) 1 0 ["-v".toList]
      (by simp) (by simp) (by decide)).2 "list".toList _ (by decide) (by decide)

end LicenseForge
