import LicenseForge.CommandLine.Parser
import LicenseForge.Proofs.Year

/-!
# How a command line is read

* `Choices.store_values` : what filling a slot does.
* `Scan.Reads` : the words are read to the end, without a command.
* `Scan.reads_value` : a slot that waits for its value takes the next word, which must be a plain
  one.
* `Scan.reads_settings_iff` : flags with their values are stored one after the other.
* `Scan.reads_license_iff` : the first word is the license just if it is plain and no command.
* `Invocation.parse_generate_iff` : when a command line asks for a filled-in license.
-/

namespace LicenseForge

open Steps

/-! ### Steps -/

namespace Choices

variable {c c' : Choices} {slot : Slot} {value : Text}

theorem path_map_eq_ok {f : Text → Choices} (h : (path value).map f = .ok c') : c' = f value := by
  unfold path at h
  split at h
  · cases h
  · exact (Except.ok.inj h).symm

/-- What filling a slot does to the license, the copyright holder and the year. -/
theorem store_values (h : c.store slot value = .ok c') :
    c'.license = (if slot = .license then some value else c.license) ∧
      c'.holder = (if slot = .holder then some value else c.holder) ∧
      c'.year = (if slot = .year then some value.trim else c.year) := by
  cases slot with
  | license => obtain rfl := Except.ok.inj h; exact ⟨rfl, rfl, rfl⟩
  | holder => obtain rfl := Except.ok.inj h; exact ⟨rfl, rfl, rfl⟩
  | year =>
    simp only [store] at h
    split at h
    next y hy =>
      obtain rfl := Except.ok.inj h
      rw [(Year.validate_ok hy).1]
      exact ⟨rfl, rfl, rfl⟩
    next => cases h
  | output => obtain rfl := path_map_eq_ok h; exact ⟨rfl, rfl, rfl⟩
  | templates => obtain rfl := path_map_eq_ok h; exact ⟨rfl, rfl, rfl⟩
  | color =>
    simp only [store] at h
    split at h
    · obtain rfl := Except.ok.inj h
      exact ⟨rfl, rfl, rfl⟩
    · cases h

theorem assign_eq_ok_iff :
    c.assign slot value = .ok c' ↔ c.isSet slot = false ∧ c.store slot value = .ok c' := by
  unfold assign
  split <;> simp_all

/-- A switch leaves what has a value as it is. -/
theorem throwSwitch_values {scope : Scope} {switch : Switch}
    (h : c.throwSwitch scope switch = .ok c') :
    c'.license = c.license ∧ c'.holder = c.holder ∧ c'.year = c.year := by
  cases switch <;> simp only [throwSwitch] at h <;> (try split at h) <;> cases h <;>
    exact ⟨rfl, rfl, rfl⟩

end Choices

namespace Scan

variable {s s' : Scan} {scope : Scope} {slot : Slot} {value word : Text}

theorem assign_eq_ok_iff : s.assign slot value = .ok s' ↔
    ∃ c, s.choices.assign slot value = .ok c ∧ s' = { choices := c } := by
  unfold assign
  split
  next c hc => simp [hc, eq_comm]
  next e he => simp [he]

/-- What has been read is settled: nothing is open any more. -/
theorem settle_eq_ok_iff : s.settle = .ok s' ↔
    (s.pending = none ∧ s' = s) ∨
      ∃ slot value, s.pending = some (slot, some value) ∧ s.assign slot value = .ok s' := by
  unfold settle
  split <;> simp_all [eq_comm]

/-! ### Words that are read to the end -/

/-- The words are read to the end, without a command, and what they say is settled. -/
def Reads (s : Scan) (words : List Text) (c : Choices) : Prop :=
  ∃ s' t, s.run .program false words = .ok (s', none) ∧ s'.settle = .ok t ∧ t.choices = c

section

variable {words : List Text} {c : Choices} {v : Text}

theorem reads_nil : s.Reads [] c ↔ ∃ t, s.settle = .ok t ∧ t.choices = c := by
  simp [Reads, run]

/-- A slot that waits for its value cannot be settled, whatever is done then. -/
theorem settle_bind_ne_ok {α : Type} {f : Scan → Except Stop α} {a : α}
    (hp : s.pending = some (slot, none)) : s.settle >>= f ≠ .ok a := by
  have hsettle : s.settle = .error (.refused .invalidValue) := by simp [settle, hp]
  rw [hsettle]
  intro h
  cases h

theorem begin_ne_ok {slot' : Slot} {value : Option Text} (hp : s.pending = some (slot, none)) :
    s.begin slot' value ≠ .ok s' :=
  settle_bind_ne_ok hp

theorem throwSwitch_ne_ok {switch : Switch} (hp : s.pending = some (slot, none)) :
    s.throwSwitch scope switch ≠ .ok s' :=
  settle_bind_ne_ok hp

theorem long_ne_ok {name : Text} {value : Option Text} (hp : s.pending = some (slot, none)) :
    s.long scope name value ≠ .ok s' := by
  unfold long
  split
  · simp
  · exact begin_ne_ok hp
  · split
    · simp
    · exact throwSwitch_ne_ok hp

theorem short_ne_ok {letters : Text} (hp : s.pending = some (slot, none)) (hne : letters ≠ []) :
    s.short scope letters ≠ .ok s' := by
  unfold short
  split
  · exact absurd rfl hne
  · split
    · simp
    · intro h
      obtain ⟨t, ht, -⟩ := bind_eq_ok.1 h
      exact throwSwitch_ne_ok hp ht
    · split <;> exact begin_ne_ok hp

theorem positional_ne_ok {escaped : Bool} (hp : s.pending = some (slot, none)) :
    s.positional scope escaped word ≠ .ok s' := by
  unfold positional
  split
  · exact settle_bind_ne_ok hp
  · simp

theorem ne_nil_of_ofText_eq_short {letters : Text} (h : Word.ofText word = .short letters) :
    letters ≠ [] := by
  unfold Word.ofText at h
  split at h
  · cases h
  · split at h <;> cases h
  · cases h
    exact List.cons_ne_nil _ _
  · cases h

theorem commandAt_eq_none (h : CommandWord.ofWord? word = none) : s.commandAt scope word = none := by
  simp [commandAt, h]

/-- A slot that waits for its value takes the next word, which must be a plain one. -/
theorem reads_value (hp : s.pending = some (slot, none)) : s.Reads (v :: words) c ↔
    Word.ofText v = .plain ∧ Reads { s with pending := some (slot, some v) } words c := by
  have hcmd : s.commandAt .program v = none := by simp [commandAt, awaits, hp]
  unfold Reads
  simp only [run, hcmd, Bool.false_eq_true, if_false]
  split
  next hw =>
    -- behind two dashes a word stands by itself, so the slot is left without a value
    refine iff_of_false ?_ fun h => by simp [hw] at h
    rintro ⟨s', t, h, ht, -⟩
    cases words with
    | nil =>
      obtain rfl : s = s' := by simpa [run] using h
      simp [settle, hp] at ht
    | cons word words =>
      simp only [run, if_true, bind_eq_ok] at h
      obtain ⟨_, h, -⟩ := h
      exact absurd h (positional_ne_ok hp)
  next hw =>
    refine iff_of_false ?_ fun h => by simp [hw] at h
    rintro ⟨s', t, h, -⟩
    obtain ⟨_, h, -⟩ := bind_eq_ok.1 h
    exact absurd h (long_ne_ok hp)
  next hw =>
    refine iff_of_false ?_ fun h => by simp [hw] at h
    rintro ⟨s', t, h, -⟩
    obtain ⟨_, h, -⟩ := bind_eq_ok.1 h
    exact absurd h (short_ne_ok hp (ne_nil_of_ofText_eq_short hw))
  next hw =>
    rw [and_iff_right hw]
    simp only [plain, hp]
    rfl

end

end Scan

/-! ### Flags with their values -/

/-- The word that names what takes a value. -/
def Slot.flag (slot : Slot) : Text := "--".toList ++ ((Flag.slot slot).long?.getD [])

/-- What takes a value, with the value. -/
abbrev Setting := Slot × Text

namespace Setting

/-- The words of a setting. -/
def words (p : Setting) : List Text := [p.1.flag, p.2]

/-- Stores settings one after the other, each where nothing has been stored yet. -/
def store (c : Choices) : List Setting → Except UsageError Choices
  | [] => .ok c
  | p :: ps => do store (← c.assign p.1 p.2) ps

end Setting

namespace Scan

variable {s s' : Scan} {slot : Slot} {words : List Text} {c : Choices} {v id : Text}

theorem ofText_flag (h : slot ≠ .license) : ∃ name, Word.ofText slot.flag = .long name none ∧
    Scope.program.long? name = some (.slot slot) ∧ CommandWord.ofWord? slot.flag = none := by
  cases slot with
  | license => exact absurd rfl h
  | _ => exact ⟨_, rfl, rfl, rfl⟩

/-- A setting settles what was read before it. -/
theorem reads_setting_iff {p : Setting} (hp : p.1 ≠ .license) : s.Reads (p.words ++ words) c ↔
    Word.ofText p.2 = .plain ∧ ∃ t, s.settle = .ok t ∧
      Reads { t with pending := some (p.1, some p.2) } words c := by
  obtain ⟨slot, v⟩ := p
  obtain ⟨name, hw, hlong, hcmd⟩ := ofText_flag hp
  have hstep : s.Reads (slot.flag :: v :: words) c ↔ ∃ t, s.settle = .ok t ∧
      Reads { t with pending := some (slot, none) } (v :: words) c := by
    unfold Reads
    rw [run]
    simp only [commandAt_eq_none hcmd, hw, long, hlong, begin, Bool.false_eq_true, if_false]
    cases s.settle with
    | error e => simp [bind, Except.bind]
    | ok t => simp [bind, Except.bind, pure, Except.pure]
  rw [Setting.words, List.cons_append, List.singleton_append, hstep]
  constructor
  · rintro ⟨t, ht, h⟩
    obtain ⟨hv, h⟩ := (reads_value rfl).1 h
    exact ⟨hv, t, ht, h⟩
  · rintro ⟨hv, t, ht, h⟩
    exact ⟨t, ht, (reads_value rfl).2 ⟨hv, h⟩⟩

/-- Flags with their values are stored one after the other. -/
theorem reads_settings_iff {ps : List Setting} (hps : ∀ p ∈ ps, p.1 ≠ .license) :
    s.Reads (ps.flatMap Setting.words) c ↔ (∀ p ∈ ps, Word.ofText p.2 = .plain) ∧
      ∃ t, s.settle = .ok t ∧ Setting.store t.choices ps = .ok c := by
  induction ps generalizing s with
  | nil => simp [reads_nil, Setting.store]
  | cons p ps ih =>
    simp only [List.mem_cons, forall_eq_or_imp] at hps
    rw [List.flatMap_cons, reads_setting_iff hps.1]
    simp only [ih hps.2, List.mem_cons, forall_eq_or_imp, Setting.store, bind_eq_ok, settle,
      assign_eq_ok_iff]
    constructor
    · rintro ⟨hp, t, ht, hps, -, ⟨c', ha, rfl⟩, hc⟩
      exact ⟨⟨hp, hps⟩, t, ht, c', ha, hc⟩
    · rintro ⟨⟨hp, hps⟩, t, ht, c', ha, hc⟩
      exact ⟨hp, t, ht, hps, _, ⟨c', ha, rfl⟩, hc⟩

/-! ### The license -/

theorem license_store {value : Text} {c' : Choices} (hslot : slot ≠ .license)
    (h : c.store slot value = .ok c') : c'.license = c.license :=
  (Choices.store_values h).1.trans (if_neg hslot)

theorem license_storeSettings {ps : List Setting} {c' : Choices} (hps : ∀ p ∈ ps, p.1 ≠ .license)
    (h : Setting.store c ps = .ok c') : c'.license = c.license := by
  induction ps generalizing c with
  | nil => rw [Except.ok.inj h]
  | cons p ps ih =>
    simp only [List.mem_cons, forall_eq_or_imp] at hps
    obtain ⟨c₁, ha, h⟩ := bind_eq_ok.1 h
    rw [ih hps.2 h, license_store hps.1 (Choices.assign_eq_ok_iff.1 ha).2]

/-- No license has been read. -/
structure Unlicensed (s : Scan) : Prop where
  license : s.choices.license = none
  pending : ∀ p ∈ s.pending, p.1 ≠ .license

theorem unlicensed_empty : Unlicensed {} := ⟨rfl, by simp⟩

theorem Unlicensed.assign {value : Text} (hs : s.Unlicensed) (hslot : slot ≠ .license)
    (h : s.assign slot value = .ok s') : s'.Unlicensed := by
  obtain ⟨c, ha, rfl⟩ := assign_eq_ok_iff.1 h
  have hc := license_store hslot (Choices.assign_eq_ok_iff.1 ha).2
  exact ⟨hc.trans hs.license, by simp⟩

theorem Unlicensed.settle (hs : s.Unlicensed) (h : s.settle = .ok s') : s'.Unlicensed := by
  rcases settle_eq_ok_iff.1 h with ⟨-, rfl⟩ | ⟨slot, value, hp, ha⟩
  · exact hs
  · exact hs.assign (hs.pending _ hp) ha

theorem Unlicensed.throwSwitch {scope : Scope} {switch : Switch} (hs : s.Unlicensed)
    (h : s.throwSwitch scope switch = .ok s') : s'.Unlicensed := by
  obtain ⟨t, ht, h⟩ := bind_eq_ok.1 h
  obtain ⟨c, hc, h⟩ := bind_eq_ok.1 h
  obtain rfl := pure_eq_ok.1 h
  exact ⟨(Choices.throwSwitch_values hc).1.trans (hs.settle ht).license, by simp⟩

theorem Unlicensed.begin {value : Option Text} (hs : s.Unlicensed) (hslot : slot ≠ .license)
    (h : s.begin slot value = .ok s') : s'.Unlicensed := by
  obtain ⟨t, ht, h⟩ := bind_eq_ok.1 h
  cases value with
  | some value => exact (hs.settle ht).assign hslot h
  | none =>
    obtain rfl := pure_eq_ok.1 h
    refine ⟨(hs.settle ht).license, fun p hp => ?_⟩
    obtain rfl := Option.some.inj hp
    exact hslot

theorem ne_license_of_long? {scope : Scope} {name : Text}
    (h : scope.long? name = some (.slot slot)) : slot ≠ .license := by
  rintro rfl
  have hname := List.find?_some h
  simp [Flag.long?] at hname

theorem ne_license_of_short? {scope : Scope} {letter : Char}
    (h : scope.short? letter = some (.slot slot)) : slot ≠ .license := by
  rintro rfl
  have hletter := List.find?_some h
  simp [Flag.short?] at hletter

theorem Unlicensed.long {scope : Scope} {name : Text} {value : Option Text} (hs : s.Unlicensed)
    (h : s.long scope name value = .ok s') : s'.Unlicensed := by
  unfold Scan.long at h
  split at h
  · cases h
  next hslot => exact hs.begin (ne_license_of_long? hslot) h
  · split at h
    · cases h
    · exact hs.throwSwitch h

theorem Unlicensed.short {scope : Scope} {letters : Text} (hs : s.Unlicensed)
    (h : s.short scope letters = .ok s') : s'.Unlicensed := by
  induction letters generalizing s with
  | nil =>
    obtain rfl := Except.ok.inj h
    exact hs
  | cons letter rest ih =>
    unfold Scan.short at h
    split at h
    · cases h
    · obtain ⟨t, ht, h⟩ := bind_eq_ok.1 h
      exact ih (hs.throwSwitch ht) h
    next hslot => split at h <;> exact hs.begin (ne_license_of_short? hslot) h

/-- Flags with their values say nothing of the license. -/
theorem Unlicensed.reads {ps : List Setting} (hs : s.Unlicensed) (hps : ∀ p ∈ ps, p.1 ≠ .license)
    (h : s.Reads (ps.flatMap Setting.words) c) : c.license = none := by
  obtain ⟨-, t, ht, hc⟩ := (reads_settings_iff hps).1 h
  rw [license_storeSettings hps hc, (hs.settle ht).license]

/-- Behind two dashes at most one word can stand. -/
theorem not_escaped_settings {p : Setting} {ps : List Setting}
    {behind : Option (Scope × List Text)} :
    s.run .program true ((p :: ps).flatMap Setting.words) ≠ .ok (s', behind) := by
  obtain ⟨slot, v⟩ := p
  intro h
  simp only [List.flatMap_cons, Setting.words, List.cons_append, run, if_true] at h
  obtain ⟨s₁, h₁, h⟩ := bind_eq_ok.1 h
  obtain ⟨s₂, h₂, -⟩ := bind_eq_ok.1 h
  have hhas : s₁.hasLicense := by
    unfold positional at h₁
    split at h₁
    · obtain ⟨t, -, h₁⟩ := bind_eq_ok.1 h₁
      obtain rfl := pure_eq_ok.1 h₁
      simp [hasLicense]
    · cases h₁
  simp [positional, hhas] at h₂

theorem not_reads_command {command : CommandWord} (hcmd : CommandWord.ofWord? id = some command) :
    ¬Reads {} (id :: words) c := by
  have hat : commandAt {} .program id = some command := by simp [commandAt, awaits, hcmd]
  rintro ⟨s', t, h, -⟩
  simp only [run, hat, Bool.false_eq_true, if_false] at h
  cases command with
  | list => simp at h
  | info => simp at h
  | help =>
    obtain ⟨topic, -, h⟩ := bind_eq_ok.1 h
    exact absurd h throw_ne_ok

theorem reads_plain_iff (hcmd : CommandWord.ofWord? id = none) (hw : Word.ofText id = .plain) :
    Reads {} (id :: words) c ↔ Reads { pending := some (.license, some id) } words c := by
  unfold Reads
  rw [run]
  simp only [commandAt_eq_none hcmd, hw, Bool.false_eq_true, if_false]
  rfl

/-- A first word that is not plain is not the license, and neither is anything behind it. -/
theorem license_of_reads_of_ne_plain {ps : List Setting} (hps : ∀ p ∈ ps, p.1 ≠ .license)
    (hcmd : CommandWord.ofWord? id = none) (hw : Word.ofText id ≠ .plain)
    (h : Reads {} (id :: ps.flatMap Setting.words) c) : c.license = none := by
  obtain ⟨s', t, h, ht, hc⟩ := h
  simp only [run, commandAt_eq_none hcmd, Bool.false_eq_true, if_false] at h
  split at h
  next =>
    cases ps with
    | nil =>
      obtain rfl : {} = s' := by simpa [run] using h
      obtain rfl : {} = t := by simpa [settle] using ht
      rw [← hc]
    | cons p ps => exact absurd h not_escaped_settings
  next =>
    obtain ⟨s₁, h₁, h⟩ := bind_eq_ok.1 h
    exact (unlicensed_empty.long h₁).reads hps ⟨s', t, h, ht, hc⟩
  next =>
    obtain ⟨s₁, h₁, h⟩ := bind_eq_ok.1 h
    exact (unlicensed_empty.short h₁).reads hps ⟨s', t, h, ht, hc⟩
  next hplain => exact absurd hplain hw

/-- With settings behind it, the first word is the license just if it is no command and, like every
value, a plain word. -/
theorem reads_license_iff {ps : List Setting} (hps : ∀ p ∈ ps, p.1 ≠ .license) :
    Reads {} (id :: ps.flatMap Setting.words) c ∧ c.license = some id ↔
      CommandWord.ofWord? id = none ∧ Word.ofText id = .plain ∧
        (∀ p ∈ ps, Word.ofText p.2 = .plain) ∧
        Setting.store { license := some id } ps = .ok c := by
  cases hcmd : CommandWord.ofWord? id with
  | some command => exact iff_of_false (fun h => not_reads_command hcmd h.1) (by simp)
  | none =>
    rw [and_iff_right rfl]
    by_cases hw : Word.ofText id = .plain
    · have hsettle : settle { pending := some (.license, some id) } =
          .ok { choices := { license := some id } } := rfl
      rw [reads_plain_iff hcmd hw, reads_settings_iff hps, and_iff_right hw]
      simp only [hsettle, Except.ok.injEq, exists_eq_left']
      exact ⟨fun h => h.1, fun h => ⟨h, license_storeSettings hps h.2⟩⟩
    · refine iff_of_false (fun ⟨h, hlicense⟩ => ?_) fun h => hw h.1
      rw [license_of_reads_of_ne_plain hps hcmd hw h] at hlicense
      cases hlicense

end Scan

/-! ### The whole command line -/

section

variable {words : List Text} {environment : Option Text} {c : Choices} {g : Generation}

theorem withEnvironment_eq_ok_iff : (∃ folder, c.withEnvironment environment = .ok folder) ↔
    (c.templates = none → environment ≠ some []) := by
  cases ht : c.templates with
  | some folder => simp [Choices.withEnvironment, ht]
  | none =>
    match environment with
    | none => simp [Choices.withEnvironment, ht]
    | some [] => simp [Choices.withEnvironment, ht, Choices.path]
    | some (a :: t) => simp [Choices.withEnvironment, ht, Choices.path]

theorem toGenerate_eq {id : Text} {folder : Option Text} (hl : c.license = some id)
    (hconf : c.conflict = false) (hf : c.withEnvironment environment = .ok folder) :
    c.toGenerate environment = .ok {
      command := .generate (c.generation id)
      templates := folder
      color := c.color.getD .auto
      verbosity := c.verbosity } := by
  have hne : c ≠ {} := by
    rintro rfl
    cases hl
  simp [Choices.toGenerate, hf, hne, hconf, hl]

theorem toGenerate_iff :
    (∃ i, c.toGenerate environment = .ok i ∧ i.command = .generate g) ↔
      (∃ id, c.license = some id ∧ g = c.generation id) ∧ c.conflict = false ∧
        ∃ folder, c.withEnvironment environment = .ok folder := by
  constructor
  · rintro ⟨i, h, hg⟩
    obtain ⟨folder, hf, h⟩ := bind_eq_ok.1 h
    obtain ⟨-, h⟩ := guard_eq_ok.1 h
    obtain ⟨hconf, h⟩ := guard_eq_ok.1 h
    split at h
    · exact absurd h throw_ne_ok
    next id hl =>
      obtain rfl := pure_eq_ok.1 h
      exact ⟨⟨id, hl, (Command.generate.inj hg).symm⟩, by simpa using hconf, folder, hf⟩
  · rintro ⟨⟨id, hl, rfl⟩, hconf, folder, hf⟩
    have hne : c ≠ {} := by
      rintro rfl
      cases hl
    simp [Choices.toGenerate, hf, hne, hconf, hl]

theorem read_eq_list {scope : Scope} {s t : Scan} {behind : Option (Scope × List Text)}
    {folder : Option Text} (hscope : scope ≠ .info)
    (hs : Scan.run scope false {} words = .ok (s, behind)) (ht : s.settle = .ok t)
    (hf : t.choices.withEnvironment environment = .ok folder) :
    Command.read scope words environment = .ok (t.choices, .list) := by
  refine bind_eq_ok.2 ⟨_, hs, bind_eq_ok.2 ⟨_, ht, bind_eq_ok.2 ⟨_, hf, ?_⟩⟩⟩
  cases scope with
  | program | list => rfl
  | info => exact absurd rfl hscope

theorem read_eq_info {s t : Scan} {behind : Option (Scope × List Text)} {folder : Option Text}
    {id : Text} (hs : Scan.run .info false {} words = .ok (s, behind)) (ht : s.settle = .ok t)
    (hf : t.choices.withEnvironment environment = .ok folder) (hl : t.choices.license = some id) :
    Command.read .info words environment = .ok (t.choices, .info id) := by
  refine bind_eq_ok.2 ⟨_, hs, bind_eq_ok.2 ⟨_, ht, bind_eq_ok.2 ⟨_, hf, ?_⟩⟩⟩
  simp only [hl]
  rfl

/-- What is read behind a command asks for no license to be filled in. -/
theorem command_ne_generate {scope : Scope} {outer : Choices} {command : Command} {i : Invocation}
    (hread : Command.read scope words environment = .ok (c, command))
    (h : c.toCommand outer environment command = .ok i) : i.command ≠ .generate g := by
  obtain ⟨folder, -, h⟩ := bind_eq_ok.1 h
  obtain ⟨-, h⟩ := guard_eq_ok.1 h
  obtain rfl := pure_eq_ok.1 h
  obtain ⟨⟨s, behind⟩, -, hread⟩ := bind_eq_ok.1 hread
  obtain ⟨t, -, hread⟩ := bind_eq_ok.1 hread
  obtain ⟨_, -, hread⟩ := bind_eq_ok.1 hread
  split at hread
  · cases hread
    simp
  · cases hread
  · cases hread
    simp

/-- A command line asks for a filled-in license just if its words are read to the end and say which
license, and nothing that is said excludes another. -/
theorem Invocation.parse_generate_iff :
    (∃ i, Invocation.parse words environment = .ok i ∧ i.command = .generate g) ↔
      ∃ c, Scan.Reads {} words c ∧ (∃ id, c.license = some id ∧ g = c.generation id) ∧
        c.conflict = false ∧ (c.templates = none → environment ≠ some []) := by
  constructor
  · rintro ⟨i, h, hg⟩
    obtain ⟨⟨s, behind⟩, hrun, h⟩ := bind_eq_ok.1 h
    cases behind with
    | none =>
      obtain ⟨t, ht, h⟩ := bind_eq_ok.1 h
      obtain ⟨hl, hconf, hfolder⟩ := toGenerate_iff.1 ⟨i, h, hg⟩
      exact ⟨t.choices, ⟨s, t, hrun, ht, rfl⟩, hl, hconf, withEnvironment_eq_ok_iff.1 hfolder⟩
    | some behind =>
      obtain ⟨⟨c, command⟩, hread, h⟩ := bind_eq_ok.1 h
      obtain ⟨t, -, h⟩ := bind_eq_ok.1 h
      exact absurd hg (command_ne_generate hread h)
  · rintro ⟨c, ⟨s, t, hrun, ht, rfl⟩, hl, hconf, hfolder⟩
    obtain ⟨i, h, hg⟩ := toGenerate_iff.2 ⟨hl, hconf, withEnvironment_eq_ok_iff.2 hfolder⟩
    refine ⟨i, ?_, hg⟩
    exact bind_eq_ok.2 ⟨(s, none), hrun, bind_eq_ok.2 ⟨t, ht, h⟩⟩

end

end LicenseForge
