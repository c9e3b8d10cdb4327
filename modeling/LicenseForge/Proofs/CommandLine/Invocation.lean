import LicenseForge.Dialog.Filling
import LicenseForge.License.Template
import LicenseForge.Proofs.CommandLine.Count
import LicenseForge.Proofs.CommandLine.Shell
import Mathlib.Data.List.Forall2

/-!
# The command that is meant to fill a license again

* `License.Restores` : the command, split into words by a shell, asks for the license with the same
  filling.
* `License.HasWord` : the id of the license is a word of its own.
* `License.words?_invocation` : the words of the command.
* `License.restores_iff` : the command does what it is meant to just if the id is a word of its own
  and the copyright holder can stand between double quotes as it is.
-/

namespace LicenseForge

open Shell

/-! ### The words of the command -/

/-- What is filled in, as flags with their values. -/
def Filling.settings (f : Filling) : List Setting :=
  f.holder.toList.map (.holder, ·) ++ f.year.toList.map (.year, ·)

/-- How a setting is written: the copyright holder stands between double quotes. -/
def Setting.written (p : Setting) : List Text :=
  [p.1.flag, if p.1 = .holder then '"' :: p.2 ++ ['"'] else p.2]

namespace License

variable {l : License} {f : Filling} {environment : Option Text} {ws : List Text} {c : Choices}

theorem invocation_eq (l : License) (f : Filling) : l.invocation f =
    programName ++ spaced (l.id :: f.settings.flatMap Setting.written) := by
  obtain ⟨holder, year⟩ := f
  cases holder <;> cases year <;>
    simp [invocation, spaced, Filling.settings, Setting.written, Slot.flag, Flag.long?]

theorem words?_written {p : Setting} (h : p.1 = .holder ∧ Quotable p.2 ∨
      p.1 = .year ∧ Year.IsNumeral p.2) :
    List.Forall₂ (fun t ws => words? t = some ws) p.written (p.words.map ([·])) := by
  obtain ⟨slot, v⟩ := p
  rcases h with ⟨rfl, hv⟩ | ⟨rfl, hv⟩
  · exact .cons rfl (.cons (words?_quoted hv) .nil)
  · have hs : ' ' ∉ v := fun h => by simpa using hv.2 _ h
    have hq : '"' ∉ v := fun h => by simpa using hv.2 _ h
    exact .cons rfl (.cons (words?_bare hs hq hv.1) .nil)

/-- A command whose id has no open quotes and whose values are quotable has their words. -/
theorem words?_invocation (hid : words? l.id = some ws) (hh : ∀ h ∈ f.holder, Quotable h)
    (hy : ∀ y ∈ f.year, Year.IsNumeral y) : words? (l.invocation f) =
      some (programName :: (ws ++ f.settings.flatMap Setting.words)) := by
  have hparts : List.Forall₂ (fun t ws => words? t = some ws)
      (f.settings.flatMap Setting.written) ((f.settings.flatMap Setting.words).map ([·])) := by
    have hsettings : ∀ p ∈ f.settings,
        p.1 = .holder ∧ Quotable p.2 ∨ p.1 = .year ∧ Year.IsNumeral p.2 := by
      simpa [Filling.settings, or_imp, forall_and] using ⟨hh, hy⟩
    generalize f.settings = ps at hsettings
    induction ps with
    | nil => exact .nil
    | cons p ps ih =>
      simp only [List.mem_cons, forall_eq_or_imp] at hsettings
      rw [List.flatMap_cons, List.flatMap_cons, List.map_append]
      exact List.rel_append (words?_written hsettings.1) (ih hsettings.2)
  have hname : words? programName = some [programName] := rfl
  rw [invocation_eq, words?_spaced hname (.cons hid hparts), List.flatten_cons, ← List.flatMap_def,
    List.flatMap_singleton']
  rfl

/-! ### What is read from it -/

theorem ofText_eq_plain {t : Text} (h : t.head? ≠ some '-') : Word.ofText t = .plain := by
  unfold Word.ofText
  split <;> first | rfl | simp at h

/-- A year starts with a digit, and so does not look like a flag. -/
theorem ofText_year {y z : Text} (h : Year.validate y = .ok z) : Word.ofText z = .plain := by
  have hdigits {u v : Text} (hu : Year.isFourDigits u) : (u ++ v).head? ≠ some '-' := by
    cases u with
    | nil => exact absurd rfl (Year.ne_nil_of_isFourDigits hu)
    | cons c u =>
      intro hc
      obtain rfl : c = '-' := by simpa using hc
      exact absurd (Year.isDigit_of_isFourDigits hu List.mem_cons_self) (by decide)
  obtain ⟨-, hd | ⟨first, last, rfl, hf, -⟩⟩ := Year.validate_ok h
  · exact ofText_eq_plain (by simpa using hdigits (v := []) hd)
  · exact ofText_eq_plain (hdigits hf)

theorem year_eq_self {y : Text} (hy : ∃ z, Year.validate y = .ok z) (htrim : y.trim = y) :
    Year.validate y = .ok y := by
  obtain ⟨z, hz⟩ := hy
  rw [hz, (Year.validate_ok hz).1, htrim]

theorem store_settings {id : Text} (hy : ∀ y ∈ f.year, Year.validate y = .ok y) :
    Setting.store { license := some id } f.settings =
      .ok { license := some id, holder := f.holder, year := f.year } := by
  obtain ⟨holder, year⟩ := f
  have hvalid : ∀ y ∈ year, Year.validate y = .ok y := hy
  cases holder <;> cases year <;>
    simp_all [Filling.settings, Setting.store, Choices.assign, Choices.store, Choices.isSet, bind,
      Except.bind]

/-! ### The command restores what it is for -/

/-- The command, split into words by a shell, asks for the license with the same filling. -/
def Restores (l : License) (f : Filling) (environment : Option Text) : Prop :=
  ∃ words i g, words? (l.invocation f) = some (programName :: words) ∧
    Invocation.parse words environment = .ok i ∧ i.command = .generate g ∧ g.license = l.id ∧
      g.filling = f

/-- The id of the license is a word of its own: no flag, and no command of the program. -/
structure HasWord (l : License) : Prop where
  ne_nil : l.id ≠ []
  space : ' ' ∉ l.id
  quote : '"' ∉ l.id
  plain : Word.ofText l.id = .plain
  command : CommandWord.ofWord? l.id = none

/-- The text can be given as a copyright holder: it stands for itself between quotes, and does not
look like a flag. -/
def Givable (h : Text) : Prop := Quotable h ∧ Word.ofText h = .plain

theorem settings_ne_license (f : Filling) : ∀ p ∈ f.settings, p.1 ≠ .license := by
  simp [Filling.settings, or_imp, forall_and]

theorem plain_settings_iff (hy : ∀ y ∈ f.year, Year.validate y = .ok y) :
    (∀ p ∈ f.settings, Word.ofText p.2 = .plain) ↔
      ∀ h ∈ f.holder, Word.ofText h = .plain := by
  have hyear : ∀ y ∈ f.year, Word.ofText y = .plain := fun y hm => ofText_year (hy y hm)
  simpa [Filling.settings, or_imp, forall_and] using fun _ => hyear

/-- The words of the command ask for the license with the same filling just if the id is a plain
word and no command, and the copyright holder is plain. -/
theorem reads_words_iff (hy : ∀ y ∈ f.year, Year.validate y = .ok y) :
    (∃ i g, Invocation.parse (l.id :: f.settings.flatMap Setting.words) environment = .ok i ∧
      i.command = .generate g ∧ g.license = l.id ∧ g.filling = f) ↔
    environment ≠ some [] ∧ Word.ofText l.id = .plain ∧ CommandWord.ofWord? l.id = none ∧
      ∀ h ∈ f.holder, Word.ofText h = .plain := by
  constructor
  · rintro ⟨i, g, hparse, hcmd, hid, -⟩
    obtain ⟨c, hreads, ⟨id, hl, rfl⟩, -, henv⟩ := Invocation.parse_generate_iff.1 ⟨i, hparse, hcmd⟩
    obtain rfl : id = l.id := hid
    obtain ⟨hcommand, hplain, hps, hstore⟩ :=
      (Scan.reads_license_iff (settings_ne_license f)).1 ⟨hreads, hl⟩
    obtain rfl := Except.ok.inj ((store_settings hy).symm.trans hstore)
    exact ⟨henv rfl, hplain, hcommand, (plain_settings_iff hy).1 hps⟩
  · rintro ⟨henv, hplain, hcommand, hh⟩
    obtain ⟨hreads, hl⟩ := (Scan.reads_license_iff (settings_ne_license f)).2
      ⟨hcommand, hplain, (plain_settings_iff hy).2 hh, store_settings hy⟩
    obtain ⟨i, hparse, hcmd⟩ := Invocation.parse_generate_iff.2
      ⟨_, hreads, ⟨_, hl, rfl⟩, rfl, fun _ => henv⟩
    exact ⟨i, _, hparse, hcmd, rfl, rfl⟩

/-- Flags with their values alone do not say which license. -/
theorem parse_settings_ne {i : Invocation} {g : Generation}
    (hparse : Invocation.parse (f.settings.flatMap Setting.words) environment = .ok i) :
    i.command ≠ .generate g := by
  intro hcmd
  obtain ⟨c, hreads, ⟨id, hl, -⟩, -⟩ := Invocation.parse_generate_iff.1 ⟨i, hparse, hcmd⟩
  rw [Scan.unlicensed_empty.reads (settings_ne_license f) hreads] at hl
  cases hl

/-! ### What the words show -/

/-- Nothing is read that is not in the words, and a year is read without blanks around it. -/
theorem bounded_of_parse {words : List Text} {i : Invocation} {g : Generation}
    (hparse : Invocation.parse words environment = .ok i) (hcmd : i.command = .generate g) :
    (∀ ch, g.license.count ch + (g.filling.holder.getD []).count ch +
        (g.filling.year.getD []).count ch ≤ words.flatten.count ch) ∧
      ∀ y ∈ g.filling.year, y.trim = y := by
  obtain ⟨c, hreads, ⟨id, hl, rfl⟩, -⟩ := Invocation.parse_generate_iff.1 ⟨i, hparse, hcmd⟩
  refine ⟨fun ch => ?_, (hreads.bounded 'a').yearTrimmed⟩
  have hload := (hreads.bounded ch).load_le
  rwa [Choices.load, hl] at hload

theorem count_invocation (l : License) (f : Filling) : (l.invocation f).count '\\' =
    l.id.count '\\' + (f.holder.getD []).count '\\' + (f.year.getD []).count '\\' := by
  obtain ⟨holder, year⟩ := f
  have hname : programName.count '\\' = 0 := by decide
  cases holder <;> cases year <;> simp [invocation, List.count_append, hname, Nat.add_assoc]

theorem count_words_settings (f : Filling) : (f.settings.flatMap Setting.words).flatten.count ' ' =
    (f.holder.getD []).count ' ' + (f.year.getD []).count ' ' := by
  obtain ⟨holder, year⟩ := f
  have hholder : (Slot.flag .holder).count ' ' = 0 := by decide
  have hyear : (Slot.flag .year).count ' ' = 0 := by decide
  cases holder <;> cases year <;>
    simp [Filling.settings, Setting.words, List.count_append, hholder, hyear]

/-- If the words of the command have all that is filled in, the shell has removed no more than the
quotes around the copyright holder. -/
theorem quotable_of_words {words : List Text}
    (hwords : words? (l.invocation f) = some (programName :: words))
    (hload : ∀ ch, l.id.count ch + (f.holder.getD []).count ch + (f.year.getD []).count ch ≤
      words.flatten.count ch) : '"' ∉ l.id ∧ ∀ h ∈ f.holder, Quotable h := by
  have hname (ch : Char) : words.flatten.count ch ≤ (programName :: words).flatten.count ch := by
    simp [List.count_append]
  have hesc : .escape ∉ (read .outside (l.invocation f)).2 := by
    refine escape_notMem hwords ?_
    rw [count_invocation]
    exact (hload _).trans (hname _)
  -- Without a backslash that is removed there is no double quote in the words.
  have hnone : words.flatten.count '"' = 0 := by
    have hkept := quote_notMem_kept hesc
    rw [kept_of_words? hwords] at hkept
    exact Nat.le_zero.1 ((hname _).trans (List.count_eq_zero.2 hkept).le)
  have hquote := hload '"'
  have hid : '"' ∉ l.id := List.count_eq_zero.1 (by omega)
  refine ⟨hid, fun h hm => ?_⟩
  have hh : '"' ∉ h := by
    rw [hm, Option.getD_some] at hquote
    exact List.count_eq_zero.1 (by omega)
  obtain ⟨u, hline⟩ : ∃ u, l.invocation f =
      (programName ++ ' ' :: l.id ++ " --name ".toList) ++ '"' :: (h ++ '"' :: u) :=
    ⟨_, by simp [invocation, Option.mem_def.1 hm]; rfl⟩
  have hp : '"' ∉ programName ++ ' ' :: l.id ++ " --name ".toList := by
    have hfixed : '"' ∉ programName ∧ '"' ∉ " --name ".toList := by decide
    simp [hid, hfixed]
  exact quotable_of_read hp hh (hline ▸ hesc)

/-- **When the command restores the filling.** For a year that is one, the command fills the license
in the same way just if the id is a word of its own, the copyright holder has nothing in it that a
shell or the program takes for something else, and the year has no blanks around it. An environment
that names an empty folder spoils every command. -/
theorem restores_iff (l : License) (f : Filling) (environment : Option Text)
    (hy : ∀ y ∈ f.year, ∃ z, Year.validate y = .ok z) :
    l.Restores f environment ↔ environment ≠ some [] ∧ l.HasWord ∧ (∀ h ∈ f.holder, Givable h) ∧
      ∀ y ∈ f.year, y.trim = y := by
  have hyear (htrim : ∀ y ∈ f.year, y.trim = y) : ∀ y ∈ f.year, Year.validate y = .ok y :=
    fun y hm => year_eq_self (hy y hm) (htrim y hm)
  constructor
  · rintro ⟨words, i, g, hwords, hparse, hcmd, hid, hf⟩
    obtain ⟨hload, htrim⟩ := bounded_of_parse hparse hcmd
    rw [hid, hf] at hload
    rw [hf] at htrim
    have hyear := hyear htrim
    obtain ⟨hquote, hh⟩ := quotable_of_words hwords hload
    obtain ⟨ws, hws, hspace⟩ := exists_words?_unquoted hquote
    have hwords' := words?_invocation hws hh fun y hm => Year.isNumeral_of_validate (hyear y hm)
    obtain rfl : words = ws ++ f.settings.flatMap Setting.words := by simpa [hwords] using hwords'
    -- All spaces in the words are in the values, so none of them was in the id.
    have hspaceId : ' ' ∉ l.id := by
      have hcount := hload ' '
      rw [List.flatten_append, List.count_append, count_words_settings,
        List.count_eq_zero.2 hspace] at hcount
      exact List.count_eq_zero.1 (by omega)
    have hne : l.id ≠ [] := by
      intro hnil
      rw [hnil] at hws
      obtain rfl : [] = ws := Option.some.inj hws
      exact parse_settings_ne hparse hcmd
    obtain rfl : [l.id] = ws := Option.some.inj ((words?_bare hspaceId hquote hne).symm.trans hws)
    obtain ⟨henv, hplain, hcommand, hplains⟩ :=
      (reads_words_iff hyear).1 ⟨i, g, hparse, hcmd, hid, hf⟩
    exact ⟨henv, ⟨hne, hspaceId, hquote, hplain, hcommand⟩, fun h hm => ⟨hh h hm, hplains h hm⟩,
      htrim⟩
  · rintro ⟨henv, hid, hh, htrim⟩
    have hyear := hyear htrim
    have hwords := words?_invocation (words?_bare hid.space hid.quote hid.ne_nil)
      (fun h hm => (hh h hm).1) fun y hm => Year.isNumeral_of_validate (hyear y hm)
    obtain ⟨i, g, h⟩ := (reads_words_iff hyear).2
      ⟨henv, hid.plain, hid.command, fun h hm => (hh h hm).2⟩
    exact ⟨_, i, g, hwords, h⟩

/-- The command for a license of the usual kind, where the name has a space in it. -/
theorem restores_iff_jane_doe :
    let l : License := { id := "mit".toList }
    let f : Filling := { holder := some "Jane Doe".toList, year := some "2024".toList }
    (∀ y ∈ f.year, ∃ z, Year.validate y = .ok z) ∧ l.Restores f none := by
  intro l f
  have hy : ∀ y ∈ f.year, ∃ z, Year.validate y = .ok z := by
    rintro y ⟨⟩
    exact ⟨_, rfl⟩
  have hword : l.HasWord :=
    { ne_nil := by decide, space := by decide, quote := by decide, plain := rfl, command := rfl }
  refine ⟨hy, (restores_iff l f none hy).2 ⟨by decide, hword, ?_, ?_⟩⟩
  · rintro h ⟨⟩
    exact ⟨by decide, rfl⟩
  · rintro y ⟨⟩
    rfl

/-- A double quote in the name of the copyright holder is written as it stands, so that the quotes
of the command are not closed. -/
theorem not_restores_quote : ∃ l : License,
    License.parse "id: x\n---\n\x7b\x7bname\x7d\x7d".toList = .ok l ∧
      let f : Filling := { holder := some "a\"b".toList, year := some "2020".toList }
      (∀ d : Dialog, (d.complete l f true 2024).1 = .given f) ∧
        Year.validate "2020".toList = .ok "2020".toList ∧ ¬l.Restores f none := by
  refine ⟨_, rfl, fun d => rfl, rfl, ?_⟩
  rintro ⟨words, i, g, hwords, -⟩
  cases hwords

end License

end LicenseForge
