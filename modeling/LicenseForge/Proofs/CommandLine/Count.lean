import LicenseForge.Proofs.CommandLine.Reading

/-!
# Nothing is read that is not in the words

* `Choices.load` : how often a character occurs in the license, the copyright holder and the year
  that are read.
* `Scan.run_bounded` : it occurs no more often there than in the words, and the year that is read
  has no blanks around it.
* `Scan.Reads.bounded` : so it is when all words have been read.
-/

namespace LicenseForge

open Steps

namespace Choices

/-- How often the character occurs in the license, the copyright holder and the year. -/
def load (ch : Char) (c : Choices) : Nat :=
  (c.license.getD []).count ch + (c.holder.getD []).count ch + (c.year.getD []).count ch

/-- The year has no blanks around it. -/
def YearTrimmed (c : Choices) : Prop := ∀ y ∈ c.year, y.trim = y

/-- The character occurs at most `n` times, and the year has no blanks around it. -/
structure Bounded (ch : Char) (n : Nat) (c : Choices) : Prop where
  load_le : c.load ch ≤ n
  yearTrimmed : c.YearTrimmed

variable {ch : Char} {n : Nat} {c c' : Choices} {slot : Slot} {value : Text}

theorem count_trim_le (t : Text) : t.trim.count ch ≤ t.count ch :=
  t.trim_isInfix.sublist.count_le ch

theorem Bounded.store (hc : c.Bounded ch n) (h : c.store slot value = .ok c') :
    c'.Bounded ch (n + value.count ch) := by
  obtain ⟨hl, hh, hy⟩ := store_values h
  have hload := hc.load_le
  have htrim : value.trim.count ch ≤ value.count ch := count_trim_le value
  unfold load at hload
  constructor
  · unfold load
    rw [hl, hh, hy]
    cases slot <;> simp <;> omega
  · intro y hm
    rw [hy] at hm
    split at hm
    · rw [← Option.some.inj hm, Text.trim_trim]
    · exact hc.yearTrimmed y hm

theorem Bounded.throwSwitch {scope : Scope} {switch : Switch} (hc : c.Bounded ch n)
    (h : c.throwSwitch scope switch = .ok c') : c'.Bounded ch n := by
  obtain ⟨hl, hh, hy⟩ := throwSwitch_values h
  exact ⟨by unfold load; rw [hl, hh, hy]; exact hc.load_le,
    fun y hm => hc.yearTrimmed y (hy ▸ hm)⟩

end Choices

namespace Scan

/-- The value that has been read and is not yet in its slot. -/
def held (s : Scan) : Text := (s.pending.bind Prod.snd).getD []

/-- What has been read has the character at most `n` times. -/
def Bounded (ch : Char) (n : Nat) (s : Scan) : Prop :=
  ∃ m, s.choices.Bounded ch m ∧ m + s.held.count ch ≤ n

variable {ch : Char} {n : Nat} {s s' : Scan} {scope : Scope} {slot : Slot} {value word : Text}

theorem Bounded.mono {m : Nat} (h : s.Bounded ch m) (hm : m ≤ n) : s.Bounded ch n := by
  obtain ⟨k, hk, hle⟩ := h
  exact ⟨k, hk, hle.trans hm⟩

theorem Bounded.assign {m : Nat} (hc : s.choices.Bounded ch m)
    (h : s.assign slot value = .ok s') : s'.Bounded ch (m + value.count ch) := by
  obtain ⟨c, hassign, rfl⟩ := assign_eq_ok_iff.1 h
  exact ⟨_, hc.store (Choices.assign_eq_ok_iff.1 hassign).2, by simp [held]⟩

theorem Bounded.settle (hs : s.Bounded ch n) (h : s.settle = .ok s') : s'.Bounded ch n := by
  obtain ⟨m, hc, hle⟩ := hs
  rcases settle_eq_ok_iff.1 h with ⟨-, rfl⟩ | ⟨slot, value, hp, ha⟩
  · exact ⟨m, hc, hle⟩
  · refine (Bounded.assign hc ha).mono ?_
    simpa [held, hp] using hle

/-- Behind what is settled only the choices count. -/
theorem Bounded.choices (hs : s.Bounded ch n) : s.choices.Bounded ch n := by
  obtain ⟨m, hc, hle⟩ := hs
  exact ⟨hc.load_le.trans (by omega), hc.yearTrimmed⟩

theorem Bounded.throwSwitch {switch : Switch} (hs : s.Bounded ch n)
    (h : s.throwSwitch scope switch = .ok s') : s'.Bounded ch n := by
  obtain ⟨t, ht, h⟩ := bind_eq_ok.1 h
  obtain ⟨c, hc, h⟩ := bind_eq_ok.1 h
  obtain rfl := pure_eq_ok.1 h
  exact ⟨n, (hs.settle ht).choices.throwSwitch hc, by simp [held]⟩

theorem Bounded.begin {value : Option Text} (hs : s.Bounded ch n)
    (h : s.begin slot value = .ok s') : s'.Bounded ch (n + (value.getD []).count ch) := by
  obtain ⟨t, ht, h⟩ := bind_eq_ok.1 h
  have hc := (hs.settle ht).choices
  cases value with
  | some value => exact Bounded.assign hc h
  | none =>
    obtain rfl := pure_eq_ok.1 h
    exact ⟨n, hc, by simp [held]⟩

theorem Bounded.long {name : Text} {value : Option Text} (hs : s.Bounded ch n)
    (h : s.long scope name value = .ok s') : s'.Bounded ch (n + (value.getD []).count ch) := by
  unfold Scan.long at h
  split at h
  · cases h
  · exact hs.begin h
  · split at h
    · cases h
    · exact (hs.throwSwitch h).mono (Nat.le_add_right _ _)

theorem Bounded.short {letters : Text} (hs : s.Bounded ch n)
    (h : s.short scope letters = .ok s') : s'.Bounded ch (n + letters.count ch) := by
  induction letters generalizing s n with
  | nil =>
    obtain rfl := Except.ok.inj h
    exact hs
  | cons letter rest ih =>
    have hle : rest.count ch ≤ (letter :: rest).count ch := List.count_le_count_cons
    unfold Scan.short at h
    split at h
    · cases h
    · obtain ⟨t, ht, h⟩ := bind_eq_ok.1 h
      exact (ih (hs.throwSwitch ht) h).mono (by omega)
    · split at h
      · exact (hs.begin h).mono (by simp)
      next value =>
        have hle' : value.count ch ≤ ('=' :: value).count ch := List.count_le_count_cons
        exact (hs.begin h).mono (by simp only [Option.getD_some]; omega)
      · exact (hs.begin h).mono (by simp only [Option.getD_some]; omega)

theorem Bounded.positional {escaped : Bool} (hs : s.Bounded ch n)
    (h : s.positional scope escaped word = .ok s') : s'.Bounded ch (n + word.count ch) := by
  unfold Scan.positional at h
  split at h
  · obtain ⟨t, ht, h⟩ := bind_eq_ok.1 h
    obtain rfl := pure_eq_ok.1 h
    exact ⟨n, (hs.settle ht).choices, by simp [held]⟩
  · cases h

theorem Bounded.plain (hs : s.Bounded ch n) (h : s.plain scope word = .ok s') :
    s'.Bounded ch (n + word.count ch) := by
  unfold Scan.plain at h
  split at h
  · obtain rfl := Except.ok.inj h
    exact ⟨n, hs.choices, by simp [held]⟩
  · exact hs.positional h

/-- What a word looks like is a part of it. -/
theorem count_ofText_le (ch : Char) :
    (∀ name value, Word.ofText word = .long name value →
      (value.getD []).count ch ≤ word.count ch) ∧
    (∀ letters, Word.ofText word = .short letters → letters.count ch ≤ word.count ch) := by
  unfold Word.ofText
  split
  · simp
  next t _ =>
    split
    next name value hcut =>
      obtain ⟨rfl, -⟩ := Text.cut_eq_some_iff.1 hcut
      refine ⟨fun _ _ h => ?_, by simp⟩
      obtain ⟨rfl, rfl⟩ := Word.long.inj h
      have hsuffix : value <:+ '-' :: '-' :: (name ++ '=' :: value) :=
        ⟨'-' :: '-' :: name ++ ['='], by simp⟩
      exact hsuffix.sublist.count_le ch
    next => simp +contextual [eq_comm]
  next c t _ =>
    refine ⟨by simp, fun _ h => ?_⟩
    obtain rfl := Word.short.inj h
    exact List.count_le_count_cons
  · simp

/-- Nothing is read that is not in the words. -/
theorem run_bounded {escaped : Bool} {words : List Text} {behind : Option (Scope × List Text)}
    (hs : s.Bounded ch n) (h : s.run scope escaped words = .ok (s', behind)) :
    s'.Bounded ch (n + words.flatten.count ch) := by
  induction words generalizing s n escaped with
  | nil =>
    obtain ⟨rfl, -⟩ : s = s' ∧ none = behind := by simpa [run] using h
    exact hs
  | cons word rest ih =>
    rw [List.flatten_cons, List.count_append, ← Nat.add_assoc]
    have hle : n ≤ n + word.count ch := Nat.le_add_right _ _
    unfold run at h
    split at h
    · obtain ⟨t, ht, h⟩ := bind_eq_ok.1 h
      exact ih (hs.positional ht) h
    · split at h
      · obtain ⟨rfl, -⟩ : s = s' ∧ _ = behind := by simpa using h
        exact hs.mono (by omega)
      · obtain ⟨rfl, -⟩ : s = s' ∧ _ = behind := by simpa using h
        exact hs.mono (by omega)
      · obtain ⟨topic, -, h⟩ := bind_eq_ok.1 h
        exact absurd h throw_ne_ok
      · split at h
        · exact ih (hs.mono hle) h
        next hw =>
          obtain ⟨t, ht, h⟩ := bind_eq_ok.1 h
          have hcount := (count_ofText_le ch).1 _ _ hw
          exact ih ((hs.long ht).mono (Nat.add_le_add_left hcount n)) h
        next hw =>
          obtain ⟨t, ht, h⟩ := bind_eq_ok.1 h
          have hcount := (count_ofText_le ch).2 _ hw
          exact ih ((hs.short ht).mono (Nat.add_le_add_left hcount n)) h
        · obtain ⟨t, ht, h⟩ := bind_eq_ok.1 h
          exact ih (hs.plain ht) h

theorem Reads.bounded {words : List Text} {c : Choices} (h : Reads {} words c) (ch : Char) :
    c.Bounded ch (words.flatten.count ch) := by
  obtain ⟨s', t, hrun, ht, rfl⟩ := h
  have hstart : Bounded ch 0 {} := ⟨0, ⟨by simp [Choices.load], by simp [Choices.YearTrimmed]⟩,
    by simp [held]⟩
  simpa using ((run_bounded hstart hrun).settle ht).choices

end Scan

end LicenseForge
