import LicenseForge.Text.Blank
import Mathlib.Data.List.DropRight

/-!
# What trimming leaves

* `Text.AllBlank` : a text of blanks.
* `Text.IsTrimmed` : a text with no blank at either end.
* `Text.trimEnd_eq_iff`, `Text.trim_eq_iff` : a trimmed text is what stands between the blanks.
* `Text.trim_trim` : trimming twice is trimming once.
-/

namespace LicenseForge.Text

/-- All characters are blank. -/
def AllBlank (t : Text) : Prop := ∀ c ∈ t, isBlank c

instance (t : Text) : Decidable (AllBlank t) := List.decidableBAll _ t

@[simp] theorem allBlank_nil : AllBlank [] := by simp [AllBlank]

@[simp] theorem allBlank_cons {c : Char} {t : Text} :
    AllBlank (c :: t) ↔ isBlank c ∧ AllBlank t := by
  simp [AllBlank]

@[simp] theorem allBlank_append {s t : Text} : AllBlank (s ++ t) ↔ AllBlank s ∧ AllBlank t := by
  simp [AllBlank, or_imp, forall_and]

/-- The last character is not blank. -/
def EndsFull (t : Text) : Prop := ∀ c ∈ t.getLast?, ¬isBlank c

/-- The first character is not blank. -/
def StartsFull (t : Text) : Prop := ∀ c ∈ t.head?, ¬isBlank c

/-- Neither the first nor the last character is blank. -/
def IsTrimmed (t : Text) : Prop := StartsFull t ∧ EndsFull t

@[simp] theorem endsFull_nil : EndsFull [] := by simp [EndsFull]

@[simp] theorem startsFull_nil : StartsFull [] := by simp [StartsFull]

@[simp] theorem startsFull_cons {c : Char} {t : Text} : StartsFull (c :: t) ↔ ¬isBlank c := by
  simp [StartsFull]

instance : (t : Text) → Decidable (StartsFull t)
  | [] => isTrue startsFull_nil
  | c :: _ => decidable_of_iff (¬isBlank c) startsFull_cons.symm

@[simp] theorem endsFull_append_singleton {c : Char} {t : Text} :
    EndsFull (t ++ [c]) ↔ ¬isBlank c := by
  simp [EndsFull]

theorem endsFull_append {s t : Text} (h : t ≠ []) : EndsFull (s ++ t) ↔ EndsFull t := by
  simp [EndsFull, List.getLast?_append_of_ne_nil s h]

theorem startsFull_append {s t : Text} (h : s ≠ []) : StartsFull (s ++ t) ↔ StartsFull s := by
  simp [StartsFull, List.head?_append_of_ne_nil s h]

theorem eq_nil_of_allBlank_of_endsFull {t : Text} (h : AllBlank t) (h' : EndsFull t) : t = [] := by
  rcases t.eq_nil_or_concat with rfl | ⟨s, c, rfl⟩
  · rfl
  · simp_all

/-! ### The ends of a text -/

theorem dropEndWhile_eq_iff {p : Char → Bool} {t u : Text} :
    dropEndWhile p t = u ↔
      ∃ v, t = u ++ v ∧ (∀ c ∈ v, p c) ∧ ∀ c ∈ u.getLast?, ¬p c := by
  change t.rdropWhile p = u ↔ _
  constructor
  · rintro rfl
    refine ⟨t.rtakeWhile p, List.rdropWhile_append_rtakeWhile.symm,
      fun c hc => List.mem_rtakeWhile_imp hc, fun c hc => ?_⟩
    obtain ⟨hne, rfl⟩ := List.mem_getLast?_eq_getLast hc
    exact List.rdropWhile_last_not p t hne
  · rintro ⟨v, rfl, hv, hu⟩
    induction v using List.reverseRecOn with
    | nil =>
      rw [List.append_nil, List.rdropWhile_eq_self_iff]
      exact fun hne => hu _ (List.getLast?_eq_getLast_of_ne_nil hne)
    | append_singleton v c ih =>
      simp only [List.mem_append, List.mem_singleton, or_imp, forall_and, forall_eq] at hv
      rw [← List.append_assoc, List.rdropWhile_concat_pos _ _ _ hv.2, ih hv.1]

theorem trimEnd_eq_iff {t u : Text} :
    trimEnd t = u ↔ ∃ v, t = u ++ v ∧ AllBlank v ∧ EndsFull u :=
  dropEndWhile_eq_iff

theorem trimStart_eq_iff {t u : Text} :
    trimStart t = u ↔ ∃ v, t = v ++ u ∧ AllBlank v ∧ StartsFull u := by
  constructor
  · rintro rfl
    refine ⟨t.takeWhile isBlank, List.takeWhile_append_dropWhile.symm,
      fun c hc => List.mem_takeWhile_imp hc, fun c hc => ?_⟩
    have := List.head?_dropWhile_not isBlank t
    rw [show t.dropWhile isBlank = trimStart t from rfl, hc] at this
    simpa using this
  · rintro ⟨v, rfl, hv, hu⟩
    induction v with
    | nil =>
      cases u with
      | nil => rfl
      | cons c u => simpa [trimStart] using hu
    | cons c v ih =>
      simp only [allBlank_cons] at hv
      simpa [trimStart, hv.1] using ih hv.2

theorem trim_eq_iff {t u : Text} :
    trim t = u ↔ ∃ a b, t = a ++ u ++ b ∧ AllBlank a ∧ AllBlank b ∧ IsTrimmed u := by
  rw [trim, trimEnd_eq_iff]
  constructor
  · rintro ⟨b, hb, hbb, hu⟩
    obtain ⟨a, rfl, ha, hs⟩ := trimStart_eq_iff.1 hb
    refine ⟨a, b, (List.append_assoc _ _ _).symm, ha, hbb, ?_, hu⟩
    cases u with
    | nil => simp
    | cons c u => simpa using hs
  · rintro ⟨a, b, rfl, ha, hb, hs, hu⟩
    cases u with
    | nil =>
      refine ⟨[], ?_, by simp⟩
      exact trimStart_eq_iff.2 ⟨a ++ [] ++ b, by simp, by simp [ha, hb]⟩
    | cons c u =>
      refine ⟨b, trimStart_eq_iff.2 ⟨a, List.append_assoc _ _ _, ha, ?_⟩, hb, hu⟩
      simpa using hs

theorem isTrimmed_trim (t : Text) : IsTrimmed (trim t) :=
  (trim_eq_iff.1 rfl).choose_spec.choose_spec.2.2.2

theorem trim_of_isTrimmed {t : Text} (h : IsTrimmed t) : trim t = t :=
  trim_eq_iff.2 ⟨[], [], by simp, by simp, by simp, h⟩

theorem trim_eq_self_iff {t : Text} : trim t = t ↔ IsTrimmed t :=
  ⟨fun h => h ▸ isTrimmed_trim t, trim_of_isTrimmed⟩

@[simp] theorem trim_trim (t : Text) : trim (trim t) = trim t :=
  trim_of_isTrimmed (isTrimmed_trim t)

theorem trim_isInfix (t : Text) : trim t <:+: t := by
  obtain ⟨a, b, h, -⟩ := trim_eq_iff.1 (rfl : trim t = trim t)
  exact ⟨a, b, h.symm⟩

theorem mem_of_mem_trim {c : Char} {t : Text} (h : c ∈ trim t) : c ∈ t := (trim_isInfix t).subset h

theorem trim_append_of_allBlank {t b : Text} (hb : AllBlank b) : trim (t ++ b) = trim t := by
  obtain ⟨a, b', h, ha, hb', ht⟩ := trim_eq_iff.1 (rfl : trim t = trim t)
  refine trim_eq_iff.2 ⟨a, b' ++ b, ?_, ha, by simp [hb, hb'], ht⟩
  conv_lhs => rw [h]
  simp

theorem trim_append_left_of_allBlank {a t : Text} (ha : AllBlank a) : trim (a ++ t) = trim t := by
  obtain ⟨a', b, h, ha', hb, ht⟩ := trim_eq_iff.1 (rfl : trim t = trim t)
  refine trim_eq_iff.2 ⟨a ++ a', b, ?_, by simp [ha, ha'], hb, ht⟩
  conv_lhs => rw [h]
  simp

theorem trim_eq_nil_iff {t : Text} : trim t = [] ↔ AllBlank t := by
  rw [trim_eq_iff]
  constructor
  · rintro ⟨a, b, rfl, ha, hb, -⟩
    simp [ha, hb]
  · exact fun h => ⟨t, [], by simp, h, by simp, by simp [IsTrimmed]⟩

theorem exists_eq_trimEnd_append (t : Text) : ∃ v, t = trimEnd t ++ v ∧ AllBlank v := by
  obtain ⟨v, h, hv, -⟩ := trimEnd_eq_iff.1 (rfl : trimEnd t = trimEnd t)
  exact ⟨v, h, hv⟩

@[simp] theorem trim_trimEnd (t : Text) : trim (trimEnd t) = trim t := by
  obtain ⟨v, h, hv⟩ := exists_eq_trimEnd_append t
  conv_rhs => rw [h]
  rw [trim_append_of_allBlank hv]

/-- Trimming reaches no further than to the last character that is not blank. -/
theorem trim_append_cons {a : Text} (ha : StartsFull a) (hne : a ≠ []) {c : Char}
    (hc : ¬isBlank c) (t : Text) : trim (a ++ c :: t) = a ++ c :: trimEnd t := by
  obtain ⟨v, h, hv⟩ := exists_eq_trimEnd_append t
  refine trim_eq_iff.2 ⟨[], v, ?_, allBlank_nil, hv, (startsFull_append hne).2 ha, ?_⟩
  · conv_lhs => rw [h]
    simp
  · rw [endsFull_append (List.cons_ne_nil _ _)]
    by_cases ht : trimEnd t = []
    · rw [ht]
      exact endsFull_append_singleton (t := []).2 hc
    · have he : EndsFull (trimEnd t) := (trimEnd_eq_iff.1 rfl).choose_spec.2.2
      exact (endsFull_append (s := [c]) ht).2 he

end LicenseForge.Text
