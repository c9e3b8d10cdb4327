import LicenseForge.Proofs.Year

/-!
# Which years are accepted

The grammar of copyright years, and what is said about a text that does not follow it.

* `Year.FourDigits`, `Year.IsYears` : a year, and a year or an ascending range of two.
* `Year.Faulty` : what is wrong with a text, the first thing that is.
* `Year.validate_grammar` : what is accepted, and what is wrong with all else.
-/

namespace LicenseForge.Year

/-! ### The grammar -/

/-- Four of the digits from 0 to 9. -/
structure FourDigits (t : Text) : Prop where
  /-- There are four characters. -/
  length : t.length = 4
  /-- They are decimal digits of ASCII. -/
  digits : ∀ c ∈ t, '0' ≤ c ∧ c ≤ '9'

/-- A year, or two years with a hyphen between them, of which the second is not before the first. -/
inductive IsYears : Text → Prop
  | single {t : Text} (h : FourDigits t) : IsYears t
  | range {first last : Text} (hf : FourDigits first) (hl : FourDigits last)
      (hle : Nat.ofDigitChars 10 first 0 ≤ Nat.ofDigitChars 10 last 0) :
      IsYears (first ++ '-' :: last)

/-- What is wrong with a text that is no year and no range: the part in front of the first hyphen,
or else what is behind it, or else the order of the two. -/
inductive Faulty : Text → Invalid → Prop
  | single {t : Text} (hm : '-' ∉ t) (h : ¬FourDigits t) : Faulty t (.notFourDigits t)
  | first {first last : Text} (hm : '-' ∉ first) (h : ¬FourDigits first) :
      Faulty (first ++ '-' :: last) (.notFourDigits first)
  | last {first last : Text} (hf : FourDigits first) (h : ¬FourDigits last) :
      Faulty (first ++ '-' :: last) (.notFourDigits last)
  | descending {first last : Text} (hf : FourDigits first) (hl : FourDigits last)
      (hlt : Nat.ofDigitChars 10 last 0 < Nat.ofDigitChars 10 first 0) :
      Faulty (first ++ '-' :: last) (.descending (first ++ '-' :: last))

variable {t v y first last : Text} {e : Invalid}

theorem isFourDigits_iff_fourDigits : isFourDigits t ↔ FourDigits t := by
  have hdigit (c : Char) : c.isDigit ↔ '0' ≤ c ∧ c ≤ '9' := by
    rw [Char.isDigit_iff_toNat, Char.le_def, Char.le_def, UInt32.le_iff_toNat_le,
      UInt32.le_iff_toNat_le]
    rfl
  simp only [isFourDigits_iff, hdigit]
  exact ⟨fun h => ⟨h.1, h.2⟩, fun h => ⟨h.1, h.2⟩⟩

theorem FourDigits.isDigit (h : FourDigits t) : ∀ c ∈ t, c.isDigit :=
  (isFourDigits_iff.1 (isFourDigits_iff_fourDigits.2 h)).2

theorem FourDigits.hyphen_notMem (h : FourDigits t) : '-' ∉ t := by
  intro hm
  exact absurd (h.digits _ hm).1 (by decide)

/-- That its digits denote no number is wrong with no part. -/
theorem not_faulty_unreadable {part : Text} : ¬Faulty t (.unreadable part) := by
  intro h
  cases h

/-- Every text follows the grammar, or something is wrong with it. -/
theorem isYears_or_faulty (t : Text) : IsYears t ∨ ∃ e, Faulty t e := by
  cases hcut : t.cut '-' with
  | none =>
    have hm := Text.cut_eq_none_iff.1 hcut
    by_cases h : FourDigits t
    · exact .inl (.single h)
    · exact .inr ⟨_, .single hm h⟩
  | some parts =>
    obtain ⟨first, last⟩ := parts
    obtain ⟨rfl, hm⟩ := Text.cut_eq_some_iff.1 hcut
    by_cases hf : FourDigits first
    · by_cases hl : FourDigits last
      · rcases Nat.lt_or_ge (Nat.ofDigitChars 10 last 0)
          (Nat.ofDigitChars 10 first 0) with hlt | hle
        · exact .inr ⟨_, .descending hf hl hlt⟩
        · exact .inl (.range hf hl hle)
      · exact .inr ⟨_, .last hf hl⟩
    · exact .inr ⟨_, .first hm hf⟩

/-! ### What is accepted -/

theorem read_of_fourDigits (h : FourDigits t) : read t = .ok (UInt16.ofNat (value t)) := by
  rw [read_eq, if_pos (isFourDigits_iff_fourDigits.2 h)]

theorem read_of_not_fourDigits (h : ¬FourDigits t) : read t = .error (.notFourDigits t) := by
  rw [read_eq, if_neg (mt isFourDigits_iff_fourDigits.1 h)]

/-- The numbers of four digits fit into 16 bits. -/
theorem FourDigits.toNat_ofNat_value (h : FourDigits t) :
    (UInt16.ofNat (value t)).toNat = Nat.ofDigitChars 10 t 0 := by
  have hlt := value_lt h.isDigit
  rw [h.length] at hlt
  rw [UInt16.toNat_ofNat', ← value_eq_ofDigitChars]
  omega

theorem ofNat_value_gt_iff (hf : FourDigits first) (hl : FourDigits last) :
    UInt16.ofNat (value first) > UInt16.ofNat (value last) ↔
      Nat.ofDigitChars 10 last 0 < Nat.ofDigitChars 10 first 0 := by
  rw [gt_iff_lt, UInt16.lt_iff_toNat_lt, hf.toNat_ofNat_value, hl.toNat_ofNat_value]

theorem validate_of_hyphen_notMem (hm : '-' ∉ v.trim) :
    validate v = (read v.trim).map fun _ => v.trim := by
  simp only [validate, Text.cut_eq_none_iff.2 hm]
  cases read v.trim <;> rfl

theorem validate_of_trim_eq (ht : v.trim = first ++ '-' :: last) (hm : '-' ∉ first) :
    validate v = (do
      let start ← read first
      let finish ← read last
      if start > finish then throw (.descending (first ++ '-' :: last))
      return first ++ '-' :: last) := by
  have hcut : Text.cut '-' (first ++ '-' :: last) = some (first, last) :=
    Text.cut_eq_some_iff.2 ⟨rfl, hm⟩
  simp only [validate, ht, hcut]

theorem validate_of_isYears (ht : v.trim = t) (h : IsYears t) : validate v = .ok t := by
  cases h with
  | single h =>
    subst ht
    rw [validate_of_hyphen_notMem h.hyphen_notMem, read_of_fourDigits h]
    rfl
  | range hf hl hle =>
    have hn := mt (ofNat_value_gt_iff hf hl).1 (Nat.not_lt.2 hle)
    rw [validate_of_trim_eq ht hf.hyphen_notMem, read_of_fourDigits hf, read_of_fourDigits hl]
    simp only [bind, Except.bind, if_neg hn]
    rfl

theorem validate_of_faulty (ht : v.trim = t) (h : Faulty t e) : validate v = .error e := by
  cases h with
  | single hm h =>
    subst ht
    rw [validate_of_hyphen_notMem hm, read_of_not_fourDigits h]
    rfl
  | first hm h =>
    rw [validate_of_trim_eq ht hm, read_of_not_fourDigits h]
    rfl
  | last hf h =>
    rw [validate_of_trim_eq ht hf.hyphen_notMem, read_of_fourDigits hf, read_of_not_fourDigits h]
    rfl
  | descending hf hl hlt =>
    have hn := (ofNat_value_gt_iff hf hl).2 hlt
    rw [validate_of_trim_eq ht hf.hyphen_notMem, read_of_fourDigits hf, read_of_fourDigits hl]
    simp only [bind, Except.bind, if_pos hn]
    rfl

/-- **What is accepted as copyright years** is what follows the grammar once the blanks around it
are gone, and it is accepted as it stands then.  Of everything else the first part is named that is
not four digits, or else the range that descends; and that four digits denote no number of 16 bits
never happens. -/
theorem validate_grammar (v : Text) :
    (∀ y, validate v = .ok y ↔ IsYears v.trim ∧ y = v.trim) ∧
      validate v.trim = validate v ∧
      (∀ e, validate v = .error e ↔ Faulty v.trim e) ∧
      ∀ part, validate v ≠ .error (.unreadable part) := by
  have herror (e : Invalid) (he : validate v = .error e) : Faulty v.trim e := by
    rcases isYears_or_faulty v.trim with h | ⟨e', h⟩
    · rw [validate_of_isYears rfl h] at he
      cases he
    · rw [validate_of_faulty rfl h] at he
      exact Except.error.inj he ▸ h
  refine ⟨?_, validate_trim v, fun e => ⟨herror e, validate_of_faulty rfl⟩, ?_⟩
  · intro y
    constructor
    · intro hy
      rcases isYears_or_faulty v.trim with h | ⟨e, h⟩
      · rw [validate_of_isYears rfl h] at hy
        exact ⟨h, (Except.ok.inj hy).symm⟩
      · rw [validate_of_faulty rfl h] at hy
        cases hy
    · rintro ⟨h, rfl⟩
      exact validate_of_isYears rfl h
  · intro part hp
    exact not_faulty_unreadable (herror _ hp)

end LicenseForge.Year
