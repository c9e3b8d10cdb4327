import LicenseForge.Proofs.Steps
import LicenseForge.Proofs.Text.Trim
import LicenseForge.Proofs.Text.Utf8
import LicenseForge.Year
import Mathlib.Algebra.Group.Nat.Defs

/-!
# What a year looks like

* `Year.IsNumeral` : a text of digits and hyphens.
* `Year.isNumeral_format`, `Year.isNumeral_of_validate` : the years that are written and the years
  that are accepted are such texts.
* `Year.isFourDigits_iff` : four bytes that are digits are four characters that are digits.
* `Year.read_eq` : four digits are always read as a number.
* `Year.validate_format`, `Year.of_validate_format` : of the years that are written, those from 0 to
  9999 are accepted.
-/

namespace LicenseForge.Year

open Steps

/-- A text of decimal digits and hyphens that is not empty. -/
def IsNumeral (y : Text) : Prop := y ≠ [] ∧ ∀ c ∈ y, c.isDigit ∨ c = '-'

instance (y : Text) : Decidable (IsNumeral y) :=
  @instDecidableAnd _ _ _ (List.decidableBAll _ y)

/-! ### Years that are written -/

theorem isDigit_of_mem_leftpad {width n : Nat} {c : Char}
    (h : c ∈ (Nat.toDigits 10 n).leftpad width '0') : c.isDigit := by
  rw [List.leftpad, List.mem_append] at h
  rcases h with h | h
  · rw [List.eq_of_mem_replicate h]; decide
  · exact Nat.isDigit_of_mem_toDigits (by decide) (by decide) h

theorem isNumeral_format (year : Int) : IsNumeral (format year) := by
  cases year with
  | ofNat n =>
    refine ⟨fun h => ?_, fun c hc => .inl (isDigit_of_mem_leftpad hc)⟩
    exact Nat.toDigits_ne_nil (List.append_eq_nil_iff.1 h).2
  | negSucc n =>
    refine ⟨List.cons_ne_nil _ _, fun c hc => ?_⟩
    rcases List.mem_cons.1 hc with rfl | hc
    · exact .inr rfl
    · exact .inl (isDigit_of_mem_leftpad hc)

/-! ### Years that are accepted -/

theorem isFourDigits_of_read {t : Text} {n : UInt16} (h : read t = .ok n) : isFourDigits t := by
  unfold read at h
  split at h
  · assumption
  · simp at h

theorem toNat_lt_of_isDigit {c : Char} (h : c.isDigit) : c.toNat < 128 :=
  Nat.lt_of_le_of_lt (Char.isDigit_iff_toNat.1 h).2 (by decide)

theorem isDigitByte_ofNat {c : Char} (h : c.toNat < 128) :
    isDigitByte (UInt8.ofNat c.toNat) ↔ c.isDigit := by
  have hb : (UInt8.ofNat c.toNat).toNat = c.toNat := by
    rw [UInt8.toNat_ofNat']
    omega
  rw [isDigitByte, Bool.and_eq_true, decide_eq_true_eq, decide_eq_true_eq,
    UInt8.le_iff_toNat_le, UInt8.le_iff_toNat_le, hb, Char.isDigit_iff_toNat]
  rfl

/-- Four bytes that are digits are four characters that are digits: all other characters have bytes
of which none is a digit. -/
theorem isFourDigits_iff {t : Text} :
    isFourDigits t ↔ t.length = 4 ∧ ∀ c ∈ t, c.isDigit := by
  rw [isFourDigits, Bool.and_eq_true, beq_iff_eq, List.all_eq_true]
  constructor
  · rintro ⟨hlen, hbytes⟩
    have hsmall (b : UInt8) (hb : isDigitByte b) : b.toNat < 128 := by
      simp only [isDigitByte, Bool.and_eq_true, decide_eq_true_eq, UInt8.le_iff_toNat_le] at hb
      exact Nat.lt_of_le_of_lt hb.2 (by decide)
    have hchar : ∀ c ∈ t, ∃ b, isDigitByte b ∧ c.toNat = b.toNat := by
      intro c hc
      obtain ⟨b, hb, hbc⟩ := Text.exists_byte_mem_encode hc
      have hd := hbytes b hb
      exact ⟨b, hd, Text.toNat_eq_of_mem_utf8EncodeChar (hsmall b hd) hbc⟩
    have hascii : ∀ c ∈ t, c.toNat < 128 := by
      intro c hc
      obtain ⟨b, hb, he⟩ := hchar c hc
      exact he ▸ hsmall b hb
    refine ⟨by rw [← hlen, Text.encode_eq_map hascii, List.length_map], ?_⟩
    intro c hc
    obtain ⟨b, hb, he⟩ := hchar c hc
    rw [← isDigitByte_ofNat (hascii c hc), he, UInt8.ofNat_toNat]
    exact hb
  · rintro ⟨hlen, hdigits⟩
    have hascii : ∀ c ∈ t, c.toNat < 128 := fun c hc => toNat_lt_of_isDigit (hdigits c hc)
    rw [Text.encode_eq_map hascii, List.length_map, List.forall_mem_map]
    exact ⟨hlen, fun c hc => (isDigitByte_ofNat (hascii c hc)).2 (hdigits c hc)⟩

theorem isDigit_of_isFourDigits {t : Text} {c : Char} (h : isFourDigits t) (hc : c ∈ t) :
    c.isDigit :=
  (isFourDigits_iff.1 h).2 c hc

theorem ne_nil_of_isFourDigits {t : Text} (h : isFourDigits t) : t ≠ [] := by
  rintro rfl
  exact absurd (isFourDigits_iff.1 h).1 (by decide)

theorem value_eq_ofDigitChars (t : Text) : value t = Nat.ofDigitChars 10 t 0 := rfl

/-- A number of so many digits is less than the power of ten. -/
theorem value_lt {t : Text} (h : ∀ c ∈ t, c.isDigit) : value t < 10 ^ t.length := by
  induction t using List.reverseRecOn with
  | nil => decide
  | append_singleton t c ih =>
    have hc : c.toNat ≤ '9'.toNat := (Char.isDigit_iff_toNat.1 (h c (by simp))).2
    have ht := ih fun d hd => h d (List.mem_append_left _ hd)
    have hvalue : value (t ++ [c]) = 10 * value t + (c.toNat - '0'.toNat) := by simp [value]
    have h0 : '0'.toNat = 48 := rfl
    have h9 : '9'.toNat = 57 := rfl
    rw [hvalue, List.length_append, List.length_singleton, Nat.pow_succ]
    omega

/-- Four digits always denote a number of 16 bits. -/
theorem parse?_of_isFourDigits {t : Text} (h : isFourDigits t) :
    parse? t = some (UInt16.ofNat (value t)) := by
  have hd : ∀ c ∈ t, c.isDigit := fun c => isDigit_of_isFourDigits h
  have hvalue := value_lt hd
  rw [(isFourDigits_iff.1 h).1] at hvalue
  -- the first character is a digit, and no plus sign
  have hplus : ¬(t.head? == some '+') = true := by
    intro hp
    have hm : '+' ∈ t := List.mem_of_mem_head? (beq_iff_eq.1 hp)
    exact absurd (hd _ hm) (by decide)
  have hsize : UInt16.size = 65536 := rfl
  rw [parse?, if_neg hplus, if_pos]
  simp only [Bool.and_eq_true, Bool.not_eq_true', List.isEmpty_eq_false_iff, List.all_eq_true,
    decide_eq_true_eq]
  exact ⟨⟨ne_nil_of_isFourDigits h, hd⟩, by omega⟩

/-- A part is read just if it is four digits. That it is not is all that can be wrong with it. -/
theorem read_eq (t : Text) :
    read t =
      if isFourDigits t then .ok (UInt16.ofNat (value t)) else .error (.notFourDigits t) := by
  rw [read]
  split
  next h => rw [parse?_of_isFourDigits h]
  next => rfl

/-- What is accepted as a year is the text without the blanks around it: one part of four digits,
or two of them with a hyphen between. -/
theorem validate_ok {t y : Text} (h : validate t = .ok y) :
    y = t.trim ∧ (isFourDigits y ∨
      ∃ first last, y = first ++ '-' :: last ∧ isFourDigits first ∧ isFourDigits last) := by
  dsimp only [validate] at h
  split at h
  next hcut =>
    obtain ⟨n, hr, h⟩ := bind_eq_ok.1 h
    exact ⟨(pure_eq_ok.1 h).symm, .inl (pure_eq_ok.1 h ▸ isFourDigits_of_read hr)⟩
  next first last hcut =>
    obtain ⟨start, hf, h⟩ := bind_eq_ok.1 h
    obtain ⟨finish, hl, h⟩ := bind_eq_ok.1 h
    split at h
    · obtain ⟨_, ht, -⟩ := bind_eq_ok.1 h
      exact absurd ht throw_ne_ok
    · have hy : t.trim = y := pure_eq_ok.1 h
      refine ⟨hy.symm, .inr ⟨first, last, ?_, isFourDigits_of_read hf, isFourDigits_of_read hl⟩⟩
      rw [← hy]
      exact (Text.cut_eq_some_iff.1 hcut).1

theorem isNumeral_of_validate {t y : Text} (h : validate t = .ok y) : IsNumeral y := by
  obtain ⟨-, hd | ⟨first, last, rfl, hf, hl⟩⟩ := validate_ok h
  · exact ⟨ne_nil_of_isFourDigits hd, fun c hc => .inl (isDigit_of_isFourDigits hd hc)⟩
  · refine ⟨by simp, fun c hc => ?_⟩
    rcases List.mem_append.1 hc with hc | hc
    · exact .inl (isDigit_of_isFourDigits hf hc)
    · rcases List.mem_cons.1 hc with rfl | hc
      · exact .inr rfl
      · exact .inl (isDigit_of_isFourDigits hl hc)

theorem validate_trim (t : Text) : validate t.trim = validate t := by
  rw [validate, validate, Text.trim_trim]

/-! ### Years that are written and accepted -/

theorem IsNumeral.not_isBlank {y : Text} (h : IsNumeral y) {c : Char} (hc : c ∈ y) :
    ¬Text.isBlank c := by
  rcases h.2 c hc with hd | rfl
  · rw [Char.isDigit_iff_toNat] at hd
    simp only [Text.isBlank, Text.inRanges, Text.blankRanges, List.any_cons, List.any_nil,
      Bool.or_eq_true, Bool.and_eq_true, decide_eq_true_eq, Bool.false_eq_true, or_false]
    have h0 : '0'.toNat = 48 := rfl
    have h9 : '9'.toNat = 57 := rfl
    omega
  · decide

theorem IsNumeral.trim_eq {y : Text} (h : IsNumeral y) : y.trim = y :=
  Text.trim_of_isTrimmed
    ⟨fun _ hc => h.not_isBlank (List.mem_of_mem_head? hc),
      fun _ hc => h.not_isBlank (List.mem_of_mem_getLast? hc)⟩

theorem validate_of_isFourDigits {t : Text} (h : isFourDigits t) : validate t = .ok t := by
  have hd : ∀ c ∈ t, c.isDigit := fun c => isDigit_of_isFourDigits h
  have hn : IsNumeral t := ⟨ne_nil_of_isFourDigits h, fun c hc => .inl (hd c hc)⟩
  have hm : '-' ∉ t := fun hc => absurd (hd _ hc) (by decide)
  simp only [validate, hn.trim_eq, Text.cut_eq_none_iff.2 hm, read_eq, if_pos h]
  rfl

/-- A year is written with four digits just if it is a number of up to four digits. -/
theorem isFourDigits_leftpad_iff {n : Nat} :
    isFourDigits ((Nat.toDigits 10 n).leftpad 4 '0') ↔ n ≤ 9999 := by
  have hd : ∀ c ∈ (Nat.toDigits 10 n).leftpad 4 '0', c.isDigit := fun c => isDigit_of_mem_leftpad
  have hl : (Nat.toDigits 10 n).length ≤ 4 ↔ n < 10 ^ 4 :=
    Nat.length_toDigits_le_iff (by decide) (by decide)
  rw [isFourDigits_iff, and_iff_left hd, List.length_leftpad]
  omega

theorem validate_format {year : Int} (h : 0 ≤ year ∧ year ≤ 9999) :
    validate (format year) = .ok (format year) := by
  cases year with
  | ofNat n =>
    have hn : n ≤ 9999 := by
      have := h.2
      simp only [Int.ofNat_eq_natCast] at this
      omega
    exact validate_of_isFourDigits (isFourDigits_leftpad_iff.2 hn)
  | negSucc n => exact absurd h.1 (by simp)

/-- Of the years that are written, only those from 0 to 9999 are accepted: the others have a sign,
or more than four digits. -/
theorem of_validate_format {year : Int} {y : Text} (h : validate (format year) = .ok y) :
    0 ≤ year ∧ year ≤ 9999 := by
  obtain ⟨rfl, hy⟩ := validate_ok h
  rw [(isNumeral_format year).trim_eq] at hy
  cases year with
  | ofNat n =>
    rcases hy with hf | ⟨first, last, he, -⟩
    · have hn := isFourDigits_leftpad_iff.1 hf
      simp only [Int.ofNat_eq_natCast]
      omega
    · have hm : '-' ∈ format (.ofNat n) := by rw [he]; simp
      exact absurd (isDigit_of_mem_leftpad hm) (by decide)
  | negSucc n =>
    rcases hy with hf | ⟨first, last, he, hf, -⟩
    · exact absurd (isDigit_of_isFourDigits hf List.mem_cons_self) (by decide)
    · -- The sign would be the hyphen of a range without a first year.
      cases first with
      | nil => exact absurd rfl (ne_nil_of_isFourDigits hf)
      | cons c first =>
        rw [format, List.cons_append, List.cons.injEq] at he
        exact absurd (isDigit_of_isFourDigits hf List.mem_cons_self) (he.1 ▸ by decide)

end LicenseForge.Year
