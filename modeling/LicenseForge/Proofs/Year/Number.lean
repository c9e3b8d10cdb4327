import LicenseForge.Proofs.Year.Grammar

/-!
# Years and their numbers

A year in writing tells which year it is, and years of four digits stand in the order of time.

* `Year.number` : the number that a year in writing denotes, which may have a sign.
* `Year.number_format` : every year is read back from its writing.
* `Year.precedes_iff` : texts of equally many digits are in the order of their numbers.
* `Year.format_faithful` : which written years are accepted, what they denote, and their order.
-/

namespace LicenseForge.Year

/-! ### Reading a year back -/

/-- The number that a text of decimal digits denotes, in front of which a minus sign may stand. -/
def number (t : Text) : Int :=
  if t.head? = some '-' then -(Nat.ofDigitChars 10 t.tail 0 : Int)
  else (Nat.ofDigitChars 10 t 0 : Int)

/-- Zeros in front of a number change nothing. -/
theorem ofDigitChars_leftpad (width n : Nat) :
    Nat.ofDigitChars 10 ((Nat.toDigits 10 n).leftpad width '0') 0 = n := by
  rw [List.leftpad, Nat.ofDigitChars_append, Nat.ofDigitChars_replicate_zero, Nat.mul_zero,
    Nat.ofDigitChars_ten_toDigits]

/-- A year is what its writing denotes, with the minus sign in one of the four places. -/
theorem number_format (year : Int) : number (format year) = year := by
  cases year with
  | ofNat n =>
    have hsign : (format (.ofNat n)).head? ≠ some '-' := by
      intro h
      exact absurd (isDigit_of_mem_leftpad (List.mem_of_mem_head? h)) (by decide)
    rw [number, if_neg hsign, format, ofDigitChars_leftpad]
    rfl
  | negSucc n =>
    have hsign : (format (.negSucc n)).head? = some '-' := rfl
    rw [number, if_pos hsign, format, List.tail_cons, ofDigitChars_leftpad]
    rfl

theorem format_injective : Function.Injective format :=
  Function.LeftInverse.injective number_format

/-! ### The order of digits -/

/-- The first digit counts for more than all digits behind it. -/
theorem value_cons (c : Char) (t : Text) :
    value (c :: t) = 10 ^ t.length * (c.toNat - '0'.toNat) + value t := by
  rw [value_eq_ofDigitChars, Nat.ofDigitChars_cons, Nat.ofDigitChars_eq_ofDigitChars_zero,
    Nat.mul_zero, Nat.zero_add, value_eq_ofDigitChars]

/-- Two numbers with one digit in front of each are in the order of these digits, or of the numbers
if the digits are the same. -/
theorem front_lt_iff {p x y a b : Nat} (ha : a < p) (hb : b < p) :
    p * x + a < p * y + b ↔ x < y ∨ x = y ∧ a < b := by
  rcases Nat.lt_trichotomy x y with h | rfl | h
  · have hle : p * x + p ≤ p * y := Nat.mul_le_mul_left p h
    omega
  · omega
  · have hle : p * y + p ≤ p * x := Nat.mul_le_mul_left p h
    omega

/-- The byte of a digit is the byte of zero and the number of the digit. -/
theorem toNat_ofNat_of_isDigit {c : Char} (h : c.isDigit) :
    (UInt8.ofNat c.toNat).toNat = '0'.toNat + (c.toNat - '0'.toNat) := by
  have hlow := (Char.isDigit_iff_toNat.1 h).1
  have hhigh := toNat_lt_of_isDigit h
  rw [UInt8.toNat_ofNat']
  omega

/-- **Digits sort like numbers.** Texts of equally many digits are in the order of their numbers. -/
theorem precedes_iff {s t : Text} (hlen : s.length = t.length) (hs : ∀ c ∈ s, c.isDigit)
    (ht : ∀ c ∈ t, c.isDigit) : s.Precedes t ↔ value s < value t := by
  rw [Text.Precedes, Text.encode_eq_map fun c hc => toNat_lt_of_isDigit (hs c hc),
    Text.encode_eq_map fun c hc => toNat_lt_of_isDigit (ht c hc)]
  induction s generalizing t with
  | nil =>
    obtain rfl := List.eq_nil_of_length_eq_zero hlen.symm
    simp
  | cons c s ih =>
    cases t with
    | nil => simp at hlen
    | cons d t =>
      obtain ⟨hc, hs⟩ := List.forall_mem_cons.1 hs
      obtain ⟨hd, ht⟩ := List.forall_mem_cons.1 ht
      have hlen : s.length = t.length := Nat.succ.inj hlen
      have hvs := value_lt hs
      have hvt := value_lt ht
      rw [← hlen] at hvt
      rw [List.map_cons, List.map_cons, List.cons_lt_cons_iff, ih hlen hs ht, value_cons,
        value_cons, ← hlen, front_lt_iff hvs hvt, UInt8.lt_iff_toNat_lt, ← UInt8.toNat_inj,
        toNat_ofNat_of_isDigit hc, toNat_ofNat_of_isDigit hd]
      omega

/-! ### Years of four digits -/

theorem fourDigits_format {year : Int} (h : 0 ≤ year ∧ year ≤ 9999) : FourDigits (format year) := by
  cases year with
  | ofNat n =>
    have hn : n ≤ 9999 := Int.ofNat_le.1 h.2
    exact isFourDigits_iff_fourDigits.1 (isFourDigits_leftpad_iff.2 hn)
  | negSucc n => exact absurd h.1 (by simp)

/-- Four digits have no sign. -/
theorem FourDigits.number_eq {t : Text} (h : FourDigits t) :
    number t = (Nat.ofDigitChars 10 t 0 : Int) := by
  have hsign : ¬t.head? = some '-' := fun hh => h.hyphen_notMem (List.mem_of_mem_head? hh)
  rw [number, if_neg hsign]

theorem ofDigitChars_format {year : Int} (h : 0 ≤ year ∧ year ≤ 9999) :
    (Nat.ofDigitChars 10 (format year) 0 : Int) = year := by
  rw [← (fourDigits_format h).number_eq, number_format]

theorem precedes_format_iff {y z : Int} (hy : 0 ≤ y ∧ y ≤ 9999) (hz : 0 ≤ z ∧ z ≤ 9999) :
    (format y).Precedes (format z) ↔ y < z := by
  have hfy := fourDigits_format hy
  have hfz := fourDigits_format hz
  rw [precedes_iff (hfy.length.trans hfz.length.symm) hfy.isDigit hfz.isDigit,
    value_eq_ofDigitChars, value_eq_ofDigitChars, ← Int.ofNat_lt, ofDigitChars_format hy,
    ofDigitChars_format hz]

/-- **A year in writing is that year.** Of the written years those from 0 to 9999 are accepted, as
they are written, in four digits that denote them. No two years are written alike, and the years
from 0 to 9999 are in the same order in writing and in time. -/
theorem format_faithful :
    (∀ y : Int, (∃ t, validate (format y) = .ok t) ↔ 0 ≤ y ∧ y ≤ 9999) ∧
      (∀ (y : Int) (t : Text), validate (format y) = .ok t →
        t = format y ∧ FourDigits t ∧ (Nat.ofDigitChars 10 t 0 : Int) = y) ∧
      Function.Injective format ∧
      ∀ y z : Int, 0 ≤ y ∧ y ≤ 9999 → 0 ≤ z ∧ z ≤ 9999 →
        ((format y).Precedes (format z) ↔ y < z) := by
  refine ⟨fun y => ⟨?_, fun h => ⟨format y, validate_format h⟩⟩, ?_, format_injective,
    fun y z => precedes_format_iff⟩
  · rintro ⟨t, h⟩
    exact of_validate_format h
  · intro y t h
    have hy := of_validate_format h
    obtain rfl : format y = t := Except.ok.inj ((validate_format hy).symm.trans h)
    exact ⟨rfl, fourDigits_format hy, ofDigitChars_format hy⟩

/-- The years 7 and 1066, and a year that is too long. -/
theorem format_faithful_early :
    (validate (format 7) = .ok "0007".toList ∧
        "0007".toList = format 7 ∧ FourDigits "0007".toList ∧
        (Nat.ofDigitChars 10 "0007".toList 0 : Int) = 7) ∧
      ((0 ≤ (7 : Int) ∧ (7 : Int) ≤ 9999) ∧ (0 ≤ (1066 : Int) ∧ (1066 : Int) ≤ 9999) ∧
        (format 7).Precedes (format 1066)) := by
  have h : validate (format 7) = .ok "0007".toList := by decide +kernel
  have h7 : 0 ≤ (7 : Int) ∧ (7 : Int) ≤ 9999 := by decide
  have h1066 : 0 ≤ (1066 : Int) ∧ (1066 : Int) ≤ 9999 := by decide
  exact ⟨⟨h, format_faithful.2.1 7 _ h⟩, h7, h1066,
    (format_faithful.2.2.2 7 1066 h7 h1066).2 (by decide)⟩

end LicenseForge.Year
