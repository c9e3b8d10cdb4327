/-!
# Texts and their bytes

* `Text` : a text is the list of its characters, so that every scan is a recursion on a list.
* `Text.encode` and `Text.decode?` : the UTF-8 form of a text, and back.
* `Text.inRanges` : a class of characters, given by the ranges of its code points.
* `Text.cut` : a text split at the first occurrence of a character.
* `Text.Precedes` : the order of texts by their bytes.
-/

namespace LicenseForge

/-- A sequence of bytes, as it travels on a stream or lies in a file. -/
abbrev Bytes := List UInt8

/-- A text: the list of its characters. -/
abbrev Text := List Char

namespace Text

/-! ### UTF-8 -/

/-- The UTF-8 bytes of a text. -/
def encode (t : Text) : Bytes := t.flatMap String.utf8EncodeChar

@[simp] theorem encode_nil : encode [] = [] := rfl

@[simp] theorem encode_cons (c : Char) (t : Text) :
    encode (c :: t) = String.utf8EncodeChar c ++ encode t := rfl

@[simp] theorem encode_append (s t : Text) : encode (s ++ t) = encode s ++ encode t := by
  simp [encode]

theorem utf8Encode_eq (t : Text) : List.utf8Encode t = ⟨(encode t).toArray⟩ := by
  apply ByteArray.ext
  simp [List.utf8Encode, encode, List.data_toByteArray]

theorem toByteArray_ofList_eq (t : Text) :
    (String.ofList t).toByteArray = ⟨(encode t).toArray⟩ := by
  rw [String.toByteArray_ofList, utf8Encode_eq]

theorem encode_injective {s t : Text} (h : encode s = encode t) : s = t := by
  have : String.ofList s = String.ofList t := by
    apply String.toByteArray_inj.1
    rw [toByteArray_ofList_eq, toByteArray_ofList_eq, h]
  simpa using congrArg String.toList this

/-- The text that a sequence of bytes spells, if it is well-formed UTF-8. -/
def decode? (bytes : Bytes) : Option Text :=
  (String.fromUTF8? ⟨bytes.toArray⟩).map String.toList

theorem decode?_eq_some_iff {bytes : Bytes} {t : Text} :
    decode? bytes = some t ↔ bytes = encode t := by
  constructor
  · intro h
    obtain ⟨s, hs, rfl⟩ := Option.map_eq_some_iff.1 h
    have hb : s.toByteArray = ⟨bytes.toArray⟩ := by
      unfold String.fromUTF8? at hs
      split at hs
      · simp only [Option.some.injEq] at hs
        rw [← hs]; rfl
      · simp at hs
    have he := toByteArray_ofList_eq s.toList
    rw [String.ofList_toList, hb] at he
    simpa using congrArg (fun b => b.data.toList) he
  · rintro rfl
    have hv : (⟨(encode t).toArray⟩ : ByteArray).IsValidUTF8 := by
      rw [← toByteArray_ofList_eq]; exact (String.ofList t).isValidUTF8
    have : String.fromUTF8? ⟨(encode t).toArray⟩ = some (String.ofList t) := by
      unfold String.fromUTF8?
      rw [dif_pos (by simpa using hv)]
      apply congrArg some
      apply String.toByteArray_inj.1
      rw [toByteArray_ofList_eq]; rfl
    simp [decode?, this]

@[simp] theorem decode?_encode (t : Text) : decode? (encode t) = some t :=
  decode?_eq_some_iff.2 rfl

/-! ### Classes of characters -/

/-- The code point lies in one of the ranges. -/
def inRanges (ranges : List (Nat × Nat)) (c : Char) : Bool :=
  ranges.any fun r => r.1 ≤ c.toNat && c.toNat ≤ r.2

/-! ### Cutting -/

/-- What stands before and after the first `mark`, if there is one. -/
def cut (mark : Char) : Text → Option (Text × Text)
  | [] => none
  | c :: t => if c = mark then some ([], t) else (cut mark t).map fun p => (c :: p.1, p.2)

theorem cut_eq_some_iff {mark : Char} {t a b : Text} :
    cut mark t = some (a, b) ↔ t = a ++ mark :: b ∧ mark ∉ a := by
  induction t generalizing a with
  | nil => simp [cut]
  | cons c t ih =>
    by_cases h : c = mark
    · subst h
      cases a with
      | nil => simp [cut, eq_comm]
      | cons d a =>
        simp only [cut, if_true, Option.some.injEq, Prod.mk.injEq, List.cons_append,
          List.cons.injEq, List.mem_cons, not_or]
        constructor
        · rintro ⟨h, -⟩; simp at h
        · rintro ⟨⟨h, -⟩, h', -⟩; exact absurd h h'
    · cases a with
      | nil => simp [cut, h]
      | cons d a =>
        simp only [cut, h, if_false, Option.map_eq_some_iff, Prod.mk.injEq, List.cons.injEq,
          List.cons_append, List.mem_cons, not_or, Prod.exists]
        constructor
        · rintro ⟨x, y, hxy, ⟨rfl, rfl⟩, rfl⟩
          obtain ⟨e, hm⟩ := ih.1 hxy
          exact ⟨⟨rfl, e⟩, Ne.symm h, hm⟩
        · rintro ⟨⟨rfl, rfl⟩, _, hm⟩
          exact ⟨a, b, ih.2 ⟨rfl, hm⟩, ⟨rfl, rfl⟩, rfl⟩

theorem cut_eq_none_iff {mark : Char} {t : Text} : cut mark t = none ↔ mark ∉ t := by
  induction t with
  | nil => simp [cut]
  | cons c t ih =>
    by_cases h : c = mark
    · simp [cut, h]
    · simp [cut, h, ih, Ne.symm h]

/-- An empty text is no text. -/
def nonempty? (t : Text) : Option Text := if t.isEmpty then none else some t

/-! ### Byte order -/

/-- The order of texts by their UTF-8 bytes. -/
def Precedes (s t : Text) : Prop := encode s < encode t

instance (s t : Text) : Decidable (Precedes s t) := inferInstanceAs (Decidable (_ < _))

theorem Precedes.irrefl (t : Text) : ¬Precedes t t := List.lt_irrefl _

theorem Precedes.trans {s t u : Text} (h : Precedes s t) (h' : Precedes t u) : Precedes s u :=
  List.lt_trans h h'

theorem not_precedes_trans {s t u : Text} (h : ¬Precedes t s) (h' : ¬Precedes u t) :
    ¬Precedes u s :=
  List.not_lt.2 (List.le_trans (List.not_lt.1 h) (List.not_lt.1 h'))

theorem eq_of_not_precedes {s t : Text} (h : ¬Precedes s t) (h' : ¬Precedes t s) : s = t :=
  encode_injective (List.le_antisymm (List.not_lt.1 h') (List.not_lt.1 h))

end Text

end LicenseForge
