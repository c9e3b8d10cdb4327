import LicenseForge.Palette
import LicenseForge.Proofs.Text.Utf8
import Mathlib.Data.List.Forall2
import Mathlib.Data.List.TakeWhile

/-!
# Escape sequences are erased

* `Ansi.IsSequence` : the escape sequences that select a rendition.
* `Ansi.erase` : some bytes without these, in one pass from left to right.
* `Ansi.erase_append` : two parts can be erased one by one if no sequence begins in the one and ends
  in the other.
* `Ansi.erase_insert` : a sequence that is put between such parts leaves no trace.
* `Ansi.Alike` and `Ansi.alike_decorated` : bytes that differ in such sequences only.
* `Palette.Marks` : all that a palette puts in are such sequences.
-/

namespace LicenseForge

namespace Ansi

/-! ### Erasing -/

/-- The byte that begins an escape sequence. -/
def escape : UInt8 := 27

/-- The byte behind it, `[`. -/
def bracket : UInt8 := 91

/-- The byte that ends the sequence, `m`. -/
def final : UInt8 := 109

/-- A byte between these, a digit or `;`. -/
def isParameter (b : UInt8) : Bool := (48 ≤ b && b ≤ 57) || b = 59

/-- An escape sequence that selects a rendition. -/
def IsSequence (q : Bytes) : Prop :=
  ∃ ps : Bytes, (∀ b ∈ ps, isParameter b) ∧ q = escape :: bracket :: ps ++ [final]

/-- The bytes behind the sequence that they begin with, if they do. -/
def behind? (bytes : Bytes) : Option Bytes :=
  if bytes.take 2 = [escape, bracket] then
    match (bytes.drop 2).dropWhile isParameter with
    | b :: rest => if b = final then some rest else none
    | [] => none
  else none

theorem behind?_eq_some_iff {bytes rest : Bytes} :
    behind? bytes = some rest ↔ ∃ q, IsSequence q ∧ bytes = q ++ rest := by
  constructor
  · intro h
    unfold behind? at h
    split at h
    next htake =>
      have hbytes : bytes = [escape, bracket] ++ bytes.drop 2 := by
        rw [← htake, List.take_append_drop]
      have hdrop := (bytes.drop 2).takeWhile_append_dropWhile (p := isParameter)
      split at h
      next b r hr =>
        split at h
        next hb =>
          subst hb
          obtain rfl := Option.some.inj h
          rw [hr] at hdrop
          refine ⟨_, ⟨(bytes.drop 2).takeWhile isParameter,
            fun b hb => List.mem_takeWhile_imp hb, rfl⟩, ?_⟩
          calc bytes = [escape, bracket] ++ bytes.drop 2 := hbytes
            _ = [escape, bracket] ++ ((bytes.drop 2).takeWhile isParameter ++ final :: r) := by
              rw [hdrop]
            _ = _ := by simp
        next => cases h
      next => cases h
    next => cases h
  · rintro ⟨_, ⟨ps, hps, rfl⟩, rfl⟩
    have hdrop : (ps ++ final :: rest).dropWhile isParameter = final :: rest := by
      rw [List.dropWhile_append_of_pos hps]
      rfl
    simp [behind?, hdrop]

theorem length_lt_of_behind? {bytes rest : Bytes} (h : behind? bytes = some rest) :
    rest.length < bytes.length := by
  obtain ⟨_, ⟨ps, -, rfl⟩, rfl⟩ := behind?_eq_some_iff.1 h
  simp only [List.length_append, List.length_cons, List.length_nil]
  omega

/-- The bytes without escape sequences that select a rendition, found in one pass from left to
right. -/
def erase : Bytes → Bytes
  | [] => []
  | b :: bytes =>
    match _h : behind? (b :: bytes) with
    | some rest => erase rest
    | none => b :: erase bytes
termination_by bytes => bytes.length
decreasing_by
  · exact length_lt_of_behind? ‹_›
  · exact Nat.lt_succ_self bytes.length

variable {s t q r : Bytes}

@[simp] theorem erase_nil : erase [] = [] := by rw [erase]

theorem erase_cons_of_none {b : UInt8} (h : behind? (b :: s) = none) :
    erase (b :: s) = b :: erase s := by
  rw [erase]
  split
  next hs => rw [h] at hs; cases hs
  next => rfl

theorem erase_of_some (h : behind? s = some t) : erase s = erase t := by
  cases s with
  | nil => simp [behind?] at h
  | cons b s =>
    rw [erase]
    split
    next hs => obtain rfl := Option.some.inj (hs.symm.trans h); rfl
    next hs => rw [h] at hs; cases hs

theorem erase_sequence_append (hq : IsSequence q) (t : Bytes) : erase (q ++ t) = erase t :=
  erase_of_some (behind?_eq_some_iff.2 ⟨q, hq, rfl⟩)

theorem erase_of_notMem (h : escape ∉ s) : erase s = s := by
  induction s with
  | nil => exact erase_nil
  | cons b s ih =>
    simp only [List.mem_cons, not_or] at h
    have hnone : behind? (b :: s) = none := by
      cases s <;> simp [behind?, Ne.symm h.1]
    rw [erase_cons_of_none hnone, ih h.2]

/-! ### Parts -/

/-- No sequence that is open goes on behind the bytes. -/
def Sealed (s : Bytes) : Prop := ∀ b ∈ s.getLast?, b ≠ escape ∧ b ≠ bracket ∧ ¬isParameter b

/-- The bytes go on with no sequence that is open in front of them. -/
def Free (t : Bytes) : Prop := ∀ b ∈ t.head?, b ≠ bracket ∧ ¬isParameter b ∧ b ≠ final

instance (s : Bytes) : Decidable (Sealed s) := Option.decidableForallMem s.getLast?

instance (t : Bytes) : Decidable (Free t) := Option.decidableForallMem t.head?

@[simp] theorem sealed_nil : Sealed [] := by simp [Sealed]

theorem sealed_append_of_ne_nil (h : t ≠ []) : Sealed (s ++ t) ↔ Sealed t := by
  simp [Sealed, List.getLast?_append_of_ne_nil s h]

theorem free_append_of_ne_nil (h : s ≠ []) : Free (s ++ t) ↔ Free s := by
  simp [Free, List.head?_append_of_ne_nil s h]

theorem Sealed.append (hs : Sealed s) (ht : Sealed t) : Sealed (s ++ t) := by
  by_cases h : t = []
  · rwa [h, List.append_nil]
  · exact (sealed_append_of_ne_nil h).2 ht

theorem Sealed.of_append_left (h : Sealed (q ++ s)) : Sealed s := by
  by_cases hs : s = []
  · rw [hs]
    exact sealed_nil
  · exact (sealed_append_of_ne_nil hs).1 h

theorem IsSequence.free (hq : IsSequence q) (t : Bytes) : Free (q ++ t) := by
  obtain ⟨ps, -, rfl⟩ := hq
  intro b hb
  obtain rfl : escape = b := by simpa using hb
  decide

/-- What a sequence begins with is not sealed, and what it ends with is not free. -/
theorem IsSequence.cut (hq : IsSequence (s ++ t)) (hs : s ≠ []) (ht : t ≠ []) (r : Bytes) :
    ¬Sealed s ∧ ¬Free (t ++ r) := by
  obtain ⟨ps, hps, heq⟩ := hq
  constructor
  · -- all but the last byte of a sequence leave it open
    intro hsealed
    have hlast : s.getLast hs ∈ escape :: bracket :: ps := by
      have hprefix : s <+: escape :: bracket :: ps := by
        rcases List.append_eq_append_iff.1 heq with ⟨u, h, -⟩ | ⟨u, rfl, h⟩
        · exact ⟨u, h.symm⟩
        · obtain rfl : u = [] := by
            cases u with
            | nil => rfl
            | cons b u => simp [ht] at h
          exact ⟨[], by simp⟩
      exact hprefix.subset (List.getLast_mem hs)
    obtain ⟨he, hb, hp⟩ := hsealed _ (List.getLast?_eq_getLast_of_ne_nil hs)
    rcases List.mem_cons.1 hlast with h | h
    · exact he h
    · rcases List.mem_cons.1 h with h | h
      · exact hb h
      · exact hp (hps _ h)
  · -- and so do all but the first one go on with it
    intro hfree
    obtain ⟨b, t, rfl⟩ := List.exists_cons_of_ne_nil ht
    obtain ⟨hb, hp, hf⟩ := hfree b rfl
    have hmem : b ∈ bracket :: ps ++ [final] := by
      obtain ⟨a, s, rfl⟩ := List.exists_cons_of_ne_nil hs
      have htail : s ++ b :: t = bracket :: ps ++ [final] := (List.cons.inj heq).2
      rw [← htail]
      simp
    simp only [List.cons_append, List.mem_cons, List.mem_append, List.not_mem_nil, or_false] at hmem
    rcases hmem with h | h | h
    · exact hb h
    · exact hp (hps _ h)
    · exact hf h

/-- A sequence does not reach over the border between parts. -/
theorem behind?_append_eq_none (hne : s ≠ []) (h : Sealed s ∨ Free t) (hs : behind? s = none) :
    behind? (s ++ t) = none := by
  rw [Option.eq_none_iff_forall_ne_some]
  intro rest hrest
  obtain ⟨q, hq, heq⟩ := behind?_eq_some_iff.1 hrest
  rcases List.append_eq_append_iff.1 heq with ⟨u, rfl, rfl⟩ | ⟨u, rfl, -⟩
  · by_cases hu : u = []
    · subst hu
      rw [List.append_nil] at hq
      rw [behind?_eq_some_iff.2 ⟨s, hq, (List.append_nil s).symm⟩] at hs
      cases hs
    · obtain ⟨hsealed, hfree⟩ := hq.cut hne hu rest
      exact h.elim hsealed hfree
  · rw [behind?_eq_some_iff.2 ⟨q, hq, rfl⟩] at hs
    cases hs

/-- Parts can be erased one by one if no sequence reaches over the border between them. -/
theorem erase_append (h : Sealed s ∨ Free t) : erase (s ++ t) = erase s ++ erase t := by
  induction hn : s.length using Nat.strongRecOn generalizing s with
  | _ n ih =>
    cases s with
    | nil => simp
    | cons b s =>
      cases hb : behind? (b :: s) with
      | none =>
        have happ := behind?_append_eq_none (List.cons_ne_nil b s) h hb
        have hrest : Sealed s ∨ Free t := h.imp_left (Sealed.of_append_left (q := [b]))
        rw [List.cons_append] at happ ⊢
        rw [erase_cons_of_none happ, erase_cons_of_none hb, List.cons_append,
          ih s.length (by simp [← hn]) hrest rfl]
      | some rest =>
        obtain ⟨q, hq, heq⟩ := behind?_eq_some_iff.1 hb
        have hrest : Sealed rest ∨ Free t := by
          rw [heq] at h
          exact h.imp_left Sealed.of_append_left
        have hlen := length_lt_of_behind? hb
        rw [heq, List.append_assoc, erase_sequence_append hq, erase_sequence_append hq,
          ih rest.length (hn ▸ hlen) hrest rfl]

/-- A sequence, or nothing. -/
def IsMark (q : Bytes) : Prop := q = [] ∨ IsSequence q

/-- A sequence that is put between parts leaves no trace. -/
theorem erase_insert (hq : IsMark q) (h : Sealed s ∨ Free t) :
    erase (s ++ (q ++ t)) = erase (s ++ t) := by
  rcases hq with rfl | hq
  · rfl
  · rw [erase_append (.inr (hq.free t)), erase_sequence_append hq, erase_append h]

/-! ### Bytes that differ in sequences only -/

/-- The bytes are the same without escape sequences, whatever stands behind them. -/
structure Alike (x y : Bytes) : Prop where
  erase_eq : erase x = erase y
  sealed_left : Sealed x
  sealed_right : Sealed y

section

variable {x y x' y' : Bytes} {a b c : Text}

theorem Alike.refl (h : Sealed x) : Alike x x := ⟨rfl, h, h⟩

theorem Alike.append (h : Alike x y) (h' : Alike x' y') : Alike (x ++ x') (y ++ y') where
  erase_eq := by
    rw [erase_append (.inl h.sealed_left), erase_append (.inl h.sealed_right), h.erase_eq,
      h'.erase_eq]
  sealed_left := h.sealed_left.append h'.sealed_left
  sealed_right := h.sealed_right.append h'.sealed_right

theorem Alike.flatMap {α β : Type} {R : α → β → Prop} {f : α → Bytes} {g : β → Bytes}
    {xs : List α} {ys : List β} (h : List.Forall₂ R xs ys)
    (hR : ∀ x y, R x y → Alike (f x) (g y)) : Alike (xs.flatMap f) (ys.flatMap g) := by
  induction h with
  | nil => exact .refl sealed_nil
  | cons hxy _ ih =>
    rw [List.flatMap_cons, List.flatMap_cons]
    exact (hR _ _ hxy).append ih

/-- The bytes are the same without escape sequences. So if nothing in `y` begins one, `x` without
them is just `y`. -/
def Decorates (x y : Bytes) : Prop := erase x = erase y ∧ (escape ∉ y → erase x = y)

theorem Alike.decorates (h : Alike x y) : Decorates x y :=
  ⟨h.erase_eq, fun hy => by rw [h.erase_eq, erase_of_notMem hy]⟩

theorem sealed_encode_append (hb : b ≠ []) (h : Sealed b.encode) (a : Text) :
    Sealed (a ++ b).encode := by
  rw [Text.encode_append]
  exact (sealed_append_of_ne_nil (Text.encode_ne_nil hb)).2 h

theorem free_encode_append (ha : a ≠ []) (h : Free a.encode) (b : Text) :
    Free (a ++ b).encode := by
  rw [Text.encode_append]
  exact (free_append_of_ne_nil (Text.encode_ne_nil ha)).2 h

/-- A text that ends its line is sealed. -/
theorem sealed_line (a : Text) : Sealed (a ++ ['\n']).encode :=
  sealed_encode_append (by decide) (by decide) a

/-- It makes no difference which sequences stand around a text, if what is in front of it is sealed
and what is behind it is free. -/
theorem alike_decorated {q r q' r' : Text} (ha : Sealed a.encode) (hc : Free c.encode)
    (hend : Sealed c.encode) (hne : c ≠ []) (hq : IsMark q.encode) (hr : IsMark r.encode)
    (hq' : IsMark q'.encode) (hr' : IsMark r'.encode) :
    Alike (a ++ (q ++ (b ++ (r ++ c)))).encode (a ++ (q' ++ (b ++ (r' ++ c)))).encode := by
  have herase {q r : Text} (hq : IsMark q.encode) (hr : IsMark r.encode) :
      erase (a ++ (q ++ (b ++ (r ++ c)))).encode = erase (a ++ (b ++ c)).encode := by
    simp only [Text.encode_append]
    rw [erase_insert hq (.inl ha), ← List.append_assoc, erase_insert hr (.inr hc),
      List.append_assoc]
  have hsealed (q r : Text) : Sealed (a ++ (q ++ (b ++ (r ++ c)))).encode := by
    simp only [← List.append_assoc]
    exact sealed_encode_append hne hend _
  exact ⟨(herase hq hr).trans (herase hq' hr').symm, hsealed q r, hsealed q' r'⟩

end

theorem isSequence_select {code : String} (h : (Text.encode code.toList).all isParameter) :
    IsSequence (select code).encode :=
  ⟨Text.encode code.toList, List.all_eq_true.1 h, by rw [select, Text.encode_append]; rfl⟩

/-- Every standard sequence is erased. -/
theorem isSequence_of_mem_standard {q : Text} (hq : q ∈ standard) : IsSequence q.encode := by
  simp only [standard, List.mem_cons, List.not_mem_nil, or_false] at hq
  rcases hq with rfl | rfl | rfl | rfl | rfl | rfl | rfl | rfl | rfl | rfl | rfl | rfl | rfl | rfl |
    rfl | rfl | rfl <;>
    exact isSequence_select (by decide)

end Ansi

/-! ### Palettes -/

namespace Palette

/-- All that the palette puts in are escape sequences. -/
def Marks (p : Palette) : Prop := ∀ c ∈ p.sequences, Ansi.IsMark c.encode

/-- The colours of the output are standard ones. -/
theorem sequences_colored_subset : colored.sequences ⊆ Ansi.standard := by decide

theorem marks_colored : colored.Marks := fun _ hc =>
  .inr (Ansi.isSequence_of_mem_standard (sequences_colored_subset hc))

theorem marks_plain : plain.Marks := by
  intro c hc
  refine .inl ?_
  obtain rfl : c = [] := by simpa [sequences, plain] using hc
  rfl

variable {p p' : Palette} {a b c : Text}

theorem isMark_sequence (hp : p.Marks) (hc : c ∈ p.sequences) :
    Ansi.IsMark (p.sequence c).encode := by
  unfold sequence
  split
  · exact hp c hc
  · exact .inl rfl

theorem paint_eq (p : Palette) (color t : Text) :
    p.paint color t = p.sequence color ++ (t ++ p.sequence p.reset) := by
  unfold paint parts sequence
  split <;> simp

/-- It makes no difference in which palette a text is decorated, if what is in front of it is sealed
and what is behind it is free. -/
theorem alike_decorated (hp : p.Marks) (hp' : p'.Marks) (start : Palette → Text)
    (hstart : ∀ p, start p ∈ p.sequences) (ha : Ansi.Sealed a.encode) (hc : Ansi.Free c.encode)
    (hend : Ansi.Sealed c.encode) (hne : c ≠ []) :
    Ansi.Alike (a ++ (start p ++ (b ++ (p.reset ++ c)))).encode
      (a ++ (start p' ++ (b ++ (p'.reset ++ c)))).encode :=
  have hreset (p : Palette) : p.reset ∈ p.sequences := by simp [sequences]
  Ansi.alike_decorated ha hc hend hne (hp _ (hstart p)) (hp _ (hreset p)) (hp' _ (hstart p'))
    (hp' _ (hreset p'))

/-- In a line, what is in front of the decorated text and what is behind it begin and end with
characters of no sequence. -/
theorem alike_decorated_line (hp : p.Marks) (hp' : p'.Marks) (start : Palette → Text)
    (hstart : ∀ p, start p ∈ p.sequences) (ha : Ansi.Sealed a.encode)
    (hc : Ansi.Free (c ++ ['\n']).encode) :
    Ansi.Alike (a ++ start p ++ b ++ p.reset ++ c ++ ['\n']).encode
      (a ++ start p' ++ b ++ p'.reset ++ c ++ ['\n']).encode := by
  simpa only [List.append_assoc] using
    alike_decorated (b := b) hp hp' start hstart ha hc (Ansi.sealed_line c) (by simp)

end Palette

end LicenseForge
